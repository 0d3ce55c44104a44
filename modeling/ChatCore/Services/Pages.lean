import ChatCore.Paging.Keyset
import ChatCore.Relational.Alone
import ChatCore.Services.Admin
import Mathlib.Data.Prod.Lex
import Mathlib.Data.String.Basic

namespace ChatCore.Services

open Protocol Relational Database Paging

variable {ρ α : Type} {collation : Collation} {timestamp : ρ → Timestamp} {id : ρ → Id} {rows : List ρ} {r s : ρ}

section Order

variable (collation timestamp id)

def position (r : ρ) : Timestamp ×ₗ collation.Key := toLex (timestamp r, collation.sortKey (id r))

def bound (cursor : TimeCursor) : Timestamp ×ₗ collation.Key :=
  toLex (1000 * cursor.timestamp, collation.sortKey cursor.id)

def descending (rows : List ρ) : List ρ := rows.mergeSort (latestFirst collation timestamp id)

variable {collation timestamp id}

lemma beforeCursor_iff {cursor : TimeCursor} : beforeCursor collation cursor (timestamp r) (id r) = true ↔
    position collation timestamp id r < bound collation cursor := by
  simp [beforeCursor, position, bound, Prod.Lex.toLex_lt_toLex]

lemma latestFirst_iff : latestFirst collation timestamp id r s = true ↔
    position collation timestamp id s ≤ position collation timestamp id r := by
  simp [latestFirst, position, Prod.Lex.toLex_le_toLex]

lemma descending_perm : (descending collation timestamp id rows).Perm rows := List.mergeSort_perm _ _

lemma mem_descending : r ∈ descending collation timestamp id rows ↔ r ∈ rows := descending_perm.mem_iff

lemma descending_le : (descending collation timestamp id rows).Pairwise
    fun r s => latestFirst collation timestamp id r s = true := by
  refine List.pairwise_mergeSort (fun a b c hab hbc => ?_) (fun a b => ?_) rows
  · rw [latestFirst_iff] at hab hbc ⊢
    exact hbc.trans hab
  · rw [Bool.or_eq_true, latestFirst_iff, latestFirst_iff]
    exact le_total _ _

lemma position_inj (hid : (rows.map id).Nodup) (hr : r ∈ rows) (hs : s ∈ rows)
    (h : position collation timestamp id r = position collation timestamp id s) : r = s :=
  List.inj_on_of_nodup_map hid hr hs (collation.injective (Prod.mk.inj (toLex.injective h)).2)

variable (collation timestamp) in
lemma descending_nodup (hid : (rows.map id).Nodup) : ((descending collation timestamp id rows).map id).Nodup :=
  (descending_perm.map id).nodup_iff.mpr hid

lemma descending_lt (hid : (rows.map id).Nodup) : (descending collation timestamp id rows).Pairwise
    fun r s => position collation timestamp id s < position collation timestamp id r := by
  have hne := List.pairwise_map.mp (descending_nodup collation timestamp hid)
  refine (descending_le.and hne).imp fun h => lt_of_le_of_ne (latestFirst_iff.mp h.1) fun heq => h.2 ?_
  exact (collation.injective (Prod.mk.inj (toLex.injective heq)).2).symm

lemma filter_descending (hid : (rows.map id).Nodup) (p : ρ → Bool) :
    (descending collation timestamp id rows).filter p =
    descending collation timestamp id (rows.filter p) := by
  refine List.Perm.eq_of_pairwise (fun a b ha hb hab hba => ?_) (descending_le.filter p) descending_le
    ((descending_perm.filter p).trans descending_perm.symm)
  have ha' := mem_descending.mp (List.mem_of_mem_filter ha)
  have hb' := List.mem_of_mem_filter (mem_descending.mp hb)
  exact position_inj hid ha' hb' (le_antisymm (latestFirst_iff.mp hba) (latestFirst_iff.mp hab))

end Order

def Pagination.cursor : Pagination → Option String
  | .more nextCursor => some nextCursor
  | .last => none

def Page.shown (id : α → Id) (page : Page α) : List Id × Option String :=
  (page.data.map id, page.pagination.cursor)

def answer (list : Option String → Query (Page α)) (id : α → Id) (db : Tables) (cursor : Option String) :
    Except ServerError (List Id × Option String) := ((list cursor).run db).1.map (Page.shown id)

/-- Following the cursors from the start ends, and shows these rows, each once and in descending order. -/
def Complete (list : Option String → Query (Page α)) (idOf : α → Id) (db : Tables) (collation : Collation)
    (timestamp : ρ → Timestamp) (id : ρ → Id) (rows : List ρ) : Prop :=
  ∃ shown, List.Perm shown rows ∧
    shown.Pairwise (fun r s => position collation timestamp id s < position collation timestamp id r) ∧
    ∃ n, traverse (answer list idOf db) n none = some (.ok (shown.map id))

/-- At the end of each page, the row that follows is before the millisecond of the last row, or at its start with a
smaller id; in the lists that refuse a cursor without an id, the last row has one. -/
def PagesMeet (collation : Collation) (timestamp : ρ → Timestamp) (id : ρ → Id) (named : Bool) (limit : ℕ)
    (rows : List ρ) : Prop :=
  ∀ k tail next, limit ∣ k + 1 → (descending collation timestamp id rows)[k]? = some tail →
    (descending collation timestamp id rows)[k + 1]? = some next →
    (named = true → id tail ≠ "") ∧
      beforeCursor collation ⟨toISOString (timestamp tail), id tail⟩ (timestamp next) (id next) = true

lemma complete_iff_traverse {list : Option String → Query (Page α)} {idOf : α → Id} {db : Tables}
    (hid : (rows.map id).Nodup) : Complete list idOf db collation timestamp id rows ↔
      ∃ n, traverse (answer list idOf db) n none =
      some (.ok ((descending collation timestamp id rows).map id)) := by
  constructor
  · rintro ⟨shown, hperm, hlt, hn⟩
    have heq : shown = descending collation timestamp id rows :=
      List.Perm.eq_of_pairwise (fun _ _ _ _ hab hba => absurd hab hba.not_gt) hlt (descending_lt hid)
        (hperm.trans descending_perm.symm)
    exact heq ▸ hn
  · exact fun hn => ⟨_, descending_perm, descending_lt hid, hn⟩

section Keysets

variable (timestamp id) {limit : ℕ} (hl : 1 ≤ limit) {token : ρ → String} {decode : String → Option TimeCursor}
  (hid : (rows.map id).Nodup)

def keyset (collation : Collation) (hread : ∀ r ∈ rows, ∀ cursor, decode (token r) = some cursor →
    cursor = ⟨toISOString (timestamp r), id r⟩) : Keyset ρ (Timestamp ×ₗ collation.Key) String where
  rows := descending collation timestamp id rows
  position := position collation timestamp id
  sorted := descending_lt hid
  limit := limit
  positive := hl
  token := token
  decode text := (decode text).map (bound collation)
  faithful r hr b hb := by
    obtain ⟨cursor, hc, rfl⟩ := Option.map_eq_some_iff.mp hb
    rw [hread r (mem_descending.mp hr) cursor hc, bound, position, Prod.Lex.toLex_le_toLex]
    change 1000 * (timestamp r / 1000) < timestamp r ∨ 1000 * (timestamp r / 1000) = timestamp r ∧ _
    rcases lt_or_eq_of_le (Int.mul_ediv_self_le (x := timestamp r) (k := 1000) (by decide)) with h | h
    · exact Or.inl h
    · exact Or.inr ⟨h, le_refl _⟩

variable {timestamp id} {named : Bool}

def Reads (timestamp : ρ → Timestamp) (id : ρ → Id) (named : Bool) (token : ρ → String)
    (decode : String → Option TimeCursor) (r : ρ) : Prop :=
  token r ≠ "" ∧ decode (token r) = if named = true ∧
    id r = "" then none else some ⟨toISOString (timestamp r), id r⟩

lemma Reads.eq {cursor : TimeCursor} (h : Reads timestamp id named token decode r)
    (hc : decode (token r) = some cursor) :
    cursor = ⟨toISOString (timestamp r), id r⟩ := by
  rw [h.2] at hc
  split at hc
  · cases hc
  · exact (Option.some.inj hc).symm

lemma cursor_paginate (rows : List ρ) : (paginate limit token (rows.take (limit + 1))).cursor =
    if limit < rows.length then (rows.take limit).getLast?.map token else none := by
  have htake : (rows.take (limit + 1)).take limit = rows.take limit := by
    rw [List.take_take, Nat.min_eq_left (Nat.le_succ _)]
  have hlen : limit < (rows.take (limit + 1)).length ↔ limit < rows.length := by
    rw [List.length_take]
    omega
  rw [paginate, htake]
  simp only [hlen]
  cases (rows.take limit).getLast? with
  | none => simp [Pagination.cursor]
  | some tail => by_cases h : limit < rows.length <;> simp [h, Pagination.cursor]

def shownAfter (collation : Collation) (timestamp : ρ → Timestamp) (id : ρ → Id) (limit : ℕ) (token : ρ → String)
    (rows : List ρ) (cursor : Option TimeCursor) : List Id × Option String :=
  let page := AdminQueryService.limited collation limit timestamp id
    (rows.filter fun r => AdminQueryService.afterCursor collation cursor (timestamp r) (id r))
  ((page.take limit).map id, (paginate limit token page).cursor)

section Answers

variable (hread : ∀ r ∈ rows, Reads timestamp id named token decode r)

def readKeyset (collation : Collation) : Keyset ρ (Timestamp ×ₗ collation.Key) String :=
  keyset timestamp id hl hid collation fun r hr _ => (hread r hr).eq

include hread in
lemma rest_readKeyset (cursor : Option TimeCursor) : (readKeyset hl hid hread collation).rest
    (cursor.map (bound collation)) = descending collation timestamp id
      (rows.filter fun r => AdminQueryService.afterCursor collation cursor (timestamp r) (id r)) := by
  rw [← filter_descending hid]
  refine List.filter_congr fun r _ => ?_
  cases cursor with
  | none => rfl
  | some cursor => exact Bool.eq_iff_iff.mpr (decide_eq_true_iff.trans beforeCursor_iff.symm)

lemma shownAfter_eq (cursor : Option TimeCursor) : shownAfter collation timestamp id limit token rows cursor =
    ((((readKeyset hl hid hread collation).rest (cursor.map (bound collation))).take limit).map id,
      (readKeyset hl hid hread collation).next
        ((readKeyset hl hid hread collation).rest (cursor.map (bound collation)))) := by
  rw [rest_readKeyset]
  refine Prod.ext ?_ (cursor_paginate _)
  change List.map id (((descending collation timestamp id _).take (limit + 1)).take limit) = _
  rw [List.take_take, Nat.min_eq_left (Nat.le_succ _)]

lemma crosses_iff {tail next : ρ} (ht : tail ∈ rows) : (readKeyset hl hid hread collation).Crosses tail next ↔
    (named = true → id tail ≠ "") ∧
      beforeCursor collation ⟨toISOString (timestamp tail), id tail⟩ (timestamp next) (id next) = true := by
  rw [beforeCursor_iff]
  have htoken := (hread tail ht).2
  constructor
  · rintro ⟨b, hb, hlt⟩
    obtain ⟨cursor, hc, rfl⟩ := Option.map_eq_some_iff.mp hb
    rw [show decode ((readKeyset hl hid hread collation).token tail) = _ from htoken] at hc
    split at hc
    · cases hc
    · next hn =>
      cases hc
      exact ⟨fun h he => hn ⟨h, he⟩, hlt⟩
  · rintro ⟨hn, hlt⟩
    rw [if_neg fun h => hn h.1 h.2] at htoken
    exact ⟨_, congrArg (Option.map (bound collation)) htoken, hlt⟩

include hid hl hread in
theorem complete_iff {list : Option String → Query (Page α)} {idOf : α → Id} {db : Tables}
    (hanswer : ∀ cursor, answer list idOf db cursor =
      (decodeGiven decode cursor).map (shownAfter collation timestamp id limit token rows)) :
    Complete list idOf db collation timestamp id rows ↔ PagesMeet collation timestamp id named limit rows := by
  rw [complete_iff_traverse hid]
  have hmap := (readKeyset hl hid hread collation).traverse_mapped invalidCursor id
    (answer list idOf db) (fun token => token ≠ "")
    (fun r hr => (hread r (mem_descending.mp hr)).1) fun cursor hgiven => ?_
  · refine hmap.trans ⟨fun h k tail next hdvd ht hn => ?_, fun h k tail next _ hdvd ht hn => ?_⟩
    · exact (crosses_iff hl hid hread (mem_descending.mp (List.mem_of_getElem? ht))).mp
        (h k tail next (Nat.zero_le _) hdvd ht hn)
    · exact (crosses_iff hl hid hread (mem_descending.mp (List.mem_of_getElem? ht))).mpr (h k tail next hdvd ht hn)
  · rw [hanswer cursor]
    cases cursor with
    | none => exact congrArg Except.ok (shownAfter_eq hl hid hread none)
    | some text =>
      have hgiven' : text ≠ "" := hgiven text rfl
      have hpresent : (some text).bind present = some text := if_neg hgiven'
      rw [decodeGiven, hpresent]
      cases hd : decode text with
      | none =>
        rw [Keyset.request_invalid (congrArg (Option.map (bound collation)) hd)]
        simp only [hd]
        rfl
      | some after =>
        rw [Keyset.request_some invalidCursor (congrArg (Option.map (bound collation)) hd)]
        simp only [hd]
        exact congrArg Except.ok (shownAfter_eq hl hid hread (some after))

end Answers

end Keysets

section Lists

variable {encoding : Encoding} {db : Tables} {limit : ℕ}

lemma reads_timeCursor {kinds : List CursorKind} {kind : CursorKind}
    (h : encoding.Carries kinds (toISOString (timestamp r)) (id r)) (hk : kind ∈ kinds) :
    Reads timestamp id true (AdminQueryService.timeCursor encoding kind timestamp id)
      (decodeTimeCursor encoding kind) r := by
  refine ⟨(h.triple kind hk).1, (decode_encodeTimeCursor h hk).trans ?_⟩
  simp only [true_and]

lemma reads_conversationCursor {kinds : List CursorKind} {c : Conversation}
    (h : encoding.Carries kinds (toISOString c.createdAt) c.conversationId) :
    Reads Conversation.createdAt Conversation.conversationId false
      (fun c => encodeConversationCursor encoding (toISOString c.createdAt) c.conversationId)
      (decodeConversationCursor encoding) c :=
  ⟨h.pair.1, (decode_encodeConversationCursor h).trans (if_neg fun h => absurd h.1 Bool.false_ne_true).symm⟩

lemma matching_nodup {κ : Type} {key : ρ → κ} (t : Relation Tables LockName key) (p : ρ → Bool) :
    ((t.matching p db).map key).Nodup := (t.get db).keys_nodup.sublist (List.filter_sublist.map key)

lemma matching_and {κ : Type} {key : ρ → κ} (t : Relation Tables LockName key) (p q : ρ → Bool) :
    t.matching (fun r => p r && q r) db = (t.matching p db).filter q := by
  rw [Relation.matching, Relation.matching, List.filter_filter]
  exact List.filter_congr fun r _ => Bool.and_comm _ _

namespace ConversationService

structure Shows (db : Tables) (c : Conversation) (resource : ConversationResource) : Prop where
  conversationId : resource.conversationId = c.conversationId
  principalId : resource.principalId = c.principalId
  agentRef : resource.agentRef = c.agentRef
  participants : resource.participants =
    ((conversationParticipants.matching (fun p => decide (p.tenantId = c.tenantId) &&
    decide (p.siteId = c.siteId) && decide (p.conversationId = c.conversationId)) db).mergeSort userFirst).map
      participantResource

lemma exec_get {scope : Scope} {c : Conversation} {x : Tables} (hc : c ∈ db.conversations)
    (hs : ofScope scope c = true) : ∃ resource, Shows db c resource ∧
      (get scope c.conversationId).exec x db = (.ok resource, x, db) := by
  have hmatching : (conversations.matching (inConversation scope c.conversationId) db).head? = some c := by
    have hkey : conversations.matching (inConversation scope c.conversationId) db =
        ((db.conversations.find? c.conversationId).filter (ofScope scope)).toList := by
      rw [← db.conversations.filter_key_and]
      exact List.filter_congr fun d _ => Bool.and_comm _ _
    rw [hkey, Table.find?_key hc, Option.filter_some, if_pos hs]
    rfl
  have hfind : (requireConversation scope c.conversationId).exec x db = (.ok c, x, db) := by
    refine (Program.exec_bind_ok (conversations.exec_selectFirst _ x db)).trans ?_
    rw [hmatching]
    rfl
  refine ⟨_, ?_, (Program.exec_bind_ok hfind).trans
    (Program.exec_bind_ok (conversationParticipants.exec_selectFrom _ x db))⟩
  simp only [ofScope, Bool.and_eq_true, decide_eq_true_eq] at hs
  obtain ⟨⟨htenant, hsite⟩, -⟩ := hs
  exact ⟨rfl, rfl, rfl, by rw [htenant, hsite]⟩

lemma exec_mapM_get {scope : Scope} (x : Tables) (rows : List Conversation)
    (h : ∀ c ∈ rows, c ∈ db.conversations ∧ ofScope scope c = true) : ∃ data : List ConversationResource,
      data.map ConversationResource.conversationId = rows.map Conversation.conversationId ∧
      (rows.mapM fun row => get scope row.conversationId).exec x db = (.ok data, x, db) := by
  induction rows with
  | nil => exact ⟨[], rfl, rfl⟩
  | cons c rows ih =>
    obtain ⟨resource, hr, hget⟩ := exec_get (x := x) (h c List.mem_cons_self).1 (h c List.mem_cons_self).2
    obtain ⟨data, hd, hmap⟩ := ih fun d hd => h d (List.mem_cons_of_mem _ hd)
    refine ⟨resource :: data, ?_, ?_⟩
    · rw [List.map_cons, List.map_cons, hr.conversationId, hd]
    · rw [List.mapM_cons]
      exact (Program.exec_bind_ok hget).trans (Program.exec_bind_ok hmap)

lemma answer_list {collation : Collation} {encoding : Encoding} (scope : Scope) (cursor : Option String) :
    answer (fun cursor => list collation encoding scope ⟨cursor, limit⟩)
      ConversationResource.conversationId db cursor =
      (decodeGiven (decodeConversationCursor encoding) cursor).map
        (shownAfter collation Conversation.createdAt Conversation.conversationId limit
          (fun c => encodeConversationCursor encoding (toISOString c.createdAt) c.conversationId)
          (conversations.matching (ofScope scope) db)) := by
  rw [answer, list]
  cases decodeGiven (decodeConversationCursor encoding) cursor with
  | error e => rfl
  | ok after =>
    have hmatching : conversations.matching (fun c => ofScope scope c &&
        after.all fun cursor => beforeCursor collation cursor c.createdAt c.conversationId) db =
          (conversations.matching (ofScope scope) db).filter fun c =>
            AdminQueryService.afterCursor collation after c.createdAt c.conversationId :=
      matching_and conversations _ _
    have hselect := conversations.exec_selectFrom (ε := ServerError) (fun c => ofScope scope c &&
      after.all fun cursor => beforeCursor collation cursor c.createdAt c.conversationId) db db
    rw [hmatching] at hselect
    obtain ⟨data, hd, hmap⟩ := exec_mapM_get db
      ((AdminQueryService.limited collation limit Conversation.createdAt Conversation.conversationId
        ((conversations.matching (ofScope scope) db).filter fun c =>
          AdminQueryService.afterCursor collation after c.createdAt c.conversationId)).take limit) fun c hc => by
      have hm := List.mem_of_mem_filter (mem_descending.mp (List.mem_of_mem_take (List.mem_of_mem_take hc)))
      exact List.mem_filter.mp hm
    rw [Program.run_of_exec ((Program.exec_bind_ok hselect).trans (Program.exec_bind_ok hmap))]
    exact congrArg Except.ok (Prod.ext hd rfl)

end ConversationService

namespace AdminQueryService

variable {scope : AdminScope} {kind : CursorKind} {status : Type} {filter : Filter status} {cursor : Option String}

lemma checked_eq (h : validateFilter filter = .ok ()) : checked encoding kind { filter with cursor := cursor } =
    decodeGiven (decodeTimeCursor encoding kind) cursor := by
  have h' : validateFilter { filter with cursor := cursor } = .ok () := h
  rw [checked, h']
  rfl

lemma checked_error {e : ServerError} (h : validateFilter filter = .error e) :
    checked encoding kind { filter with cursor := cursor } = .error e := by
  have h' : validateFilter { filter with cursor := cursor } = .error e := h
  rw [checked, h']
  rfl

def matchingConversations (scope : AdminScope) (filter : Filter ConversationStatus) (db : Tables) :
    List Conversation :=
  conversations.matching (fun c => decide (c.tenantId = scope.tenantId) &&
    admits filter c.siteId c.agentRef c.status c.createdAt) db

def matchingRuns (scope : AdminScope) (filter : Filter RunStatus) (db : Tables) : List AgentRun :=
  agentRuns.matching (fun r => decide (r.tenantId = scope.tenantId) &&
    admits filter r.siteId r.agentRef r.status r.createdAt) db

def matchingHandoffs (scope : AdminScope) (filter : Filter HandoffStatus) (db : Tables) : List Handoff :=
  handoffs.matching (fun h => decide (h.tenantId = scope.tenantId) &&
    (db.agentRuns.find? h.runId).any fun r => admits filter h.siteId r.agentRef h.status h.createdAt) db

lemma conversationRows_eq {filter : Filter ConversationStatus} {after : Option TimeCursor} :
    conversationRows collation scope filter after db =
      limited collation filter.limit Conversation.updatedAt Conversation.conversationId
        ((matchingConversations scope filter db).filter fun c =>
          afterCursor collation after c.updatedAt c.conversationId) :=
  congrArg (limited collation filter.limit Conversation.updatedAt Conversation.conversationId)
    (matching_and conversations _ _)

lemma runRows_eq {filter : Filter RunStatus} {after : Option TimeCursor} :
    runRows collation scope filter after db = limited collation filter.limit AgentRun.createdAt AgentRun.runId
      ((matchingRuns scope filter db).filter fun r => afterCursor collation after r.createdAt r.runId) :=
  congrArg (limited collation filter.limit AgentRun.createdAt AgentRun.runId) (matching_and agentRuns _ _)

lemma flatMap_joined {σ : Type} (joined : ρ → Option σ) (rows : List ρ) :
    (rows.flatMap fun r => (joined r).toList.map fun _ => r) = rows.filter fun r => (joined r).isSome := by
  induction rows with
  | nil => rfl
  | cons r rows ih =>
    rw [List.flatMap_cons, ih]
    cases hj : joined r <;> simp [hj]

lemma handoffRows_eq {filter : Filter HandoffStatus} {after : Option TimeCursor} :
    handoffRows collation scope filter after db = limited collation filter.limit Handoff.createdAt
      Handoff.handoffId
      ((matchingHandoffs scope filter db).filter fun h => afterCursor collation after h.createdAt h.handoffId) := by
  refine congrArg (limited collation filter.limit Handoff.createdAt Handoff.handoffId) ?_
  have hjoin : ∀ h : Handoff, agentRuns.matching (fun r => decide (r.runId = h.runId) &&
      admits filter h.siteId r.agentRef h.status h.createdAt && afterCursor collation after h.createdAt
        h.handoffId) db =
        ((db.agentRuns.find? h.runId).filter fun r => admits filter h.siteId r.agentRef h.status h.createdAt &&
          afterCursor collation after h.createdAt h.handoffId).toList := by
    intro h
    rw [← db.agentRuns.filter_key_and]
    exact List.filter_congr fun r _ => Bool.and_assoc _ _ _
  simp only [hjoin]
  rw [flatMap_joined, ← matching_and, matchingHandoffs, ← matching_and]
  refine List.filter_congr fun h _ => ?_
  rw [Bool.and_assoc]
  cases db.agentRuns.find? h.runId with
  | none => rfl
  | some r =>
    rw [Option.any_some, Option.filter_some]
    by_cases hq : (admits filter h.siteId r.agentRef h.status h.createdAt &&
      afterCursor collation after h.createdAt h.handoffId) = true
    · rw [if_pos hq, hq]
      rfl
    · rw [if_neg hq, Bool.eq_false_iff.mpr hq]
      rfl

lemma exec_participantsFor (db : Tables) (scope : AdminScope) (order : Arrangement ConversationParticipant)
    (ids : List Id) :
    ∃ participants, (participantsFor scope order ids).exec db db = (.ok participants, db, db) := by
  rw [participantsFor]
  split
  · exact ⟨_, rfl⟩
  · exact ⟨_, Program.exec_bind_ok (conversationParticipants.exec_selectFrom _ db db)⟩

lemma exec_firstUserMessagePreviews (collation : Collation) (db : Tables) (scope : AdminScope) (ids : List Id) :
    ∃ previews, (firstUserMessagePreviews collation scope ids).exec db db = (.ok previews, db, db) := by
  rw [firstUserMessagePreviews]
  split
  · exact ⟨_, rfl⟩
  · exact ⟨_, Program.exec_bind_ok (messages.exec_selectFrom _ db db)⟩

lemma answer_listConversations {collation : Collation} {encoding : Encoding}
    {order : Arrangement ConversationParticipant} {filter : Filter ConversationStatus}
    (h : validateFilter filter = .ok ()) : answer (fun cursor =>
      listConversations collation encoding scope order { filter with cursor := cursor })
        (fun summary => summary.conversationId) db cursor =
      (decodeGiven (decodeTimeCursor encoding .conversation) cursor).map
        (shownAfter collation Conversation.updatedAt Conversation.conversationId filter.limit
          (timeCursor encoding .conversation Conversation.updatedAt Conversation.conversationId)
          (matchingConversations scope filter db)) := by
  rw [answer, listConversations, checked_eq h]
  cases decodeGiven (decodeTimeCursor encoding .conversation) cursor with
  | error e => rfl
  | ok after =>
    have hselect := Program.exec_select (ν := LockName) (ε := ServerError)
      (conversationRows collation scope filter after) db db
    obtain ⟨participants, hparticipants⟩ := exec_participantsFor db scope order
      (((conversationRows collation scope filter after db).take filter.limit).map Conversation.conversationId)
    obtain ⟨previews, hpreviews⟩ := exec_firstUserMessagePreviews collation db scope
      (((conversationRows collation scope filter after db).take filter.limit).map Conversation.conversationId)
    change (((Program.select (conversationRows collation scope filter after) >>= _ :
      Query (Page ConversationSummary)).run db).1.map _) = _
    rw [Program.run_of_exec ((Program.exec_bind_ok hselect).trans ((Program.exec_bind_ok hparticipants).trans
      (Program.exec_bind_ok hpreviews)))]
    refine congrArg Except.ok ?_
    rw [shownAfter, ← conversationRows_eq]
    exact Prod.ext (List.map_map ..) rfl

lemma answer_listRuns {collation : Collation} {encoding : Encoding} {filter : Filter RunStatus}
    (h : validateFilter filter = .ok ()) :
    answer (fun cursor => listRuns collation encoding scope { filter with cursor := cursor })
      RunResource.runId db cursor =
      (decodeGiven (decodeTimeCursor encoding .run) cursor).map
        (shownAfter collation AgentRun.createdAt AgentRun.runId filter.limit
          (timeCursor encoding .run AgentRun.createdAt AgentRun.runId) (matchingRuns scope filter db)) := by
  rw [answer, listRuns, checked_eq h]
  cases decodeGiven (decodeTimeCursor encoding .run) cursor with
  | error e => rfl
  | ok after =>
    have hselect := Program.exec_select (ν := LockName) (ε := ServerError)
      (runRows collation scope filter after) db db
    rw [runRows_eq] at hselect
    change (((Program.select (runRows collation scope filter after) >>= _ : Query (Page RunResource)).run
      db).1.map _) = _
    rw [Program.run_of_exec (Program.exec_bind_ok hselect)]
    exact congrArg Except.ok (Prod.ext (List.map_map ..) rfl)

lemma answer_listFailures {collation : Collation} {encoding : Encoding} {filter : Filter RunStatus}
    (h : validateFilter filter = .ok ()) : answer (fun cursor =>
      listFailures collation encoding scope { filter with cursor := cursor }) RunResource.runId db cursor =
      (decodeGiven (decodeTimeCursor encoding .failure) cursor).map
        (shownAfter collation AgentRun.createdAt AgentRun.runId filter.limit
          (timeCursor encoding .failure AgentRun.createdAt AgentRun.runId)
          (matchingRuns scope { filter with status := some .failed } db)) := by
  rw [answer, listFailures, checked_eq h]
  cases decodeGiven (decodeTimeCursor encoding .failure) cursor with
  | error e => rfl
  | ok after =>
    have hselect := Program.exec_select (ν := LockName) (ε := ServerError)
      (runRows collation scope { filter with status := some .failed } after) db db
    rw [runRows_eq] at hselect
    change (((Program.select (runRows collation scope { filter with status := some .failed } after) >>= _ :
      Query (Page RunResource)).run db).1.map _) = _
    rw [Program.run_of_exec (Program.exec_bind_ok hselect)]
    exact congrArg Except.ok (Prod.ext (List.map_map ..) rfl)

lemma answer_listHandoffs {collation : Collation} {encoding : Encoding} {filter : Filter HandoffStatus}
    (h : validateFilter filter = .ok ()) : answer (fun cursor =>
      listHandoffs collation encoding scope { filter with cursor := cursor }) HandoffResource.handoffId db cursor =
      (decodeGiven (decodeTimeCursor encoding .handoff) cursor).map
        (shownAfter collation Handoff.createdAt Handoff.handoffId filter.limit
          (timeCursor encoding .handoff Handoff.createdAt Handoff.handoffId)
            (matchingHandoffs scope filter db)) := by
  rw [answer, listHandoffs, checked_eq h]
  cases decodeGiven (decodeTimeCursor encoding .handoff) cursor with
  | error e => rfl
  | ok after =>
    have hselect := Program.exec_select (ν := LockName) (ε := ServerError)
      (handoffRows collation scope filter after) db db
    rw [handoffRows_eq] at hselect
    change (((Program.select (handoffRows collation scope filter after) >>= _ :
      Query (Page HandoffResource)).run db).1.map _) = _
    rw [Program.run_of_exec (Program.exec_bind_ok hselect)]
    exact congrArg Except.ok (Prod.ext (List.map_map ..) rfl)

lemma validateFilter_of_complete {list : Option String → Query (Page α)} {idOf : α → Id}
    (h : ∀ e, validateFilter filter = .error e → list none = .throw e)
    (hc : Complete list idOf db collation timestamp id rows) : validateFilter filter = .ok () := by
  cases hv : validateFilter filter with
  | ok => rfl
  | error e =>
    have ha : answer list idOf db none = .error e := by
      rw [answer, h e hv]
      rfl
    obtain ⟨shown, -, -, n, hn⟩ := hc
    cases n with
    | zero => cases hn
    | succ n =>
      rw [traverse_error n ha] at hn
      cases hn

lemma accepted_iff {list : Option String → Query (Page α)} {idOf : α → Id} {p : Prop}
    (h : ∀ e, validateFilter filter = .error e → list none = .throw e)
    (hiff : validateFilter filter = .ok () → (Complete list idOf db collation timestamp id rows ↔ p)) :
    Complete list idOf db collation timestamp id rows ↔ validateFilter filter = .ok () ∧ p :=
  ⟨fun hc => ⟨validateFilter_of_complete h hc, (hiff (validateFilter_of_complete h hc)).mp hc⟩,
    fun ⟨hv, hp⟩ => (hiff hv).mpr hp⟩

end AdminQueryService

/-- The cursors of all rows of these tables come back as they were written. -/
structure CarriesRows (encoding : Encoding) (db : Tables) : Prop where
  created : ∀ c ∈ db.conversations, encoding.Carries [] (toISOString c.createdAt) c.conversationId
  updated : ∀ c ∈ db.conversations, encoding.Carries [.conversation] (toISOString c.updatedAt) c.conversationId
  runs : ∀ r ∈ db.agentRuns, encoding.Carries [.run, .failure] (toISOString r.createdAt) r.runId
  handoffs : ∀ h ∈ db.handoffs, encoding.Carries [.handoff] (toISOString h.createdAt) h.handoffId

section Complete

open AdminQueryService

variable (h : CarriesRows encoding db)

include h

lemma list_complete (scope : Scope) (hl : 1 ≤ limit) :
    Complete (fun cursor => ConversationService.list collation encoding scope ⟨cursor, limit⟩)
      ConversationService.ConversationResource.conversationId db collation Conversation.createdAt
      Conversation.conversationId (conversations.matching (ConversationService.ofScope scope) db) ↔
    PagesMeet collation Conversation.createdAt Conversation.conversationId false limit
      (conversations.matching (ConversationService.ofScope scope) db) :=
  complete_iff hl (matching_nodup conversations _)
    (fun c hc => reads_conversationCursor (h.created c (List.mem_of_mem_filter hc)))
    (ConversationService.answer_list scope)

variable {scope : AdminScope}

lemma listConversations_complete {order : Arrangement ConversationParticipant}
    {filter : AdminQueryService.Filter ConversationStatus}
    (hl : 1 ≤ filter.limit) :
    Complete (fun cursor => listConversations collation encoding scope order { filter with cursor := cursor })
      (fun summary => summary.conversationId) db collation Conversation.updatedAt Conversation.conversationId
      (matchingConversations scope filter db) ↔
    validateFilter filter = .ok () ∧ PagesMeet collation Conversation.updatedAt Conversation.conversationId true
      filter.limit (matchingConversations scope filter db) :=
  accepted_iff (fun e he => by rw [listConversations, checked_error he]) fun hv =>
    complete_iff hl (matching_nodup conversations _)
      (fun c hc => reads_timeCursor (h.updated c (List.mem_of_mem_filter hc)) (List.mem_singleton_self _))
      fun cursor => answer_listConversations hv

lemma listRuns_complete {filter : AdminQueryService.Filter RunStatus} (hl : 1 ≤ filter.limit) :
    Complete (fun cursor => listRuns collation encoding scope { filter with cursor := cursor })
      RunResource.runId db
      collation AgentRun.createdAt AgentRun.runId (matchingRuns scope filter db) ↔
    validateFilter filter = .ok () ∧
      PagesMeet collation AgentRun.createdAt AgentRun.runId true filter.limit (matchingRuns scope filter db) :=
  accepted_iff (fun e he => by rw [listRuns, checked_error he]) fun hv =>
    complete_iff hl (matching_nodup agentRuns _)
      (fun r hr => reads_timeCursor (h.runs r (List.mem_of_mem_filter hr)) (by simp)) fun cursor =>
        answer_listRuns hv

lemma listFailures_complete {filter : AdminQueryService.Filter RunStatus} (hl : 1 ≤ filter.limit) :
    Complete (fun cursor => listFailures collation encoding scope { filter with cursor := cursor })
      RunResource.runId db
      collation AgentRun.createdAt AgentRun.runId (matchingRuns scope { filter with status := some .failed } db) ↔
    validateFilter filter = .ok () ∧ PagesMeet collation AgentRun.createdAt AgentRun.runId true filter.limit
      (matchingRuns scope { filter with status := some .failed } db) :=
  accepted_iff (fun e he => by rw [listFailures, checked_error he]) fun hv =>
    complete_iff hl (matching_nodup agentRuns _)
      (fun r hr => reads_timeCursor (h.runs r (List.mem_of_mem_filter hr)) (by simp)) fun cursor =>
        answer_listFailures hv

lemma listHandoffs_complete {filter : AdminQueryService.Filter HandoffStatus} (hl : 1 ≤ filter.limit) :
    Complete (fun cursor => listHandoffs collation encoding scope { filter with cursor := cursor })
      HandoffResource.handoffId db collation Handoff.createdAt Handoff.handoffId
        (matchingHandoffs scope filter db) ↔
    validateFilter filter = .ok () ∧
      PagesMeet collation Handoff.createdAt Handoff.handoffId true filter.limit
        (matchingHandoffs scope filter db) :=
  accepted_iff (fun e he => by rw [listHandoffs, checked_error he]) fun hv =>
    complete_iff hl (matching_nodup handoffs _)
      (fun r hr => reads_timeCursor (h.handoffs r (List.mem_of_mem_filter hr)) (List.mem_singleton_self _))
      fun cursor => answer_listHandoffs hv

end Complete

/-- Each list is complete if and only if its filter is accepted and its pages meet. -/
theorem lists_complete (collation : Collation) (encoding : Encoding) (db : Tables) (h : CarriesRows encoding db) :
    (∀ (scope : Scope) (limit : ℕ), 1 ≤ limit →
      (Complete (fun cursor => ConversationService.list collation encoding scope ⟨cursor, limit⟩)
          ConversationService.ConversationResource.conversationId db collation Conversation.createdAt
          Conversation.conversationId (conversations.matching (ConversationService.ofScope scope) db) ↔
        PagesMeet collation Conversation.createdAt Conversation.conversationId false limit
          (conversations.matching (ConversationService.ofScope scope) db))) ∧
    (∀ (scope : AdminQueryService.AdminScope) (order : Arrangement ConversationParticipant)
      (filter : AdminQueryService.Filter ConversationStatus), 1 ≤ filter.limit →
      (Complete (fun cursor => AdminQueryService.listConversations collation encoding scope order
          { filter with cursor := cursor }) (fun summary => summary.conversationId) db collation
          Conversation.updatedAt
          Conversation.conversationId (AdminQueryService.matchingConversations scope filter db) ↔
        AdminQueryService.validateFilter filter = .ok () ∧
          PagesMeet collation Conversation.updatedAt Conversation.conversationId true filter.limit
            (AdminQueryService.matchingConversations scope filter db))) ∧
    (∀ (scope : AdminQueryService.AdminScope) (filter : AdminQueryService.Filter RunStatus), 1 ≤ filter.limit →
      (Complete (fun cursor => AdminQueryService.listRuns collation encoding scope
        { filter with cursor := cursor })
          AdminQueryService.RunResource.runId db collation AgentRun.createdAt AgentRun.runId
          (AdminQueryService.matchingRuns scope filter db) ↔
        AdminQueryService.validateFilter filter = .ok () ∧
          PagesMeet collation AgentRun.createdAt AgentRun.runId true filter.limit
            (AdminQueryService.matchingRuns scope filter db))) ∧
    (∀ (scope : AdminQueryService.AdminScope) (filter : AdminQueryService.Filter RunStatus), 1 ≤ filter.limit →
      (Complete (fun cursor => AdminQueryService.listFailures collation encoding scope
        { filter with cursor := cursor })
          AdminQueryService.RunResource.runId db collation AgentRun.createdAt AgentRun.runId
          (AdminQueryService.matchingRuns scope { filter with status := some .failed } db) ↔
        AdminQueryService.validateFilter filter = .ok () ∧
          PagesMeet collation AgentRun.createdAt AgentRun.runId true filter.limit
            (AdminQueryService.matchingRuns scope { filter with status := some .failed } db))) ∧
    ∀ (scope : AdminQueryService.AdminScope) (filter : AdminQueryService.Filter HandoffStatus), 1 ≤ filter.limit →
      (Complete (fun cursor => AdminQueryService.listHandoffs collation encoding scope
        { filter with cursor := cursor })
          AdminQueryService.HandoffResource.handoffId db collation Handoff.createdAt Handoff.handoffId
          (AdminQueryService.matchingHandoffs scope filter db) ↔
        AdminQueryService.validateFilter filter = .ok () ∧
          PagesMeet collation Handoff.createdAt Handoff.handoffId true filter.limit
            (AdminQueryService.matchingHandoffs scope filter db)) :=
  ⟨fun scope _ hl => list_complete h scope hl, fun _ _ _ hl => listConversations_complete h hl,
    fun _ _ hl => listRuns_complete h hl, fun _ _ hl => listFailures_complete h hl,
    fun _ _ hl => listHandoffs_complete h hl⟩

section Burst

def binary : Collation := ⟨String, inferInstance, fun text => text, Function.injective_id⟩

def encodingOf (cursors : List (List Scalar × String × String)) : Encoding where
  toBase64url text := ((cursors.find? fun c => decide (c.2.1 = text)).map fun c => c.2.2).getD ""
  fromBase64url value := ((cursors.find? fun c => decide (c.2.2 = value)).map fun c => c.2.1).getD ""
  stringify items := ((cursors.find? fun c => decide (c.1 = items)).map fun c => c.2.1).getD ""
  parse text := (cursors.find? fun c => decide (c.2.1 = text)).map fun c => c.1
  toISOString timestamp := if timestamp = 1000 then "1970-01-01T00:00:01.000Z" else ""
  dateParse text := if text = "1970-01-01T00:00:01.000Z" then some 1000 else none

def burstEncoding : Encoding := encodingOf [
  ([.text "1970-01-01T00:00:01.000Z", .text "a"], "[\"1970-01-01T00:00:01.000Z\",\"a\"]",
    "WyIxOTcwLTAxLTAxVDAwOjAwOjAxLjAwMFoiLCJhIl0"),
  ([.text "1970-01-01T00:00:01.000Z", .text "b"], "[\"1970-01-01T00:00:01.000Z\",\"b\"]",
    "WyIxOTcwLTAxLTAxVDAwOjAwOjAxLjAwMFoiLCJiIl0"),
  ([.text "conversation", .text "1970-01-01T00:00:01.000Z", .text "a"],
    "[\"conversation\",\"1970-01-01T00:00:01.000Z\",\"a\"]",
    "WyJjb252ZXJzYXRpb24iLCIxOTcwLTAxLTAxVDAwOjAwOjAxLjAwMFoiLCJhIl0"),
  ([.text "conversation", .text "1970-01-01T00:00:01.000Z", .text "b"],
    "[\"conversation\",\"1970-01-01T00:00:01.000Z\",\"b\"]",
    "WyJjb252ZXJzYXRpb24iLCIxOTcwLTAxLTAxVDAwOjAwOjAxLjAwMFoiLCJiIl0"),
  ([.text "1970-01-01T00:00:01.000Z", .text "aa"], "[\"1970-01-01T00:00:01.000Z\",\"aa\"]",
    "WyIxOTcwLTAxLTAxVDAwOjAwOjAxLjAwMFoiLCJhYSJd"),
  ([.text "conversation", .text "1970-01-01T00:00:01.000Z", .text "aa"],
    "[\"conversation\",\"1970-01-01T00:00:01.000Z\",\"aa\"]",
    "WyJjb252ZXJzYXRpb24iLCIxOTcwLTAxLTAxVDAwOjAwOjAxLjAwMFoiLCJhYSJd")]

def visitor : Scope := ⟨"tenant", "site", "principal"⟩

def burstOf (id : Id) (createdAt : Timestamp) : Conversation :=
  ConversationService.newConversation visitor "agent" id createdAt

def burst : Tables :=
  { unused ((∅ : Table Principal.principalId).insert ⟨"principal", "tenant", "site", "browser", 0⟩) ∅ ∅ with
  conversations := ((∅ : Table Conversation.conversationId).insert (burstOf "a" 1000500)).insert
    (burstOf "b" 1000400) }

def spread : Tables := { burst with conversations := burst.conversations.insert (burstOf "aa" 1000000) }

def spreadRows : List Conversation := [burstOf "a" 1000500, burstOf "b" 1000400, burstOf "aa" 1000000]

lemma burst_rows : burst.conversations.rows = spreadRows.take 2 := by decide +kernel

lemma spread_rows : spread.conversations.rows = spreadRows := by decide +kernel

lemma burstEncoding_carries {kinds : List CursorKind} (hk : kinds = [] ∨ kinds = [.conversation]) :
    ∀ c ∈ spreadRows, burstEncoding.Carries kinds 1000 c.conversationId := by
  have hkind : ∀ kind ∈ kinds, kind = .conversation := by
    rcases hk with rfl | rfl <;> simp
  have hids : ∀ id ∈ ["a", "b", "aa"], burstEncoding.Carries kinds 1000 id := by
    intro id hid
    obtain rfl | rfl | rfl : id = "a" ∨ id = "b" ∨ id = "aa" := by simpa using hid
    all_goals
      refine ⟨by decide, ⟨by decide, by decide⟩, fun kind hm => ?_⟩
      cases hkind kind hm
      exact ⟨by decide, by decide⟩
  exact fun c hc => hids _ (List.mem_map_of_mem hc)

lemma spreadRows_date : ∀ c ∈ spreadRows, toISOString c.createdAt = 1000 ∧ toISOString c.updatedAt = 1000 := by
  decide

lemma carries_of_rows {db : Tables} (h : ∀ c ∈ db.conversations, c ∈ spreadRows) (hruns : db.agentRuns = ∅)
    (hhandoffs : db.handoffs = ∅) : CarriesRows burstEncoding db where
  created c hc := by
    rw [(spreadRows_date c (h c hc)).1]
    exact burstEncoding_carries (Or.inl rfl) c (h c hc)
  updated c hc := by
    rw [(spreadRows_date c (h c hc)).2]
    exact burstEncoding_carries (Or.inr rfl) c (h c hc)
  runs r hr := absurd (hruns ▸ hr) (Table.notMem_empty r)
  handoffs h hh := absurd (hhandoffs ▸ hh) (Table.notMem_empty h)

lemma burst_carries : CarriesRows burstEncoding burst :=
  carries_of_rows (fun c hc => List.mem_of_mem_take (burst_rows ▸ hc : c ∈ spreadRows.take 2)) rfl rfl

lemma spread_carries : CarriesRows burstEncoding spread :=
  carries_of_rows (fun c hc => (spread_rows ▸ hc : c ∈ spreadRows)) rfl rfl

lemma burst_descending : descending binary Conversation.createdAt Conversation.conversationId
    (conversations.matching (ConversationService.ofScope visitor) burst) = spreadRows.take 2 := by
  have hmatching : conversations.matching (ConversationService.ofScope visitor) burst = spreadRows.take 2 := by
    decide +kernel
  rw [hmatching]
  refine List.mergeSort_of_pairwise (List.pairwise_pair.mpr ?_)
  decide

lemma spread_descending : descending binary Conversation.createdAt Conversation.conversationId
    (conversations.matching (ConversationService.ofScope visitor) spread) = spreadRows := by
  have hmatching : conversations.matching (ConversationService.ofScope visitor) spread = spreadRows :=
    by decide +kernel
  rw [hmatching]
  exact List.mergeSort_of_pairwise (by decide)

/-- With one row to a page, the second conversation is never shown: the cursor of the first stands for the start of
its millisecond. -/
theorem burst_incomplete :
    ¬ Complete (fun cursor => ConversationService.list binary burstEncoding visitor ⟨cursor, 1⟩)
    ConversationService.ConversationResource.conversationId burst binary Conversation.createdAt
    Conversation.conversationId (conversations.matching (ConversationService.ofScope visitor) burst) := by
  rw [list_complete burst_carries visitor (Nat.le_refl 1)]
  intro h
  have hmeet := (h 0 _ _ (Nat.dvd_refl 1) (by rw [burst_descending]; rfl) (by rw [burst_descending]; rfl)).2
  exact absurd hmeet (by decide)

theorem burst_complete_of_two : CarriesRows burstEncoding spread ∧
    Complete (fun cursor => ConversationService.list binary burstEncoding visitor ⟨cursor, 2⟩)
      ConversationService.ConversationResource.conversationId spread binary Conversation.createdAt
      Conversation.conversationId (conversations.matching (ConversationService.ofScope visitor) spread) := by
  refine ⟨spread_carries,
    ((lists_complete binary burstEncoding spread spread_carries).1 visitor 2 (by decide)).mpr ?_⟩
  intro k tail next hk htail hnext
  rw [spread_descending] at htail hnext
  have hlt : k + 1 < 3 := (List.getElem?_eq_some_iff.mp hnext).1
  obtain rfl : k = 1 := by omega
  cases htail
  cases hnext
  exact ⟨fun h => (by cases h), by decide⟩

end Burst

end Lists

end ChatCore.Services
