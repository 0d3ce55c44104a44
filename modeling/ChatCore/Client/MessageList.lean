import ChatCore.Client.State
import ChatCore.Codecs.Base64Url
import ChatCore.Relational.Alone
import ChatCore.Services.Listing
import Mathlib.Data.List.Range
import Mathlib.Logic.Relation

namespace ChatCore.Client

open Protocol Relational Database Services

inductive TransportError
  | http (error : ServerError)
  | error (message : String)
  deriving DecidableEq, Repr

section Loop

def canonicalMessages (messages : List MessageResource) : List MessageResource :=
  (messages.foldl setMessage []).mergeSort fun left right => decide (left.sequence ≤ right.sequence)

variable (conversationId : Id) (check : Page MessageResource → Bool)
  (fetch : ℕ → Option String → Except ServerError (Page MessageResource))

def path (cursor : Option String) : String :=
  s!"/v1/conversations/{conversationId}/messages?limit=100" ++ match cursor with
    | some cursor => s!"&cursor={cursor}"
    | none => ""

def requestPage (pageNumber : ℕ) (cursor : Option String) : Except TransportError (Page MessageResource) :=
  match fetch pageNumber (cursor.bind present) with
  | .error e => .error (.http e)
  | .ok page =>
      if check page then .ok page
      else .error (.error s!"Invalid {path conversationId (cursor.bind present)} response.")

def requestPages (pageNumber : ℕ) (cursor : Option String) (seenCursors : List String)
    (messages : List MessageResource) : ℕ → Except TransportError (List MessageResource) × ℕ
  | 0 => (.error (.error "Message pagination exceeded the configured request limit."), pageNumber)
  | left + 1 => match requestPage conversationId check fetch pageNumber cursor with
    | .error e => (.error e, pageNumber)
    | .ok page => match page.pagination with
      | .last => (.ok (canonicalMessages (messages ++ page.data)), pageNumber)
      | .more nextCursor =>
          if nextCursor ∈ seenCursors then
            (.error (.error "Message pagination returned a repeated cursor."), pageNumber)
          else requestPages (pageNumber + 1) (some nextCursor) (nextCursor :: seenCursors)
            (messages ++ page.data) left

def listMessages (maxPaginationRequests : ℕ) : Except TransportError (List MessageResource) × ℕ :=
  requestPages conversationId check fetch 0 none [] [] maxPaginationRequests

end Loop

section Canonical

variable {messages : List MessageResource}

lemma foldl_setMessage {kept : List MessageResource}
    (h : ((kept ++ messages).map MessageResource.messageId).Nodup) :
    messages.foldl setMessage kept = kept ++ messages := by
  induction messages generalizing kept with
  | nil => simp
  | cons m messages ih =>
    have hnew : (kept.any fun k => decide (k.messageId = m.messageId)) = false := by
      rw [List.any_eq_false]
      intro k hk
      rw [List.map_append, List.nodup_append] at h
      simpa using h.2.2 _ (List.mem_map_of_mem hk) m.messageId (by simp)
    rw [List.foldl_cons, setMessage, if_neg (by simp [hnew]), ih (by simpa using h), List.append_assoc]
    rfl

lemma canonicalMessages_eq (hid : (messages.map MessageResource.messageId).Nodup)
    (hs : (messages.map MessageResource.sequence).Pairwise (· < ·)) : canonicalMessages messages = messages := by
  rw [canonicalMessages, foldl_setMessage (by simpa using hid), List.nil_append]
  refine List.mergeSort_of_pairwise ((List.pairwise_map.mp hs).imp fun h => ?_)
  exact decide_eq_true (Nat.le_of_lt h)

end Canonical

section Transcript

variable (scope : Scope) (conversationId : Id)

def transcript (db : Tables) : List Message :=
  messages.matching (MessageService.ofConversation scope conversationId) db

structure Numbered (db : Tables) : Prop where
  conversation : ∃ c ∈ db.conversations, inConversation scope conversationId c = true
  sequences : ((transcript scope conversationId db).map Message.sequence).Perm
    (List.range' 1 (transcript scope conversationId db).length)

/-- What another transaction commits: a message with the next sequence, a change of messages that keeps their
identity and place, or something that is not about these messages. -/
inductive Commit (before after : Tables) : Prop
  | append (m : Message) (hm : MessageService.ofConversation scope conversationId m = true)
      (hs : m.sequence = (transcript scope conversationId before).length + 1)
      (hnew : before.messages.find? m.messageId = none) (h : after.messages = before.messages.insert m)
  | update (p : Message → Bool) (f : Message → Message) (hf : ∀ m, (f m).messageId = m.messageId)
      (hkeep : ∀ m, (f m).tenantId = m.tenantId ∧ (f m).siteId = m.siteId ∧ (f m).conversationId =
        m.conversationId ∧
        (f m).sequence = m.sequence) (h : after.messages = before.messages.update p f hf)
  | elsewhere (h : transcript scope conversationId after = transcript scope conversationId before)

def Step (before after : Tables) : Prop :=
  Commit scope conversationId before after ∧ ∃ c ∈ after.conversations,
    inConversation scope conversationId c = true

variable {scope conversationId} {before after : Tables}

def Persists (scope : Scope) (conversationId : Id) (before after : Tables) : Prop :=
  (transcript scope conversationId before).length ≤ (transcript scope conversationId after).length ∧
    ∀ m ∈ transcript scope conversationId before, ∃ m' ∈ transcript scope conversationId after,
      m'.messageId = m.messageId ∧ m'.sequence = m.sequence

lemma transcript_append {m : Message} (hm : MessageService.ofConversation scope conversationId m = true)
    (hnew : before.messages.find? m.messageId = none) (h : after.messages = before.messages.insert m) :
    transcript scope conversationId after = transcript scope conversationId before ++ [m] := by
  have hrows : after.messages.rows = before.messages.rows ++ [m] := h ▸ Table.insert_of_absent hnew
  change after.messages.rows.filter _ = before.messages.rows.filter _ ++ [m]
  rw [hrows, List.filter_append, List.filter_singleton, hm]
  rfl

lemma transcript_update {p : Message → Bool} {f : Message → Message} {hf : ∀ m, (f m).messageId = m.messageId}
    (hkeep : ∀ m, (f m).tenantId = m.tenantId ∧ (f m).siteId = m.siteId ∧ (f m).conversationId = m.conversationId ∧
      (f m).sequence = m.sequence) (h : after.messages = before.messages.update p f hf) :
    transcript scope conversationId after =
      (transcript scope conversationId before).map fun m => if p m then f m else m := by
  change after.messages.rows.filter _ = (before.messages.rows.filter _).map _
  rw [h, Table.update_rows, List.filter_map]
  refine congrArg _ (List.filter_congr fun m _ => ?_)
  change MessageService.ofConversation scope conversationId (if p m then f m else m) = _
  split
  · rw [MessageService.ofConversation, MessageService.ofConversation, (hkeep m).1, (hkeep m).2.1, (hkeep m).2.2.1]
  · rfl

lemma Commit.persists (h : Commit scope conversationId before after) :
    Persists scope conversationId before after := by
  cases h with
  | append m hm hs hnew h =>
    rw [Persists, transcript_append hm hnew h]
    refine ⟨?_, fun m hm => ⟨m, List.mem_append_left _ hm, rfl, rfl⟩⟩
    rw [List.length_append]
    exact Nat.le_add_right ..
  | update p f hf hkeep h =>
    rw [Persists, transcript_update hkeep h]
    refine ⟨(List.length_map ..).ge, fun m hm => ⟨_, List.mem_map_of_mem hm, ?_, ?_⟩⟩
    · split
      · exact hf m
      · rfl
    · split
      · exact (hkeep m).2.2.2
      · rfl
  | elsewhere h =>
    rw [Persists, h]
    exact ⟨le_refl _, fun m hm => ⟨m, hm, rfl, rfl⟩⟩

lemma Commit.sequences (h : Commit scope conversationId before after)
    (hb : ((transcript scope conversationId before).map Message.sequence).Perm
      (List.range' 1 (transcript scope conversationId before).length)) :
    ((transcript scope conversationId after).map Message.sequence).Perm
      (List.range' 1 (transcript scope conversationId after).length) := by
  cases h with
  | append m hm hs hnew h =>
    rw [transcript_append hm hnew h, List.map_append, List.length_append, List.length_singleton,
      List.range'_1_concat,
      Nat.add_comm 1, ← hs]
    exact hb.append_right _
  | update p f hf hkeep h =>
    rw [transcript_update hkeep h, List.map_map, List.length_map]
    refine Eq.mpr (congrArg (fun l => List.Perm l _) (List.map_congr_left fun m _ => ?_)) hb
    change (if p m then f m else m).sequence = m.sequence
    split
    · exact (hkeep m).2.2.2
    · rfl
  | elsewhere h =>
    rw [h]
    exact hb

lemma Numbered.step (hn : Numbered scope conversationId before) (h : Step scope conversationId before after) :
    Numbered scope conversationId after := ⟨h.2, h.1.sequences hn.sequences⟩

lemma Persists.refl : Persists scope conversationId before before := ⟨le_refl _, fun m hm => ⟨m, hm, rfl, rfl⟩⟩

lemma Persists.trans {last : Tables} (h : Persists scope conversationId before after)
    (h' : Persists scope conversationId after last) : Persists scope conversationId before last := by
  refine ⟨h.1.trans h'.1, fun m hm => ?_⟩
  obtain ⟨m', hm', hid, hs⟩ := h.2 m hm
  obtain ⟨m'', hm'', hid', hs'⟩ := h'.2 m' hm'
  exact ⟨m'', hm'', hid'.trans hid, hs'.trans hs⟩

lemma Numbered.steps (hn : Numbered scope conversationId before)
    (h : Relation.ReflTransGen (Step scope conversationId) before after) :
    Numbered scope conversationId after ∧ Persists scope conversationId before after := by
  induction h with
  | refl => exact ⟨hn, .refl⟩
  | tail _ hstep ih => exact ⟨ih.1.step hstep, ih.2.trans hstep.1.persists⟩

end Transcript

section Pages

variable (encoding : Encoding) (scope : Scope) (conversationId : Id)

def pageSize : ℕ := 100

structure CarriesSequence (sequence : ℕ) : Prop where
  given : encodeMessageCursor encoding sequence ≠ ""
  read : encoding.fromBase64url (encodeMessageCursor encoding sequence) = Nat.repr sequence
  safe : (sequence : Int) ≤ maxSafeInteger

def serve (dbs : ℕ → Tables) (pageNumber : ℕ) (cursor : Option String) :
    Except ServerError (Page MessageResource) :=
  ((MessageService.list encoding scope conversationId ⟨cursor, pageSize⟩).run (dbs pageNumber)).1

variable {encoding scope conversationId} {db : Tables}

def following (scope : Scope) (conversationId : Id) (sequence : ℕ) (db : Tables) : List Message :=
  (messages.matching
    (fun m => MessageService.ofConversation scope conversationId m && decide (sequence < m.sequence))
    db).mergeSort MessageService.sequenceFirst

lemma mem_following {sequence : ℕ} {m : Message} (h : m ∈ following scope conversationId sequence db) :
    m ∈ transcript scope conversationId db := by
  obtain ⟨hm, hp⟩ := List.mem_filter.mp (List.mem_mergeSort.mp h)
  exact List.mem_filter.mpr ⟨hm, (Bool.and_eq_true_iff.mp hp).1⟩

lemma following_sequences (hn : Numbered scope conversationId db) (sequence : ℕ) :
    (following scope conversationId sequence db).map Message.sequence =
      List.range' (sequence + 1) ((transcript scope conversationId db).length - sequence) := by
  refine List.Perm.eq_of_pairwise (fun _ _ _ _ => Nat.le_antisymm) ?_ ?_ ?_
  · refine List.pairwise_map.mpr ((List.pairwise_mergeSort ?_ ?_ _).imp fun h => of_decide_eq_true h)
    · intro a b c hab hbc
      exact decide_eq_true ((of_decide_eq_true hab).trans (of_decide_eq_true hbc))
    · intro a b
      simpa [MessageService.sequenceFirst] using Nat.le_total a.sequence b.sequence
  · exact List.pairwise_le_range' ..
  · have hfilter : (messages.matching (fun m => MessageService.ofConversation scope conversationId m &&
        decide (sequence < m.sequence)) db).map Message.sequence =
          ((transcript scope conversationId db).map Message.sequence).filter fun s => decide (sequence < s) := by
      rw [List.filter_map, transcript, Relation.matching, Relation.matching, List.filter_filter]
      exact congrArg _ (List.filter_congr fun m _ => Bool.and_comm _ _)
    have hrange : ((List.range' 1 (transcript scope conversationId db).length).filter fun s =>
      decide (sequence < s)).Perm
        (List.range' (sequence + 1) ((transcript scope conversationId db).length - sequence)) := by
      refine (List.perm_ext_iff_of_nodup ((List.nodup_range' 1).filter _) (List.nodup_range' 1)).mpr fun s => ?_
      simp only [List.mem_filter, List.mem_range'_1, decide_eq_true_eq]
      omega
    refine ((List.mergeSort_perm _ _).map _).trans ?_
    rw [hfilter]
    exact (hn.sequences.filter _).trans hrange

lemma sequence_pos (hn : Numbered scope conversationId db) {m : Message}
    (hm : m ∈ transcript scope conversationId db) :
    1 ≤ m.sequence := (List.mem_range'_1.mp (hn.sequences.subset (List.mem_map_of_mem hm))).1

lemma exec_requireConversation {c : Tables} (hn : Numbered scope conversationId db) :
    ∃ conversation, (requireConversation scope conversationId).exec c db = (.ok conversation, c, db) := by
  obtain ⟨x, hx, hin⟩ := hn.conversation
  cases hrows : (conversations.matching (inConversation scope conversationId) db).head? with
  | none =>
    have hm : x ∈ conversations.matching (inConversation scope conversationId) db := List.mem_filter.mpr ⟨hx, hin⟩
    rw [List.head?_eq_none_iff.mp hrows] at hm
    exact absurd hm List.not_mem_nil
  | some y =>
    refine ⟨y, (Program.exec_bind_ok (conversations.exec_selectFirst _ c db)).trans ?_⟩
    rw [hrows]
    rfl

def StandsFor (encoding : Encoding) (sequence : ℕ) : Option String → Prop
  | none => sequence = 0
  | some cursor =>
    cursor = encodeMessageCursor encoding sequence ∧ 1 ≤ sequence ∧ CarriesSequence encoding sequence

lemma list_matching {sequence : ℕ} {after : Option ℕ} (hn : Numbered scope conversationId db)
    (ha : after = none ∧ sequence = 0 ∨ after = some sequence) :
    messages.matching (fun m => MessageService.ofConversation scope conversationId m &&
      after.all fun cursor => decide (cursor < m.sequence)) db =
    messages.matching (fun m => MessageService.ofConversation scope conversationId m &&
      decide (sequence < m.sequence)) db := by
  rcases ha with ⟨rfl, rfl⟩ | rfl
  · refine List.filter_congr fun m hm => ?_
    cases ho : MessageService.ofConversation scope conversationId m with
    | false => rfl
    | true =>
      have hpos := sequence_pos hn (List.mem_filter.mpr ⟨hm, ho⟩)
      exact (decide_eq_true hpos).symm
  · rfl

lemma serve_eq {dbs : ℕ → Tables} {pageNumber sequence : ℕ} {cursor : Option String}
    (hn : Numbered scope conversationId (dbs pageNumber)) (hc : StandsFor encoding sequence cursor) :
    serve encoding scope conversationId dbs pageNumber (cursor.bind present) = .ok
      ⟨((following scope conversationId sequence (dbs pageNumber)).take pageSize).map mapMessage,
        paginate pageSize (fun tail => encodeMessageCursor encoding tail.sequence)
          ((following scope conversationId sequence (dbs pageNumber)).take (pageSize + 1))⟩ := by
  obtain ⟨conversation, hconversation⟩ := exec_requireConversation (c := dbs pageNumber) hn
  obtain ⟨after, hafter, ha⟩ : ∃ after, decodeGiven (decodeMessageCursor encoding)
    (cursor.bind present) = .ok after ∧
      (after = none ∧ sequence = 0 ∨ after = some sequence) := by
    cases cursor with
    | none => exact ⟨none, rfl, Or.inl ⟨rfl, hc⟩⟩
    | some text =>
      obtain ⟨rfl, hpos, hs⟩ := hc
      have hpresent : (some (encodeMessageCursor encoding sequence)).bind present =
        some (encodeMessageCursor encoding sequence) := if_neg hs.given
      refine ⟨some sequence, ?_, Or.inr rfl⟩
      rw [hpresent, decodeGiven, hpresent]
      simp only [decode_encodeMessageCursor hs.read hpos hs.safe]
  have hselect := messages.exec_selectFrom (ε := ServerError) (fun m =>
    MessageService.ofConversation scope conversationId m && after.all fun cursor => decide (cursor < m.sequence))
    (dbs pageNumber) (dbs pageNumber)
  rw [list_matching hn ha] at hselect
  have hexec : (MessageService.list encoding scope conversationId ⟨cursor.bind present, pageSize⟩).exec
      (dbs pageNumber) (dbs pageNumber) = (.ok
      ⟨(((following scope conversationId sequence (dbs pageNumber)).take (pageSize + 1)).take pageSize).map
        mapMessage,
        paginate pageSize (fun tail => encodeMessageCursor encoding tail.sequence)
          ((following scope conversationId sequence (dbs pageNumber)).take (pageSize + 1))⟩,
      dbs pageNumber, dbs pageNumber) := by
    refine (Program.exec_bind_ok hconversation).trans ?_
    simp only [hafter]
    exact Program.exec_bind_ok hselect
  rw [serve, Program.run_of_exec hexec, List.take_take, Nat.min_eq_left (Nat.le_succ _)]

lemma paginate_last {ρ : Type} {limit : ℕ} {token : ρ → String} {rows : List ρ} (h : rows.length ≤ limit) :
    paginate limit token (rows.take (limit + 1)) = .last := by
  rw [paginate]
  split
  · exact if_neg (by rw [List.length_take]; omega)
  · rfl

lemma paginate_more {ρ : Type} {limit : ℕ} {token : ρ → String} {rows : List ρ} {tail : ρ}
    (h : limit + 1 < rows.length)
    (ht : rows[limit]? = some tail) : paginate (limit + 1) token (rows.take (limit + 2)) = .more (token tail) := by
  have hlast : ((rows.take (limit + 2)).take (limit + 1)).getLast? = some tail := by
    rw [List.take_take, Nat.min_eq_left (Nat.le_succ _), List.getLast?_eq_getElem?,
      List.length_take_of_le (Nat.le_of_lt h), Nat.add_sub_cancel, List.getElem?_take_of_lt
        (Nat.lt_succ_self _), ht]
  rw [paginate, hlast]
  exact if_pos (by rw [List.length_take]; omega)

structure Shows (scope : Scope) (conversationId : Id) (db : Tables) (sequence count : ℕ)
    (data : List MessageResource) :
    Prop where
  sequences : data.map MessageResource.sequence = List.range' (sequence + 1) count
  stored : ∀ m ∈ data, ∃ row ∈ transcript scope conversationId db, m = mapMessage row

lemma shows_following (hn : Numbered scope conversationId db) (sequence : ℕ) :
    Shows scope conversationId db sequence (min pageSize ((transcript scope conversationId db).length - sequence))
      (((following scope conversationId sequence db).take pageSize).map mapMessage) := by
  constructor
  · rw [List.map_map]
    change ((following scope conversationId sequence db).take pageSize).map Message.sequence = _
    rw [List.map_take, following_sequences hn]
    rcases Nat.le_total pageSize ((transcript scope conversationId db).length - sequence) with h | h
    · rw [List.take_range'_of_length_ge h, Nat.min_eq_left h]
    · rw [List.take_range'_of_length_le h, Nat.min_eq_right h]
  · intro m hm
    obtain ⟨row, hrow, rfl⟩ := List.mem_map.mp hm
    exact ⟨row, mem_following (List.mem_of_mem_take hrow), rfl⟩

lemma following_length (hn : Numbered scope conversationId db) (sequence : ℕ) :
    (following scope conversationId sequence db).length =
      (transcript scope conversationId db).length - sequence := by
  have h := congrArg List.length (following_sequences hn sequence)
  rwa [List.length_map, List.length_range'] at h

variable {dbs : ℕ → Tables} {pageNumber sequence : ℕ} {cursor : Option String}
  (hn : Numbered scope conversationId (dbs pageNumber)) (hc : StandsFor encoding sequence cursor)

include hn hc

lemma serve_last (h : (transcript scope conversationId (dbs pageNumber)).length ≤ sequence + pageSize) :
    ∃ data, serve encoding scope conversationId dbs pageNumber (cursor.bind present) = .ok ⟨data, .last⟩ ∧
      Shows scope conversationId (dbs pageNumber) sequence
        ((transcript scope conversationId (dbs pageNumber)).length - sequence) data := by
  have hshows := shows_following hn sequence
  rw [Nat.min_eq_right (by omega)] at hshows
  refine ⟨_, (serve_eq hn hc).trans ?_, hshows⟩
  rw [paginate_last (by rw [following_length hn]; omega)]

lemma serve_more (h : sequence + pageSize < (transcript scope conversationId (dbs pageNumber)).length) :
    ∃ data, serve encoding scope conversationId dbs pageNumber (cursor.bind present) =
        .ok ⟨data, .more (encodeMessageCursor encoding (sequence + pageSize))⟩ ∧
      Shows scope conversationId (dbs pageNumber) sequence pageSize data := by
  have hshows := shows_following hn sequence
  rw [Nat.min_eq_left (by omega)] at hshows
  refine ⟨_, (serve_eq hn hc).trans ?_, hshows⟩
  have hlen := following_length hn sequence
  obtain ⟨tail, htail⟩ : ∃ tail, (following scope conversationId sequence (dbs pageNumber))[99]? = some tail :=
    ⟨_, List.getElem?_eq_getElem (by simp only [pageSize] at h; omega)⟩
  have hsequence : tail.sequence = sequence + pageSize := by
    have hget := congrArg (fun l => l[99]?) (following_sequences hn sequence)
    simp only [List.getElem?_map, htail, Option.map_some] at hget
    rw [List.getElem?_range' (by simp only [pageSize] at h; omega)] at hget
    rw [Option.some.inj hget, pageSize]
  rw [← hsequence]
  exact congrArg (fun p => Except.ok (Page.mk _ p)) (paginate_more (by simp only [pageSize] at h; omega) htail)

omit hn hc

structure Collected (scope : Scope) (conversationId : Id) (db : Tables) (count : ℕ)
    (messages : List MessageResource) :
    Prop where
  sequences : messages.map MessageResource.sequence = List.range' 1 count
  stored : ∀ m ∈ messages, ∃ row ∈ transcript scope conversationId db,
    row.messageId = m.messageId ∧ row.sequence = m.sequence
  behind : count ≤ (transcript scope conversationId db).length

variable {count more : ℕ} {collected data : List MessageResource}

lemma Collected.append (h : Collected scope conversationId db count collected)
    (hs : Shows scope conversationId db count more data)
    (hm : count + more ≤ (transcript scope conversationId db).length) :
    Collected scope conversationId db (count + more) (collected ++ data) where
  sequences := by
    rw [List.map_append, h.sequences, hs.sequences, Nat.add_comm count 1, List.range'_append_1]
  stored m hm := by
    rcases List.mem_append.mp hm with hm | hm
    · exact h.stored m hm
    · obtain ⟨row, hrow, rfl⟩ := hs.stored m hm
      exact ⟨row, hrow, rfl, rfl⟩
  behind := hm

lemma Collected.persists {after : Tables} (h : Collected scope conversationId db count collected)
    (hp : Persists scope conversationId db after) : Collected scope conversationId after count collected where
  sequences := h.sequences
  stored m hm := by
    obtain ⟨row, hrow, hid, hs⟩ := h.stored m hm
    obtain ⟨row', hrow', hid', hs'⟩ := hp.2 row hrow
    exact ⟨row', hrow', hid'.trans hid, hs'.trans hs⟩
  behind := h.behind.trans hp.1

lemma Collected.canonical (h : Collected scope conversationId db count collected) :
    canonicalMessages collected = collected := by
  have hlt : (collected.map MessageResource.sequence).Pairwise (· < ·) := by
    rw [h.sequences]
    exact List.pairwise_lt_range' 1
  have hnodup : (collected.map MessageResource.sequence).Nodup := hlt.imp Nat.ne_of_lt
  refine canonicalMessages_eq (List.Nodup.map_on (fun m hm m' hm' hid => ?_) hnodup.of_map) hlt
  obtain ⟨row, hrow, hr, hs⟩ := h.stored m hm
  obtain ⟨row', hrow', hr', hs'⟩ := h.stored m' hm'
  have hsame : row = row' := Table.key_injective (t := db.messages) (List.mem_of_mem_filter hrow)
    (List.mem_of_mem_filter hrow') (hr.trans (hid.trans hr'.symm))
  exact List.inj_on_of_nodup_map hnodup hm hm' (hs.symm.trans ((congrArg Message.sequence hsame).trans hs'))

end Pages

section Run

variable {encoding : Encoding} {scope : Scope} {conversationId : Id} {check : Page MessageResource → Bool}
  {dbs : ℕ → Tables}

/-- The tables that the requests of a list find: others commit in between. -/
structure Reading (encoding : Encoding) (scope : Scope) (conversationId : Id) (check : Page MessageResource → Bool)
    (dbs : ℕ → Tables) : Prop where
  start : Numbered scope conversationId (dbs 0)
  steps : ∀ i, Relation.ReflTransGen (Step scope conversationId) (dbs i) (dbs (i + 1))
  cursors : ∀ i, ∀ m ∈ transcript scope conversationId (dbs i), CarriesSequence encoding m.sequence
  checked : ∀ i cursor page, serve encoding scope conversationId dbs i cursor = .ok page → check page = true

variable (h : Reading encoding scope conversationId check dbs)

include h

lemma Reading.numbered (i : ℕ) : Numbered scope conversationId (dbs i) := by
  induction i with
  | zero => exact h.start
  | succ i ih => exact (ih.steps (h.steps i)).1

lemma Reading.persists (i : ℕ) : Persists scope conversationId (dbs i) (dbs (i + 1)) :=
  ((h.numbered i).steps (h.steps i)).2

lemma Reading.length_le (i : ℕ) : (transcript scope conversationId (dbs 0)).length ≤
    (transcript scope conversationId (dbs i)).length := by
  induction i with
  | zero => exact le_refl _
  | succ i ih => exact ih.trans (h.persists i).1

lemma Reading.carries {i sequence : ℕ} (hpos : 1 ≤ sequence)
    (hle : sequence ≤ (transcript scope conversationId (dbs i)).length) : CarriesSequence encoding sequence := by
  have hmem : sequence ∈ (transcript scope conversationId (dbs i)).map Message.sequence :=
    (h.numbered i).sequences.mem_iff.mpr (List.mem_range'_1.mpr ⟨hpos, by omega⟩)
  obtain ⟨m, hm, rfl⟩ := List.mem_map.mp hmem
  exact h.cursors i m hm

lemma Reading.requestPage {i : ℕ} {cursor : Option String} {page : Page MessageResource}
    (hs : serve encoding scope conversationId dbs i (cursor.bind present) = .ok page) :
    requestPage conversationId check (serve encoding scope conversationId dbs) i cursor = .ok page := by
  rw [Client.requestPage, hs]
  exact if_pos (h.checked i _ page hs)

lemma Reading.requestPages (i left : ℕ) (cursor : Option String) (seen : List String)
    (collected : List MessageResource)
    (hleft : ∃ j, i ≤ j ∧ j < i + left ∧ (transcript scope conversationId (dbs j)).length ≤ pageSize * (j + 1))
    (hc : StandsFor encoding (pageSize * i) cursor)
    (hseen : ∀ c ∈ seen, ∃ s, 1 ≤ s ∧ s ≤ pageSize * i ∧ CarriesSequence encoding s ∧
      c = encodeMessageCursor encoding s)
    (hcollected : Collected scope conversationId (dbs i) (pageSize * i) collected) :
    ∃ messages last, requestPages conversationId check (serve encoding scope conversationId dbs) i cursor
      seen collected
        left = (.ok messages, last) ∧
      messages.map MessageResource.sequence = List.range' 1
      (transcript scope conversationId (dbs last)).length := by
  induction left generalizing i cursor seen collected with
  | zero =>
    obtain ⟨j, hij, hj, -⟩ := hleft
    omega
  | succ left ih =>
    by_cases hmore : pageSize * i + pageSize < (transcript scope conversationId (dbs i)).length
    · obtain ⟨data, hserve, hshows⟩ := serve_more (h.numbered i) hc hmore
      have hcarries : CarriesSequence encoding (pageSize * (i + 1)) :=
        h.carries (i := i) (by simp only [pageSize]; omega) (by simp only [pageSize] at hmore ⊢; omega)
      have hnew : encodeMessageCursor encoding (pageSize * i + pageSize) ∉ seen := by
        intro hm
        obtain ⟨s, hpos, hs, hread, heq⟩ := hseen _ hm
        have hdecode := congrArg (decodeMessageCursor encoding) heq
        rw [← Nat.mul_succ, decode_encodeMessageCursor hcarries.read (by simp only [pageSize]; omega)
          hcarries.safe,
          decode_encodeMessageCursor hread.read hpos hread.safe] at hdecode
        have hsame := Option.some.inj hdecode
        simp only [pageSize] at hs hsame
        omega
      rw [Client.requestPages, h.requestPage hserve]
      simp only [if_neg hnew]
      refine ih _ _ _ _ ?_ ⟨rfl, by simp only [pageSize]; omega, hcarries⟩ ?_ ?_
      · obtain ⟨j, hij, hj, hlen⟩ := hleft
        refine ⟨j, ?_, by omega, hlen⟩
        rcases Nat.eq_or_lt_of_le hij with rfl | hlt
        · simp only [pageSize] at hmore hlen
          omega
        · exact hlt
      · intro c hm
        rcases List.mem_cons.mp hm with rfl | hm
        · exact ⟨pageSize * (i + 1), by simp only [pageSize]; omega, le_refl _, hcarries, rfl⟩
        · obtain ⟨s, hpos, hs, hread, heq⟩ := hseen c hm
          exact ⟨s, hpos, hs.trans (Nat.mul_le_mul_left _ (Nat.le_succ i)), hread, heq⟩
      · exact (hcollected.append hshows (Nat.le_of_lt hmore)).persists (h.persists i)
    · have hle := Nat.le_of_not_lt hmore
      obtain ⟨data, hserve, hshows⟩ := serve_last (h.numbered i) hc hle
      have hbehind := hcollected.behind
      have hall := hcollected.append hshows (by omega)
      rw [Client.requestPages, h.requestPage hserve]
      refine ⟨_, i, rfl, ?_⟩
      rw [hall.canonical, hall.sequences]
      exact congrArg (List.range' 1) (by omega)

omit h

/-- While others extend the conversation, the client's list is an initial segment of it: no shorter than what was
there at the first request, and no longer than what was there at the last. -/
theorem list_messages_prefix (encoding : Encoding) (scope : Scope) (conversationId : Id)
    (check : Page MessageResource → Bool) (dbs : ℕ → Tables) (maxPaginationRequests : ℕ)
    (h : Reading encoding scope conversationId check dbs)
    (hpages : ∃ i, i < maxPaginationRequests ∧ (transcript scope conversationId (dbs i)).length ≤
      pageSize * (i + 1)) :
    ∃ messages k last, listMessages conversationId check (serve encoding scope conversationId dbs)
      maxPaginationRequests =
        (.ok messages, last) ∧ messages.map MessageResource.sequence = List.range' 1 k ∧
      (transcript scope conversationId (dbs 0)).length ≤ k ∧
      k ≤ (transcript scope conversationId (dbs last)).length := by
  obtain ⟨i, hi, hlen⟩ := hpages
  obtain ⟨messages, last, hok, hsequences⟩ := h.requestPages 0 maxPaginationRequests none [] []
    ⟨i, Nat.zero_le _, by omega, hlen⟩ rfl nofun ⟨rfl, nofun, Nat.zero_le _⟩
  exact ⟨messages, _, last, hok, hsequences, h.length_le last, le_refl _⟩

section Extended

def reader : Scope := ⟨"tenant", "site", "principal"⟩

def base64url : Encoding where
  toBase64url := Codecs.Base64Url.encode
  fromBase64url := Codecs.Base64Url.decode
  stringify _ := ""
  parse _ := none
  toISOString _ := ""
  dateParse _ := none

lemma base64url_carries {sequence : ℕ} (hpos : 1 ≤ sequence) (hsafe : (sequence : Int) ≤ maxSafeInteger) :
    CarriesSequence base64url sequence := by
  have hread : Codecs.Base64Url.decode (encodeMessageCursor base64url sequence) = Nat.repr sequence :=
    Codecs.Base64Url.decode_encode _
  refine ⟨fun hempty => ?_, hread, hsafe⟩
  have hdigits := isPositiveDecimal_toDigits hpos
  have hnone : Codecs.Base64Url.decode "" = "" := Codecs.Base64Url.decode_encode ""
  rw [← Nat.toList_repr, ← hread, hempty, hnone] at hdigits
  cases hdigits

def hello : MessageService.SubmitMessageRequest := ⟨["Hello"], by decide⟩

def name (i : ℕ) : Id := String.ofList (List.replicate i 'm')

lemma name_injective : Function.Injective name := fun i j h => by
  have hlength := congrArg (fun name => name.toList.length) h
  simpa [name] using hlength

def stored (i : ℕ) : Message :=
  MessageService.newMessage reader "conversation" "user" hello (name i) (i + 1) 1000 1000

def filled : ℕ → Tables
  | 0 => { unused ∅ ∅ ∅ with
      conversations := (∅ : Table Conversation.conversationId).insert
        (ConversationService.newConversation reader "agent" "conversation" 1000) }
  | count + 1 => { filled count with messages := (filled count).messages.insert (stored count) }

lemma filled_rows (count : ℕ) : (filled count).messages.rows = (List.range count).map stored ∧
    (filled count).messages.find? (name count) = none := by
  have habsent : ∀ n, (filled n).messages.rows = (List.range n).map stored →
      (filled n).messages.find? (name n) = none := by
    refine fun n hrows => Table.find?_eq_none.mpr fun m hm => ?_
    have hm' : m ∈ (List.range n).map stored := hrows ▸ hm
    obtain ⟨i, hi, rfl⟩ := List.mem_map.mp hm'
    exact fun hsame => absurd (name_injective hsame) (Nat.ne_of_lt (List.mem_range.mp hi))
  induction count with
  | zero => exact ⟨rfl, rfl⟩
  | succ count ih =>
    have hrows : (filled (count + 1)).messages.rows = (List.range (count + 1)).map stored := by
      rw [List.range_succ, List.map_append, ← ih.1]
      exact Table.insert_of_absent ih.2
    exact ⟨hrows, habsent _ hrows⟩

lemma filled_transcript (count : ℕ) : transcript reader "conversation" (filled count) =
    (List.range count).map stored := by
  change (filled count).messages.rows.filter _ = _
  rw [(filled_rows count).1]
  refine List.filter_eq_self.mpr fun m hm => ?_
  obtain ⟨i, -, rfl⟩ := List.mem_map.mp hm
  rfl

lemma filled_conversation (count : ℕ) :
    ∃ c ∈ (filled count).conversations, inConversation reader "conversation" c = true := by
  have hsame : (filled count).conversations = (filled 0).conversations := by
    induction count with
    | zero => rfl
    | succ count ih => exact ih
  rw [hsame]
  exact ⟨ConversationService.newConversation reader "agent" "conversation" 1000,
    List.mem_singleton_self _, by decide⟩

lemma filled_step (count : ℕ) : Step reader "conversation" (filled count) (filled (count + 1)) := by
  refine ⟨.append (stored count) rfl ?_ (filled_rows count).2 rfl, filled_conversation (count + 1)⟩
  rw [filled_transcript, List.length_map, List.length_range]
  rfl

def extended : ℕ → Tables
  | 0 => filled 150
  | _ + 1 => filled 151

lemma extended_reading : Reading base64url reader "conversation" (fun _ => true) extended where
  start := ⟨filled_conversation 150, by
    change ((transcript reader "conversation" (filled 150)).map _).Perm
      (List.range' 1 (transcript reader "conversation" (filled 150)).length)
    rw [filled_transcript, List.map_map, List.length_map, List.length_range, List.range'_eq_map_range]
    exact .of_eq (List.map_congr_left fun i _ => Nat.add_comm i 1)⟩
  steps i := by
    cases i with
    | zero => exact .single (filled_step 150)
    | succ i => exact .refl
  cursors i m hm := by
    obtain ⟨count, hcount, hm⟩ : ∃ count ≤ 151, m ∈ transcript reader "conversation" (filled count) := by
      cases i with
      | zero => exact ⟨150, by decide, hm⟩
      | succ i => exact ⟨151, by decide, hm⟩
    rw [filled_transcript] at hm
    obtain ⟨n, hn, rfl⟩ := List.mem_map.mp hm
    have hlt := List.mem_range.mp hn
    refine base64url_carries (Nat.succ_pos n) ?_
    change ((n + 1 : ℕ) : Int) ≤ maxSafeInteger
    rw [maxSafeInteger]
    omega
  checked _ _ _ _ := rfl

theorem extended_list : ∃ messages k last, listMessages "conversation" (fun _ => true)
      (serve base64url reader "conversation" extended) 1000 = (.ok messages, last) ∧
    messages.map MessageResource.sequence = List.range' 1 k ∧
    (transcript reader "conversation" (extended 0)).length ≤ k ∧
      k ≤ (transcript reader "conversation" (extended last)).length := by
  refine list_messages_prefix base64url reader "conversation" (fun _ => true) extended 1000 extended_reading
    ⟨1, by decide, ?_⟩
  change (transcript reader "conversation" (filled 151)).length ≤ _
  rw [filled_transcript, List.length_map, List.length_range]
  decide

end Extended

end Run

end ChatCore.Client
