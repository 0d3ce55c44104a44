import ChatCore.Provisioning.Moves
import ChatCore.Retention.Starvation

namespace ChatCore.Retention

open Protocol Relational Database Services RetentionService

def idle (policy : RetentionPolicy) (now : Timestamp) (db : Tables) : List Conversation :=
  conversations.matching (fun c => decide (c.updatedAt < anonymousCutoff policy now)) db

def ofAny (gone : List Conversation) (tenantId siteId conversationId : Id) : Bool :=
  gone.any fun c => sameConversation c tenantId siteId conversationId

/-- A sweep that deletes some idle conversations with their rows, stale records and some principals, and no
more. -/
structure Exact (policy : RetentionPolicy) (now : Timestamp) (db after : Tables) (result : RetentionResult)
    (gone : List Conversation) (leaving : List Principal) : Prop where
  gone_nodup : gone.Nodup
  gone_idle : gone ⊆ idle policy now db
  gone_length : gone.length = min 100 (idle policy now db).length
  conversations : after.conversations.rows = db.conversations.rows.filter fun c => decide (c ∉ gone)
  participants : after.conversationParticipants.rows =
    db.conversationParticipants.rows.filter fun r => !ofAny gone r.tenantId r.siteId r.conversationId
  messages : after.messages.rows = db.messages.rows.filter fun m =>
    !ofAny gone m.tenantId m.siteId m.conversationId
  events : after.conversationEvents.rows =
    db.conversationEvents.rows.filter fun e => !ofAny gone e.tenantId e.siteId e.conversationId
  runs : after.agentRuns.rows = db.agentRuns.rows.filter fun r => !ofAny gone r.tenantId r.siteId r.conversationId
  handoffs : after.handoffs.rows = db.handoffs.rows.filter fun h =>
    !ofAny gone h.tenantId h.siteId h.conversationId
  inputs : after.structuredInputRequests.rows =
    (db.structuredInputRequests.rows.filter fun i => !ofAny gone i.tenantId i.siteId i.conversationId).map fun i =>
      if i.value.isSome ∧ i.updatedAt < contactCutoff policy now then
        { i with value := none, status := .expired } else i
  commands : after.commandIdempotency.rows =
    db.commandIdempotency.rows.filter fun r => !decide (r.createdAt < anonymousCutoff policy now)
  bootstraps : after.sessionBootstrapIdempotency.rows =
    db.sessionBootstrapIdempotency.rows.filter fun r => !decide (r.createdAt < anonymousCutoff policy now)
  leaving_nodup : leaving.Nodup
  leaving_old : ∀ p ∈ leaving, p ∈ db.principals ∧ p.createdAt < anonymousCutoff policy now
  leaving_vacant : ∀ p ∈ leaving, ∀ c ∈ after.conversations,
    (c.tenantId, c.siteId, c.principalId) ≠ (p.tenantId, p.siteId, p.principalId)
  principals : after.principals.rows = db.principals.rows.filter fun p => decide (p ∉ leaving)
  sessions : after.browserSessions.rows = db.browserSessions.rows.filter fun s =>
    !(decide (s.expiresAt < now) || leaving.any fun p =>
      decide ((s.tenantId, s.siteId, s.principalId) = (p.tenantId, p.siteId, p.principalId)))
  counts : result = ⟨gone.length, leaving.length, (db.structuredInputRequests.rows.filter fun i =>
    i.value.isSome && decide (i.updatedAt < contactCutoff policy now)).length⟩

/-- What hangs on a message or a run is of the same conversation. -/
structure Coherent (db : Tables) : Prop where
  runs : ∀ r ∈ db.agentRuns, ∀ m ∈ db.messages, m.messageId = r.triggerMessageId →
    m.tenantId = r.tenantId ∧ m.siteId = r.siteId ∧ m.conversationId = r.conversationId
  handoffs : ∀ h ∈ db.handoffs, ∀ r ∈ db.agentRuns, r.runId = h.runId →
    r.tenantId = h.tenantId ∧ r.siteId = h.siteId ∧ r.conversationId = h.conversationId
  inputs : ∀ i ∈ db.structuredInputRequests, ∀ r ∈ db.agentRuns, r.runId = i.runId →
    r.tenantId = i.tenantId ∧ r.siteId = i.siteId ∧ r.conversationId = i.conversationId

def emptied (gone : List Conversation) (db : Tables) : Tables :=
  { db with
    conversations := db.conversations.delete fun c => ofAny gone c.tenantId c.siteId c.conversationId
    conversationParticipants :=
      db.conversationParticipants.delete fun r => ofAny gone r.tenantId r.siteId r.conversationId
    messages := db.messages.delete fun m => ofAny gone m.tenantId m.siteId m.conversationId
    conversationEvents := db.conversationEvents.delete fun e => ofAny gone e.tenantId e.siteId e.conversationId
    agentRuns := db.agentRuns.delete fun r => ofAny gone r.tenantId r.siteId r.conversationId
    handoffs := db.handoffs.delete fun h => ofAny gone h.tenantId h.siteId h.conversationId
    structuredInputRequests :=
      db.structuredInputRequests.delete fun i => ofAny gone i.tenantId i.siteId i.conversationId }

section Emptied

variable {db : Tables} {c : Conversation} {gone : List Conversation}

lemma ofAny_nil {tenantId siteId conversationId : Id} : ofAny [] tenantId siteId conversationId = false := rfl

lemma ofAny_append {gone' : List Conversation} {tenantId siteId conversationId : Id} :
    ofAny (gone ++ gone') tenantId siteId conversationId =
      (ofAny gone tenantId siteId conversationId || ofAny gone' tenantId siteId conversationId) :=
  List.any_append

lemma ofAny_singleton {tenantId siteId conversationId : Id} :
    ofAny [c] tenantId siteId conversationId = sameConversation c tenantId siteId conversationId := by
  simp [ofAny]

lemma emptied_nil : emptied [] db = db := by
  simp only [emptied, ofAny_nil, Table.delete_false]

lemma emptied_append {gone' : List Conversation} :
    emptied gone' (emptied gone db) = emptied (gone ++ gone') db := by
  simp only [emptied, Table.delete_delete, ofAny_append]

lemma Coherent.emptied (h : Coherent db) : Coherent (emptied gone db) where
  runs r hr m hm := h.runs r (Table.mem_delete.mp hr).1 m (Table.mem_delete.mp hm).1
  handoffs s hs r hr := h.handoffs s (Table.mem_delete.mp hs).1 r (Table.mem_delete.mp hr).1
  inputs i hi r hr := h.inputs i (Table.mem_delete.mp hi).1 r (Table.mem_delete.mp hr).1

lemma delete_absent {ρ κ : Type} {key : ρ → κ} {t : Table key} {p : ρ → Bool} (h : ∀ r ∈ t, p r = false) :
    t.delete p = t :=
  (Table.delete_congr h).trans Table.delete_false

lemma withoutRuns_of {p : AgentRun → Bool}
    (hh : ∀ h ∈ db.handoffs, ∀ r ∈ db.agentRuns, p r = true → r.runId ≠ h.runId)
    (hi : ∀ i ∈ db.structuredInputRequests, ∀ r ∈ db.agentRuns, p r = true → r.runId ≠ i.runId) :
    withoutRuns p db = { db with agentRuns := db.agentRuns.delete p } := by
  have hhandoffs : (db.handoffs.delete fun h => (agentRuns.matching p db).any fun r =>
    decide (r.runId = h.runId)) =
      db.handoffs := by
    refine delete_absent fun h hh' => List.any_eq_false.mpr fun r hr he => ?_
    obtain ⟨hr, hp⟩ := List.mem_filter.mp hr
    exact hh h hh' r hr hp (of_decide_eq_true he)
  have hinputs : (db.structuredInputRequests.delete fun i =>
      (agentRuns.matching p db).any fun r => decide (r.runId = i.runId)) = db.structuredInputRequests := by
    refine delete_absent fun i hi' => List.any_eq_false.mpr fun r hr he => ?_
    obtain ⟨hr, hp⟩ := List.mem_filter.mp hr
    exact hi i hi' r hr hp (of_decide_eq_true he)
  simp only [withoutRuns, hhandoffs, hinputs]

lemma withoutRuns_none {p : AgentRun → Bool} (h : ∀ r ∈ db.agentRuns, p r = false) : withoutRuns p db = db := by
  rw [withoutRuns_of, delete_absent h]
  · intro _ _ r hr hp
    rw [h r hr] at hp
    cases hp
  · intro _ _ r hr hp
    rw [h r hr] at hp
    cases hp

lemma withoutRuns_own (h : Coherent db) :
    withoutRuns (fun r => sameConversation c r.tenantId r.siteId r.conversationId)
      (withoutHandoffs (fun h => sameConversation c h.tenantId h.siteId h.conversationId)
        (withoutInputs (fun i => sameConversation c i.tenantId i.siteId i.conversationId) db)) =
    { db with
      structuredInputRequests :=
        db.structuredInputRequests.delete fun i => sameConversation c i.tenantId i.siteId i.conversationId
      handoffs := db.handoffs.delete fun h => sameConversation c h.tenantId h.siteId h.conversationId
      agentRuns := db.agentRuns.delete fun r => sameConversation c r.tenantId r.siteId r.conversationId } := by
  refine (withoutRuns_of (fun s hs r hr hc he => ?_) fun i hi r hr hc he => ?_).trans rfl
  · obtain ⟨hs, hother⟩ := Table.mem_delete.mp hs
    obtain ⟨h₁, h₂, h₃⟩ := h.handoffs s hs r hr he
    rw [h₁, h₂, h₃, hother] at hc
    cases hc
  · obtain ⟨hi, hother⟩ := Table.mem_delete.mp hi
    obtain ⟨h₁, h₂, h₃⟩ := h.inputs i hi r hr he
    rw [h₁, h₂, h₃, hother] at hc
    cases hc

lemma withoutMessages_own (h : Coherent db)
    (hr : ∀ r ∈ db.agentRuns, sameConversation c r.tenantId r.siteId r.conversationId = false) :
    withoutMessages (fun m => sameConversation c m.tenantId m.siteId m.conversationId) db =
      { db with
        messages := db.messages.delete fun m => sameConversation c m.tenantId m.siteId m.conversationId } := by
  refine withoutRuns_none fun r hmem => List.any_eq_false.mpr fun m hm he => ?_
  obtain ⟨hm, hc⟩ := List.mem_filter.mp hm
  obtain ⟨h₁, h₂, h₃⟩ := h.runs r hmem m hm (of_decide_eq_true he)
  rw [h₁, h₂, h₃, hr r hmem] at hc
  cases hc

lemma withoutConversations_own
    (hr : ∀ r ∈ db.agentRuns, sameConversation c r.tenantId r.siteId r.conversationId = false)
    (he : ∀ e ∈ db.conversationEvents, sameConversation c e.tenantId e.siteId e.conversationId = false)
    (hp : ∀ r ∈ db.conversationParticipants, sameConversation c r.tenantId r.siteId r.conversationId = false) :
    withoutConversations (fun d => sameConversation c d.tenantId d.siteId d.conversationId) db =
      { db with
        conversations :=
          db.conversations.delete fun d => sameConversation c d.tenantId d.siteId d.conversationId } := by
  have hnone {tenantId siteId conversationId : Id}
      (hother : sameConversation c tenantId siteId conversationId = false) :
      ((conversations.matching (fun d => sameConversation c d.tenantId d.siteId d.conversationId) db).any fun d =>
        sameConversation d tenantId siteId conversationId) = false := by
    refine List.any_eq_false.mpr fun d hd hsame => ?_
    rw [same_of_same (List.mem_filter.mp hd).2 hsame] at hother
    cases hother
  have hevents := delete_absent fun e hmem => hnone (he e hmem)
  have hparticipants := delete_absent fun r hmem => hnone (hp r hmem)
  rw [withoutConversations, hevents, withoutRuns_none]
  · simp only [withoutParticipants, hparticipants]
  · exact fun r hmem => hnone (hr r hmem)

lemma purge_eq (h : Coherent db) : purge c db = emptied [c] db := by
  rw [purge, emptiedOf, withoutRuns_own h, withoutMessages_own, withoutConversations_own]
  · simp only [emptied, ofAny_singleton]
    rfl
  · exact fun r hr => (Table.mem_delete.mp hr).2
  · exact fun e he => (Table.mem_delete.mp he).2
  · exact fun r hr => (Table.mem_delete.mp hr).2
  · exact ⟨fun r hr => h.runs r (Table.mem_delete.mp hr).1, fun s hs r hr =>
      h.handoffs s (Table.mem_delete.mp hs).1 r
      (Table.mem_delete.mp hr).1, fun i hi r hr => h.inputs i (Table.mem_delete.mp hi).1 r
        (Table.mem_delete.mp hr).1⟩
  · exact fun r hr => (Table.mem_delete.mp hr).2

lemma purges_eq (h : Coherent db) : gone.foldl (fun db c => purge c db) db = emptied gone db := by
  induction gone generalizing db with
  | nil => exact emptied_nil.symm
  | cons c gone ih =>
    rw [List.foldl_cons, purge_eq h, ih h.emptied, emptied_append]
    rfl

lemma Coherent.redacted {policy : RetentionPolicy} {now : Timestamp} (h : Coherent db) :
    Coherent (redacted policy now db) where
  runs := h.runs
  handoffs := h.handoffs
  inputs i hi r hr he := by
    have hi : i ∈ db.structuredInputRequests.update (isStale policy now) redact redact_requestId := hi
    obtain ⟨i, hmem, rfl⟩ := Table.mem_update.mp hi
    have hinput := h.inputs i hmem r hr
    split at he
    case isTrue hs =>
      rw [if_pos hs]
      exact hinput he
    case isFalse hs =>
      rw [if_neg hs]
      exact hinput he

end Emptied

section Picked

variable {policy : RetentionPolicy} {order : Arrangement Conversation} {now : Timestamp} {db : Tables}

lemma matching_ofPrincipal {c : Conversation}
    (h : (c.tenantId, c.siteId, c.principalId) ∈
      db.principals.rows.map fun r => (r.tenantId, r.siteId, r.principalId)) :
    ∃ p, principals.matching (ofPrincipal c) db = [p] := by
  obtain ⟨p, hp, he⟩ := List.mem_map.mp h
  simp only [Prod.mk.injEq] at he
  refine ⟨p, List.perm_singleton.mp ((List.perm_ext_iff_of_nodup ?_ (List.nodup_singleton p)).mpr fun q => ?_)⟩
  · exact (List.Nodup.of_map _ db.principals.keys_nodup).filter _
  · rw [Relation.matching, List.mem_filter, List.mem_singleton]
    constructor
    · rintro ⟨hq, ho⟩
      simp only [ofPrincipal, Bool.and_eq_true, decide_eq_true_eq] at ho
      exact Table.key_injective hq hp (ho.1.1.trans he.2.2.symm)
    · rintro rfl
      simp only [ofPrincipal, Bool.and_eq_true, decide_eq_true_eq]
      exact ⟨hp, ⟨he.2.2, he.1⟩, he.2.1⟩

lemma expired_idle (h : (db.conversations.rows.map fun r => (r.tenantId, r.siteId, r.principalId)) ⊆
    db.principals.rows.map fun r => (r.tenantId, r.siteId, r.principalId)) :
    expiredConversations (anonymousCutoff policy now) db = idle policy now db := by
  have honce : ∀ c ∈ idle policy now db, (principals.matching (ofPrincipal c) db).map (fun _ => c) = [c] := by
    intro c hc
    obtain ⟨p, hp⟩ := matching_ofPrincipal (h (List.mem_map_of_mem (List.mem_filter.mp hc).1))
    rw [hp]
    rfl
  rw [expiredConversations]
  change (idle policy now db).flatMap _ = _
  rw [List.flatMap_congr honce, List.flatMap_singleton']

end Picked

section Sweep

variable {policy : RetentionPolicy} {orders : Orders} {now : Timestamp} {db : Tables} {gone : List Conversation}
  {leaving : List Principal}

lemma not_ofAny (hsub : gone ⊆ idle policy now db) {c : Conversation} (hc : c ∈ db.conversations) :
    (!ofAny gone c.tenantId c.siteId c.conversationId) = decide (c ∉ gone) := by
  rw [decide_not, Bool.not_inj_iff, Bool.eq_iff_iff, decide_eq_true_iff, ofAny, List.any_eq_true]
  constructor
  · rintro ⟨d, hd, hsame⟩
    have hkey := (sameConversation_iff.mp hsame).2.2
    rwa [Table.key_injective hc (List.mem_filter.mp (hsub hd)).1 hkey]
  · exact fun h => ⟨c, h, sameConversation_iff.mpr ⟨rfl, rfl, rfl⟩⟩

lemma not_any_owns (hsub : ∀ p ∈ leaving, p ∈ db.principals) {p : Principal} (hp : p ∈ db.principals) :
    (!leaving.any fun q => Progress.owns q p.tenantId p.siteId p.principalId) = decide (p ∉ leaving) := by
  rw [decide_not, Bool.not_inj_iff, Bool.eq_iff_iff, decide_eq_true_iff, List.any_eq_true]
  constructor
  · rintro ⟨q, hq, hown⟩
    rwa [eq_of_owns (hsub q hq) hp hown]
  · exact fun h => ⟨p, h, owns_self⟩

lemma filter_redacted :
    (db.structuredInputRequests.rows.map fun i => if isStale policy now i then redact i else i).filter
        (fun i => !ofAny gone i.tenantId i.siteId i.conversationId) =
      (db.structuredInputRequests.rows.filter fun i => !ofAny gone i.tenantId i.siteId i.conversationId).map
      fun i =>
        if i.value.isSome ∧ i.updatedAt < contactCutoff policy now then
          { i with value := none, status := .expired } else i := by
  rw [List.filter_map]
  refine congrArg₂ List.map (funext fun i => ?_) (List.filter_congr fun i _ => ?_)
  · simp only [isStale, redact, Bool.and_eq_true, decide_eq_true_eq]
  · dsimp only [Function.comp_apply]
    split <;> rfl

theorem exact_finished (h : Coherent db)
    (hf : (db.conversations.rows.map fun r => (r.tenantId, r.siteId, r.principalId)) ⊆
      db.principals.rows.map fun r => (r.tenantId, r.siteId, r.principalId)) :
    Exact policy now db (finished policy orders now db)
      ⟨(picked policy orders.conversations now db).length, (evicted policy orders now db).length,
        (structuredInputRequests.matching (isStale policy now) db).length⟩
      (picked policy orders.conversations now db) (evicted policy orders now db) := by
  have hperm := orders.conversations.perm (idle policy now db)
  have hpicked : picked policy orders.conversations now db =
      (orders.conversations.arrange (idle policy now db)).take 100 := by
    rw [picked, expired_idle hf]
  have hsub : picked policy orders.conversations now db ⊆ idle policy now db := by
    intro c hc
    rw [hpicked] at hc
    exact hperm.mem_iff.mp (List.mem_of_mem_take hc)
  have hnodup : (idle policy now db).Nodup := (List.Nodup.of_map _ db.conversations.keys_nodup).filter _
  have hreached : reached policy orders.conversations now db = withoutRecords policy now
      (emptied (picked policy orders.conversations now db) (redacted policy now db)) := by
    rw [reached, purges_eq h.redacted]
  rw [finished, hreached]
  have hold : ∀ p ∈ evicted policy orders now db, p ∈ db.principals ∧ isOld policy now p = true := by
    intro p hp
    have hp := candidates_mem (List.mem_filter.mp hp).1
    rwa [reached_principals] at hp
  constructor
  case gone_nodup =>
    rw [hpicked]
    exact (hperm.nodup_iff.mpr hnodup).sublist (List.take_sublist _ _)
  case gone_idle => exact hsub
  case gone_length => rw [hpicked, List.length_take, hperm.length_eq]
  case conversations => exact List.filter_congr fun c hc => not_ofAny hsub hc
  case participants => rfl
  case messages => rfl
  case events => rfl
  case runs => rfl
  case handoffs => rfl
  case inputs => exact filter_redacted
  case commands => rfl
  case bootstraps => rfl
  case leaving_nodup => exact candidates_nodup.filter _
  case leaving_old => exact fun p hp => ⟨(hold p hp).1, of_decide_eq_true (hold p hp).2⟩
  case leaving_vacant =>
    intro p hp c hc he
    have hfree := (List.mem_filter.mp hp).2
    rw [hreached, Bool.not_eq_true', occupied, List.any_eq_false] at hfree
    simp only [Prod.mk.injEq] at he
    exact hfree c hc (owns_iff.mpr he)
  case principals => exact List.filter_congr fun p hp => not_any_owns (fun p hp => (hold p hp).1) hp
  case sessions =>
    refine (congrArg Table.rows Table.delete_delete).trans (List.filter_congr fun s _ => ?_)
    simp only [decide_owns]
  case counts => rfl

end Sweep

section Kept

variable {ρ ρ' ξ : Type} {rows kept : List ρ} {parents parents' : List ρ'} {col : ρ → ξ} {col' : ρ' → ξ}
  {p : ρ → Bool} {p' : ρ' → Bool}

lemma kept_nodup (hk : kept = rows.filter p) (h : (rows.map col).Nodup) : (kept.map col).Nodup := by
  rw [hk]
  exact h.sublist (List.filter_sublist.map col)

lemma kept_subset {l : List ξ} (hk : kept = rows.filter p) (h : rows.map col ⊆ l) : kept.map col ⊆ l := by
  rw [hk]
  exact fun x hx => h ((List.filter_sublist.map col).subset hx)

lemma kept_references (hk : kept = rows.filter p) (hk' : parents' = parents.filter p')
    (h : rows.map col ⊆ parents.map col')
    (hp : ∀ r ∈ rows, ∀ r' ∈ parents, col' r' = col r → p r = true → p' r' = true) :
    kept.map col ⊆ parents'.map col' := by
  rw [hk, hk']
  intro x hx
  obtain ⟨r, hr, rfl⟩ := List.mem_map.mp hx
  obtain ⟨hr, hkept⟩ := List.mem_filter.mp hr
  obtain ⟨r', hr', he⟩ := List.mem_map.mp (h (List.mem_map_of_mem hr))
  exact List.mem_map.mpr ⟨r', List.mem_filter.mpr ⟨hr', hp r hr r' hr' he hkept⟩, he⟩

end Kept

section Integrity

open Provisioning

variable {policy : RetentionPolicy} {now : Timestamp} {db : Registry} {after : Tables} {result : RetentionResult}
  {gone : List Conversation} {leaving : List Principal}

lemma Exact.inputRuns (hx : Exact policy now db.toTables after result gone leaving) :
    after.structuredInputRequests.rows.map StructuredInputRequest.runId =
      (db.structuredInputRequests.rows.filter fun i => !ofAny gone i.tenantId i.siteId i.conversationId).map
        StructuredInputRequest.runId := by
  rw [hx.inputs, List.map_map]
  refine List.map_congr_left fun i _ => ?_
  rw [Function.comp_apply]
  split <;> rfl

lemma Exact.immediate (hx : Exact policy now db.toTables after result gone leaving) (h : Immediate db)
    (hc : Coherent db.toTables) : Immediate { db with toTables := after } where
  siteKeys := h.siteKeys
  siteTenants := h.siteTenants
  siteScopes := h.siteScopes
  browserIdentities := kept_nodup hx.principals h.browserIdentities
  principalScopes := kept_nodup hx.principals h.principalScopes
  sessionPrincipals := kept_nodup hx.sessions h.sessionPrincipals
  bootstrapSites := kept_subset hx.bootstraps h.bootstrapSites
  conversationScopes := kept_nodup hx.conversations h.conversationScopes
  participantKinds r hr := by
    have hr : r ∈ after.conversationParticipants.rows := hr
    rw [hx.participants] at hr
    exact h.participantKinds r (List.mem_filter.mp hr).1
  participantKind := kept_nodup hx.participants h.participantKind
  participantScopes := kept_nodup hx.participants h.participantScopes
  messageSequences m hm := by
    have hm : m ∈ after.messages.rows := hm
    rw [hx.messages] at hm
    exact h.messageSequences m (List.mem_filter.mp hm).1
  messageSequence := kept_nodup hx.messages h.messageSequence
  eventSequences e he := by
    have he : e ∈ after.conversationEvents.rows := he
    rw [hx.events] at he
    exact h.eventSequences e (List.mem_filter.mp he).1
  eventSequence := kept_nodup hx.events h.eventSequence
  assistantMessages := kept_nodup hx.runs h.assistantMessages
  triggerMessages := kept_references hx.runs hx.messages h.triggerMessages fun r hr m hm he hkept => by
    obtain ⟨h₁, h₂, h₃⟩ := hc.runs r hr m hm he
    rwa [h₁, h₂, h₃]
  handoffRun := kept_nodup hx.handoffs h.handoffRun
  handoffRuns := kept_references hx.handoffs hx.runs h.handoffRuns fun s hs r hr he hkept => by
    obtain ⟨h₁, h₂, h₃⟩ := hc.handoffs s hs r hr he
    rwa [h₁, h₂, h₃]
  resolutions i hi := by
    have hi : i ∈ after.structuredInputRequests.rows := hi
    rw [hx.inputs] at hi
    obtain ⟨j, hj, rfl⟩ := List.mem_map.mp hi
    split
    · rfl
    · exact h.resolutions j (List.mem_filter.mp hj).1
  inputRuns := by
    change after.structuredInputRequests.rows.map StructuredInputRequest.runId ⊆ _
    rw [hx.inputRuns]
    refine kept_references rfl hx.runs h.inputRuns fun i hi r hr he hkept => ?_
    obtain ⟨h₁, h₂, h₃⟩ := hc.inputs i hi r hr he
    rwa [h₁, h₂, h₃]
  widgetKeys := h.widgetKeys

lemma kept_conversation {c : Conversation} {tenantId siteId conversationId : Id}
    (hkept : (!ofAny gone tenantId siteId conversationId) = true)
    (he : (c.tenantId, c.siteId, c.conversationId) = (tenantId, siteId, conversationId)) :
    decide (c ∉ gone) = true := by
  refine decide_eq_true fun hc => ?_
  simp only [Prod.mk.injEq] at he
  have hany : ofAny gone tenantId siteId conversationId = true :=
    List.any_eq_true.mpr ⟨c, hc, sameConversation_iff.mpr ⟨he.1.symm, he.2.1.symm, he.2.2.symm⟩⟩
  rw [hany] at hkept
  cases hkept

lemma Exact.deferrable (hx : Exact policy now db.toTables after result gone leaving) (h : Deferrable db) :
    Deferrable { db with toTables := after } where
  widgets := h.widgets
  principals := kept_subset hx.principals h.principals
  sessions := kept_references hx.sessions hx.principals h.sessions fun s _ p _ he hkept => by
    refine decide_eq_true fun hp => ?_
    rw [Bool.not_eq_true', Bool.or_eq_false_iff] at hkept
    exact List.any_eq_false.mp hkept.2 p hp (decide_eq_true he.symm)
  conversations := kept_references hx.conversations hx.principals h.conversations fun c hc p _ he hkept => by
    refine decide_eq_true fun hp => ?_
    have hafter : c ∈ after.conversations.rows := by
      rw [hx.conversations]
      exact List.mem_filter.mpr ⟨hc, hkept⟩
    exact hx.leaving_vacant p hp c hafter he.symm
  participants := kept_references hx.participants hx.conversations h.participants fun _ _ _ _ he hkept =>
    kept_conversation hkept he
  messages := kept_references hx.messages hx.participants h.messages fun m _ r _ he hkept => by
    simp only [Prod.mk.injEq] at he
    rwa [he.1, he.2.1, he.2.2.1]
  events := kept_references hx.events hx.conversations h.events fun _ _ _ _ he hkept => kept_conversation hkept he
  runs := kept_references hx.runs hx.conversations h.runs fun _ _ _ _ he hkept => kept_conversation hkept he

end Integrity

/-- A sweep deletes exactly what it selects, and all constraints hold afterwards. -/
theorem sweep_exact (policy : RetentionPolicy) (orders : Orders) (now : Timestamp) (db : Provisioning.Registry)
    (h : Consistent Provisioning.constraints db) (hc : Coherent db.toTables) :
    ∃ result after gone leaving, (RetentionService.runOnce policy orders now).run db.toTables =
      (.ok result, after) ∧
      Exact policy now db.toTables after result gone leaving ∧
      Consistent Provisioning.constraints { db with toTables := after } := by
  obtain ⟨himmediate, hdeferrable⟩ := Provisioning.consistent_iff.mp h
  have hexact : Exact policy now db.toTables (finished policy orders now db.toTables) _ _ _ :=
    exact_finished hc hdeferrable.conversations
  exact ⟨_, _, _, _, exec_runOnce, hexact,
    Provisioning.consistent_iff.mpr ⟨hexact.immediate himmediate hc, hexact.deferrable hdeferrable⟩⟩

def visited : Provisioning.Registry where
  toTables := {
    principals := ⟨[⟨"visitor", "tenant", "site", "browser", 0⟩], by decide⟩
    browserSessions := ⟨[⟨"session", "tenant", "site", "visitor", 1⟩], by decide⟩
    sessionBootstrapIdempotency := ∅
    conversations := ⟨[⟨"conversation", "tenant", "site", "visitor", "agent", .active, 2, 1, 0, 0⟩,
      ⟨"recent", "tenant", "site", "visitor", "agent", .active, 2, 1, 0, dayLater⟩], by decide⟩
    conversationParticipants := ⟨[⟨"user", "tenant", "site", "conversation", .user, some "visitor", none⟩,
      ⟨"guest", "tenant", "site", "recent", .user, some "visitor", none⟩], by decide⟩
    messages := ⟨[⟨"message", "tenant", "site", "conversation", 1, "user", .user, .completed, [], 0, some 0⟩,
      ⟨"question", "tenant", "site", "recent", 1, "guest", .user, .completed, [], dayLater, some dayLater⟩],
        by decide⟩
    commandIdempotency := ∅
    conversationEvents := ∅
    agentRuns := ⟨[⟨"run", "tenant", "site", "conversation", "message", .message, "answer", "agent",
      .completed, 1, 0,
      none, none, none, none, 0, 0, some 0⟩], by decide⟩
    handoffs := ⟨[⟨"handoff", "tenant", "site", "conversation", "run", .human, .completed, 0, 0⟩], by decide⟩
    structuredInputRequests :=
      ⟨[⟨"input", "tenant", "site", "conversation", "run", .handoffEmailDelivery, "Email?",
      true, .submitted, some "visitor@example.test", some .granted, some 0, 0, 0⟩], by decide⟩ }
  tenants := ⟨[⟨"tenant", "Tenant", 0⟩], by decide⟩
  sites := ⟨[⟨"site", "tenant", "key", "Site", [], "agent", 0⟩], by decide⟩
  siteWidgets := ∅
  auditEvents := ∅

lemma visited_idle : idle ⟨1, 1⟩ dayLater visited.toTables = visited.conversations.rows.take 1 := by decide +kernel

theorem visited_sweep_exact : ∃ result after gone leaving,
    (RetentionService.runOnce ⟨1, 1⟩ ⟨Runs.asStored, Runs.asStored⟩ dayLater).run visited.toTables =
        (.ok result, after) ∧
      Exact ⟨1, 1⟩ dayLater visited.toTables after result gone leaving ∧
      Consistent Provisioning.constraints { visited with toTables := after } ∧
      after.conversations.rows.map Conversation.conversationId = ["recent"] := by
  have hc : Coherent visited.toTables := by
    refine ⟨?_, ?_, ?_⟩
    · exact (by decide : ∀ r ∈ visited.agentRuns.rows, ∀ m ∈ visited.messages.rows,
        m.messageId = r.triggerMessageId →
        m.tenantId = r.tenantId ∧ m.siteId = r.siteId ∧ m.conversationId = r.conversationId)
    · exact (by decide : ∀ h ∈ visited.handoffs.rows, ∀ r ∈ visited.agentRuns.rows, r.runId = h.runId →
        r.tenantId = h.tenantId ∧ r.siteId = h.siteId ∧ r.conversationId = h.conversationId)
    · exact (by decide : ∀ i ∈ visited.structuredInputRequests.rows, ∀ r ∈ visited.agentRuns.rows,
        r.runId = i.runId →
        r.tenantId = i.tenantId ∧ r.siteId = i.siteId ∧ r.conversationId = i.conversationId)
  obtain ⟨result, after, gone, leaving, hrun, hexact, hconsistent⟩ :=
    sweep_exact ⟨1, 1⟩ ⟨Runs.asStored, Runs.asStored⟩ dayLater visited (by decide +kernel) hc
  refine ⟨result, after, gone, leaving, hrun, hexact, hconsistent, ?_⟩
  have hidle := hexact.gone_idle
  have hlength := hexact.gone_length
  rw [visited_idle] at hidle hlength
  obtain ⟨c, rfl⟩ := List.length_eq_one_iff.mp hlength
  obtain rfl := List.mem_singleton.mp (hidle (List.mem_singleton_self c))
  rw [hexact.conversations]
  decide

end ChatCore.Retention
