import ChatCore.Relational.Alone
import ChatCore.Services.Sweeps

namespace ChatCore.Relational.Table

variable {ρ κ : Type} {key : ρ → κ} {t : Table key} {p q : ρ → Bool}

lemma delete_absorb (h : ∀ r ∈ t, q r = true → p r = true) : (t.delete p).delete q = t.delete p := by
  rw [delete_delete]
  refine delete_congr fun r hr => ?_
  cases hq : q r with
  | false => rw [Bool.or_false]
  | true => rw [h r hr hq, Bool.or_true]

end ChatCore.Relational.Table

namespace ChatCore.Services

open Protocol Relational Database RetentionService

structure Rooted (db : Tables) : Prop where
  handoffs : ∀ h ∈ db.handoffs, ∀ r ∈ db.agentRuns, r.runId = h.runId →
    (h.tenantId, h.siteId, h.conversationId) = (r.tenantId, r.siteId, r.conversationId)
  inputs : ∀ i ∈ db.structuredInputRequests, ∀ r ∈ db.agentRuns, r.runId = i.runId →
    (i.tenantId, i.siteId, i.conversationId) = (r.tenantId, r.siteId, r.conversationId)
  triggers : ∀ r ∈ db.agentRuns, ∀ m ∈ db.messages, m.messageId = r.triggerMessageId →
    (r.tenantId, r.siteId, r.conversationId) = (m.tenantId, m.siteId, m.conversationId)

structure Forgets (gone : Id → Id → Id → Bool) (a b : Tables) : Prop where
  conversations : b.conversations = a.conversations.delete fun c => gone c.tenantId c.siteId c.conversationId
  messages : b.messages = a.messages.delete fun m => gone m.tenantId m.siteId m.conversationId
  events : b.conversationEvents = a.conversationEvents.delete fun e => gone e.tenantId e.siteId e.conversationId
  runs : b.agentRuns = a.agentRuns.delete fun r => gone r.tenantId r.siteId r.conversationId
  handoffs : b.handoffs = a.handoffs.delete fun h => gone h.tenantId h.siteId h.conversationId
  inputs : b.structuredInputRequests =
    a.structuredInputRequests.delete fun i => gone i.tenantId i.siteId i.conversationId

section Forgets

variable {gone gone' : Id → Id → Id → Bool} {a b c : Tables}

lemma Forgets.trans (h : Forgets gone a b) (h' : Forgets gone' b c) :
    Forgets (fun t s d => gone t s d || gone' t s d) a c where
  conversations := by rw [h'.conversations, h.conversations, Table.delete_delete]
  messages := by rw [h'.messages, h.messages, Table.delete_delete]
  events := by rw [h'.events, h.events, Table.delete_delete]
  runs := by rw [h'.runs, h.runs, Table.delete_delete]
  handoffs := by rw [h'.handoffs, h.handoffs, Table.delete_delete]
  inputs := by rw [h'.inputs, h.inputs, Table.delete_delete]

lemma forgets_refl (db : Tables) : Forgets (fun _ _ _ => false) db db := by
  constructor <;> exact Table.delete_false.symm

lemma Forgets.rooted (h : Forgets gone a b) (ha : Rooted a) : Rooted b := by
  refine ⟨fun x hx r hr => ?_, fun x hx r hr => ?_, fun r hr m hm => ?_⟩
  · rw [h.handoffs] at hx
    rw [h.runs] at hr
    exact ha.handoffs x (Table.mem_delete.mp hx).1 r (Table.mem_delete.mp hr).1
  · rw [h.inputs] at hx
    rw [h.runs] at hr
    exact ha.inputs x (Table.mem_delete.mp hx).1 r (Table.mem_delete.mp hr).1
  · rw [h.runs] at hr
    rw [h.messages] at hm
    exact ha.triggers r (Table.mem_delete.mp hr).1 m (Table.mem_delete.mp hm).1

end Forgets

section Cascades

variable {a c v : Tables} {w : Tables × Tables} {u : Unit}

lemma exec_deleteAgentRuns (p : AgentRun → Bool) (c v : Tables) :
    (deleteAgentRuns p).exec c v = (.ok (), c, { v with
    agentRuns := v.agentRuns.delete p
    handoffs := v.handoffs.delete fun h => (agentRuns.matching p v).any fun r => decide (r.runId = h.runId)
    structuredInputRequests := v.structuredInputRequests.delete fun i =>
      (agentRuns.matching p v).any fun r => decide (r.runId = i.runId) }) :=
  (Program.exec_bind_ok (agentRuns.exec_deleteFrom _ _ _)).trans
    ((Program.exec_bind_ok (handoffs.exec_deleteFrom _ _ _)).trans
      (Program.exec_bind_ok (structuredInputRequests.exec_deleteFrom _ _ _)))

lemma exec_restrict_inv {name : String} {referring : Tables → Bool}
    (h : (restrict name referring).exec c v = (.ok u, w)) : w = (c, v) := by
  replace h := (Program.exec_bind_ok (Program.exec_select referring c v)).symm.trans h
  cases hr : referring v with
  | true => rw [hr] at h; cases h
  | false => rw [hr] at h; cases h; rfl

lemma exec_deleteConversationParticipants_inv {p : ConversationParticipant → Bool}
    (h : (deleteConversationParticipants p).exec c v = (.ok u, w)) :
    w = (c, { v with conversationParticipants := v.conversationParticipants.delete p }) :=
  exec_restrict_inv ((Program.exec_bind_ok (conversationParticipants.exec_deleteFrom p c v)).symm.trans h)

lemma exec_deleteConversation {d : Conversation} (hv : Rooted v)
    (h : (deleteConversation d).exec c v = (.ok u, w)) :
    ∃ v', w = (c, v') ∧ Forgets (fun t s k => sameConversation d t s k) v v' := by
  replace h := (Program.exec_bind_ok (structuredInputRequests.exec_deleteFrom _ _ _)).symm.trans h
  replace h := (Program.exec_bind_ok (handoffs.exec_deleteFrom _ _ _)).symm.trans h
  replace h := (Program.exec_bind_ok (exec_deleteAgentRuns _ _ _)).symm.trans h
  replace h := (Program.exec_bind_ok (conversationEvents.exec_deleteFrom _ _ _)).symm.trans h
  obtain ⟨u₁, c₁, v₁, h₁, h⟩ := Program.exec_bind_inv h
  replace h₁ := (Program.exec_bind_ok (messages.exec_deleteFrom _ _ _)).symm.trans h₁
  replace h₁ := (exec_deleteAgentRuns _ _ _).symm.trans h₁
  cases h₁
  obtain ⟨u₂, c₂, v₂, h₂, h⟩ := Program.exec_bind_inv h
  cases exec_deleteConversationParticipants_inv h₂
  replace h := (Program.exec_bind_ok (conversations.exec_deleteFrom _ _ _)).symm.trans h
  replace h := (Program.exec_bind_ok (conversationEvents.exec_deleteFrom _ _ _)).symm.trans h
  replace h := (Program.exec_bind_ok (exec_deleteAgentRuns _ _ _)).symm.trans h
  cases exec_deleteConversationParticipants_inv h
  have hsame : ∀ e : Conversation, e ∈ conversations.matching (fun e => sameConversation d e.tenantId e.siteId
      e.conversationId) v → ∀ t s k, sameConversation e t s k = true → sameConversation d t s k = true := by
    intro e he t s k hk
    have hd := (List.mem_filter.mp he).2
    simp only [sameConversation, Bool.and_eq_true, decide_eq_true_eq] at hd hk ⊢
    exact ⟨⟨hk.1.1.trans hd.1.1, hk.1.2.trans hd.1.2⟩, hk.2.trans hd.2⟩
  have hrun : ∀ r ∈ v.agentRuns, ∀ m ∈ v.messages, m.messageId = r.triggerMessageId →
      sameConversation d m.tenantId m.siteId m.conversationId = true →
        sameConversation d r.tenantId r.siteId r.conversationId = true := by
    intro r hr m hm ht hd
    have heq := hv.triggers r hr m hm ht
    simp only [Prod.mk.injEq] at heq
    rwa [heq.1, heq.2.1, heq.2.2]
  have hleft : ∀ r ∈ v.agentRuns.delete (fun r => sameConversation d r.tenantId r.siteId r.conversationId),
      sameConversation d r.tenantId r.siteId r.conversationId ≠ true :=
    fun r hr => ne_true_of_eq_false (Table.mem_delete.mp hr).2
  have htriggered : ∀ r ∈ v.agentRuns, ((messages.matching (fun m => sameConversation d m.tenantId m.siteId
      m.conversationId) v).any fun m => decide (m.messageId = r.triggerMessageId)) = true →
        sameConversation d r.tenantId r.siteId r.conversationId = true := by
    intro r hr hq
    obtain ⟨m, hm, ht⟩ := List.any_eq_true.mp hq
    obtain ⟨hm, hd⟩ := List.mem_filter.mp hm
    exact hrun r hr m hm (of_decide_eq_true ht) hd
  have hreferred : ∀ r : AgentRun, ((conversations.matching (fun e => sameConversation d e.tenantId e.siteId
      e.conversationId) v).any fun e => sameConversation e r.tenantId r.siteId r.conversationId) = true →
        sameConversation d r.tenantId r.siteId r.conversationId = true := by
    intro r hq
    obtain ⟨e, he, hk⟩ := List.any_eq_true.mp hq
    exact hsame e he _ _ _ hk
  refine ⟨_, rfl, rfl, rfl, Table.delete_absorb fun e he hq => ?_, ?_, ?_, ?_⟩
  · obtain ⟨e', he', hk⟩ := List.any_eq_true.mp hq
    exact hsame e' he' _ _ _ hk
  · refine (Table.delete_absorb fun r hr hq => ?_).trans (Table.delete_absorb htriggered)
    exact absurd (hreferred r hq) (hleft r hr)
  · refine (Table.delete_absorb fun h hh hq => ?_).trans ((Table.delete_absorb fun h hh hq => ?_).trans
      (Table.delete_absorb fun h hh hq => ?_))
    · obtain ⟨r, hr, -⟩ := List.any_eq_true.mp hq
      obtain ⟨hr, hp⟩ := List.mem_filter.mp hr
      exact absurd (hreferred r hp) (hleft r (Table.mem_delete.mp hr).1)
    · obtain ⟨r, hr, -⟩ := List.any_eq_true.mp hq
      obtain ⟨hr, hp⟩ := List.mem_filter.mp hr
      exact absurd (htriggered r (Table.mem_delete.mp hr).1 hp) (hleft r hr)
    · obtain ⟨r, hr, hk⟩ := List.any_eq_true.mp hq
      obtain ⟨hr, hp⟩ := List.mem_filter.mp hr
      have heq := hv.handoffs h hh r hr (of_decide_eq_true hk)
      simp only [Prod.mk.injEq] at heq
      rwa [heq.1, heq.2.1, heq.2.2]
  · refine (Table.delete_absorb fun h hh hq => ?_).trans ((Table.delete_absorb fun h hh hq => ?_).trans
      (Table.delete_absorb fun i hi hq => ?_))
    · obtain ⟨r, hr, -⟩ := List.any_eq_true.mp hq
      obtain ⟨hr, hp⟩ := List.mem_filter.mp hr
      exact absurd (hreferred r hp) (hleft r (Table.mem_delete.mp hr).1)
    · obtain ⟨r, hr, -⟩ := List.any_eq_true.mp hq
      obtain ⟨hr, hp⟩ := List.mem_filter.mp hr
      exact absurd (htriggered r (Table.mem_delete.mp hr).1 hp) (hleft r hr)
    · obtain ⟨r, hr, hk⟩ := List.any_eq_true.mp hq
      obtain ⟨hr, hp⟩ := List.mem_filter.mp hr
      have heq := hv.inputs i hi r hr (of_decide_eq_true hk)
      simp only [Prod.mk.injEq] at heq
      rwa [heq.1, heq.2.1, heq.2.2]

lemma exec_forM_deleteConversation {expired : List Conversation} (hv : Rooted v)
    (h : (expired.forM deleteConversation).exec c v = (.ok u, w)) : ∃ gone v', w = (c, v') ∧
    Forgets gone v v' := by
  induction expired generalizing v with
  | nil =>
    cases h
    exact ⟨_, v, rfl, forgets_refl v⟩
  | cons d expired ih =>
    obtain ⟨u₁, c₁, v₁, h₁, h⟩ := Program.exec_bind_inv h
    obtain ⟨v₂, he, hforgets⟩ := exec_deleteConversation hv h₁
    cases he
    obtain ⟨gone, v', rfl, hrest⟩ := ih (hforgets.rooted hv) h
    exact ⟨_, v', rfl, hforgets.trans hrest⟩

end Cascades

structure Spares (a b : Tables) : Prop where
  conversations : b.conversations = a.conversations
  messages : b.messages = a.messages
  events : b.conversationEvents = a.conversationEvents
  runs : b.agentRuns = a.agentRuns
  handoffs : b.handoffs = a.handoffs
  inputs : b.structuredInputRequests = a.structuredInputRequests

lemma spares_refl (db : Tables) : Spares db db := by constructor <;> rfl

lemma Spares.trans {a b c : Tables} (h : Spares a b) (h' : Spares b c) : Spares a c where
  conversations := h'.conversations.trans h.conversations
  messages := h'.messages.trans h.messages
  events := h'.events.trans h.events
  runs := h'.runs.trans h.runs
  handoffs := h'.handoffs.trans h.handoffs
  inputs := h'.inputs.trans h.inputs

lemma Forgets.spares {gone : Id → Id → Id → Bool} {a b c : Tables} (h : Forgets gone a b) (h' : Spares b c) :
    Forgets gone a c where
  conversations := h'.conversations.trans h.conversations
  messages := h'.messages.trans h.messages
  events := h'.events.trans h.events
  runs := h'.runs.trans h.runs
  handoffs := h'.handoffs.trans h.handoffs
  inputs := h'.inputs.trans h.inputs

def SweptAway (a b : Tables) : Prop := ∃ q gone, (∀ i, q i = true → i.value.isSome = true) ∧ Forgets gone { a with
  structuredInputRequests := a.structuredInputRequests.update q redact redact_requestId } b

structure RestWrites (K : Tables → Tables → Prop) : Prop where
  refl : ∀ db, K db db
  commands : commandIdempotency.Deletes K
  bootstraps : sessionBootstrapIdempotency.Deletes K
  sessions : browserSessions.Deletes K
  principals : principals.Deletes K

lemma restWrites_spares : RestWrites Spares :=
  ⟨spares_refl, fun _ _ => ⟨rfl, rfl, rfl, rfl, rfl, rfl⟩, fun _ _ => ⟨rfl, rfl, rfl, rfl, rfl, rfl⟩,
    fun _ _ => ⟨rfl, rfl, rfl, rfl, rfl, rfl⟩, fun _ _ => ⟨rfl, rfl, rfl, rfl, rfl, rfl⟩⟩

lemma keeps_deletePrincipal {K : Tables → Tables → Prop} (hw : RestWrites K) (p : Principal) :
    (deletePrincipal p).Keeps K := by
  refine (Relation.keeps_selectFirst _ hw.refl _).bind fun used => ?_
  cases used with
  | some c => trivial
  | none =>
    refine Program.Keeps.bind (Relation.keeps_deleteFrom hw.principals) fun rows => ?_
    refine Program.Keeps.bind (Relation.keeps_deleteFrom hw.sessions) fun _ => ?_
    refine Program.Keeps.bind ((keeps_select hw.refl _).bind fun found => ?_) fun _ => trivial
    cases found <;> trivial

lemma keeps_foldlM {α β : Type} {K : Tables → Tables → Prop} {f : β → α → Query β} (hf : ∀ b a, (f b a).Keeps K)
    (rows : List α) (b : β) : (rows.foldlM f b).Keeps K := by
  induction rows generalizing b with
  | nil => trivial
  | cons a rows ih =>
    rw [List.foldlM_cons]
    exact (hf b a).bind fun b' => ih b'

section Single

lemma single_restrict (name : String) (referring : Tables → Bool) : (restrict name referring).Single := by
  refine Program.Single.bind (single_select _) fun found => ?_
  cases found <;> trivial

lemma single_deleteAgentRuns (p : AgentRun → Bool) : (deleteAgentRuns p).Single := by
  refine Program.Single.bind (agentRuns.single_deleteFrom _) fun _ => ?_
  refine Program.Single.bind (handoffs.single_deleteFrom _) fun _ => ?_
  exact Program.Single.bind (structuredInputRequests.single_deleteFrom _) fun _ => trivial

lemma single_deleteConversationParticipants (p : ConversationParticipant → Bool) :
    (deleteConversationParticipants p).Single :=
  Program.Single.bind (conversationParticipants.single_deleteFrom _) fun _ => single_restrict _ _

lemma single_deleteConversation (c : Conversation) : (deleteConversation c).Single := by
  refine Program.Single.bind (structuredInputRequests.single_deleteFrom _) fun _ => ?_
  refine Program.Single.bind (handoffs.single_deleteFrom _) fun _ => ?_
  refine (single_deleteAgentRuns _).bind fun _ => ?_
  refine Program.Single.bind (conversationEvents.single_deleteFrom _) fun _ => ?_
  refine Program.Single.bind (Program.Single.bind (messages.single_deleteFrom _) fun _ => single_deleteAgentRuns _)
    fun _ => ?_
  refine (single_deleteConversationParticipants _).bind fun _ => ?_
  refine Program.Single.bind (conversations.single_deleteFrom _) fun _ => ?_
  refine Program.Single.bind (conversationEvents.single_deleteFrom _) fun _ => ?_
  exact (single_deleteAgentRuns _).bind fun _ => single_deleteConversationParticipants _

lemma single_deletePrincipal (p : Principal) : (deletePrincipal p).Single := by
  refine Program.Single.bind (conversations.single_selectFirst _) fun used => ?_
  cases used with
  | some c => trivial
  | none =>
    refine Program.Single.bind (principals.single_deleteFrom _) fun rows => ?_
    refine Program.Single.bind (browserSessions.single_deleteFrom _) fun _ => ?_
    exact (single_restrict _ _).bind fun _ => trivial

lemma single_forM {α : Type} {f : α → Query Unit} (hf : ∀ a, (f a).Single) (rows : List α) :
    (rows.forM f).Single := by
  induction rows with
  | nil => trivial
  | cons a rows ih => exact Program.Single.bind (hf a) fun _ => ih

lemma single_foldlM {α β : Type} {f : β → α → Query β} (hf : ∀ b a, (f b a).Single) (rows : List α) (b : β) :
    (rows.foldlM f b).Single := by
  induction rows generalizing b with
  | nil => trivial
  | cons a rows ih =>
    rw [List.foldlM_cons]
    exact (hf b a).bind fun b' => ih b'

end Single

variable (policy : RetentionPolicy) (orders : Orders) (now : Timestamp)

def sweepRest (redacted expired : ℕ) : Query RetentionResult := do
  let _ ← commandIdempotency.deleteFrom (fun r => decide (r.createdAt < anonymousCutoff policy now))
  let _ ← sessionBootstrapIdempotency.deleteFrom (fun r => decide (r.createdAt < anonymousCutoff policy now))
  let _ ← browserSessions.deleteFrom (fun s => decide (s.expiresAt < now))
  let candidates ← Program.select fun db => (orders.principals.arrange
    (principals.matching (fun p => decide (p.createdAt < anonymousCutoff policy now)) db)).take 100
  let principalsDeleted ← candidates.foldlM (fun n p => return n + (← deletePrincipal p)) 0
  return ⟨expired, principalsDeleted, redacted⟩

lemma keeps_sweepRest {K : Tables → Tables → Prop} (hw : RestWrites K) (redacted expired : ℕ) :
    (sweepRest policy orders now redacted expired).Keeps K := by
  refine Program.Keeps.bind (Relation.keeps_deleteFrom hw.commands) fun _ => ?_
  refine Program.Keeps.bind (Relation.keeps_deleteFrom hw.bootstraps) fun _ => ?_
  refine Program.Keeps.bind (Relation.keeps_deleteFrom hw.sessions) fun _ => ?_
  refine (keeps_select hw.refl _).bind fun candidates => ?_
  exact (keeps_foldlM (fun n p => (keeps_deletePrincipal hw p).bind fun _ => by trivial) candidates 0).bind
    fun _ => trivial

lemma single_sweepRest (redacted expired : ℕ) : (sweepRest policy orders now redacted expired).Single := by
  refine Program.Single.bind (commandIdempotency.single_deleteFrom _) fun _ => ?_
  refine Program.Single.bind (sessionBootstrapIdempotency.single_deleteFrom _) fun _ => ?_
  refine Program.Single.bind (browserSessions.single_deleteFrom _) fun _ => ?_
  refine Program.Single.bind (single_select _) fun candidates => ?_
  exact (single_foldlM (fun n p => (single_deletePrincipal p).bind fun _ => by trivial) candidates 0).bind
    fun _ => trivial

def sweep : Query RetentionResult := do
  let redacted ← structuredInputRequests.updateTable
    (fun r => r.value.isSome && decide (r.updatedAt < contactCutoff policy now)) redact redact_requestId
  let expired ← Program.select fun db =>
    (orders.conversations.arrange (expiredConversations (anonymousCutoff policy now) db)).take 100
  expired.forM deleteConversation
  sweepRest policy orders now redacted.length expired.length

lemma runOnce_eq : runOnce policy orders now = (sweep policy orders now).transaction := rfl

lemma single_sweep : (sweep policy orders now).Single := by
  refine Program.Single.bind (structuredInputRequests.single_updateTable _ _ _) fun redacted => ?_
  refine Program.Single.bind (single_select _) fun expired => ?_
  exact (single_forM single_deleteConversation expired).bind fun _ => single_sweepRest _ _ _ _ _

lemma redact_rooted {a : Tables} {q : StructuredInputRequest → Bool} (ha : Rooted a) : Rooted { a with
    structuredInputRequests := a.structuredInputRequests.update q redact fun _ => rfl } where
  handoffs := ha.handoffs
  inputs := by
    intro i hi r hr hk
    replace hi : i ∈ a.structuredInputRequests.update q redact (fun _ => rfl) := hi
    obtain ⟨i', hi', rfl⟩ := Table.mem_update.mp hi
    split at hk
    · rw [if_pos ‹_›]
      exact ha.inputs i' hi' r hr hk
    · rw [if_neg ‹_›]
      exact ha.inputs i' hi' r hr hk
  triggers := ha.triggers

theorem run_runOnce {a : Tables} (ha : Rooted a) :
    ((runOnce policy orders now).run a).2 = a ∨ SweptAway a ((runOnce policy orders now).run a).2 := by
  obtain ⟨e, h⟩ | ⟨result, v, h, hv⟩ := Program.run_transaction_bind (single_sweep policy orders now)
    (fun result => show (Pure.pure result : Query RetentionResult).Keeps Eq from trivial) a
  · rw [bind_pure] at h
    exact Or.inl (congrArg Prod.snd h)
  · rw [bind_pure] at hv
    refine Or.inr ?_
    have hrun : ((runOnce policy orders now).run a).2 = v := hv
    rw [hrun]
    obtain ⟨redacted, c₁, v₁, h₁, h⟩ := Program.exec_bind_inv h
    obtain ⟨-, he⟩ := Relation.exec_updateTable_inv h₁
    cases he
    obtain ⟨expired, c₂, v₂, h₂, h⟩ := Program.exec_bind_inv h
    cases h₂
    obtain ⟨u, c₃, v₃, h₃, h⟩ := Program.exec_bind_inv h
    obtain ⟨gone, v', he, hforgets⟩ := exec_forM_deleteConversation (redact_rooted ha) h₃
    cases he
    have hrest := (keeps_sweepRest policy orders now restWrites_spares _ _).exec_ok spares_refl
      (fun _ _ _ => Spares.trans) h
    refine ⟨_, gone, fun i hi => ?_, hforgets.spares hrest⟩
    rw [Bool.and_eq_true] at hi
    exact hi.1

end ChatCore.Services
