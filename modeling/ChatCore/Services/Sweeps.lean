import ChatCore.Services.Locks

namespace ChatCore.Services

open Protocol Relational Database RetentionService

def rowCell (n : LockName) (db : Tables) : Option StructuredInputRequest × Option AgentRun :=
  (match n with | .input id => db.structuredInputRequests.find? id | _ => none,
    match n with | .run id => db.agentRuns.find? id | _ => none)

lemma rowCell_of_cell (platform : Platform) (n : LockName) (db db' : Tables)
    (h : cell platform n db = cell platform n db') : rowCell n db = rowCell n db' :=
  Prod.ext (congrArg Cell.input h) (congrArg Cell.run h)

lemma rowShields_inputs : structuredInputRequests.Shields rowCell (fun _ _ => ()) := by
  intro n base u hrow _
  cases n <;> simp [rowCell, structuredInputRequests] at hrow ⊢
  exact hrow

lemma rowShields_runs : agentRuns.Shields rowCell (fun _ _ => ()) := by
  intro n base u hrow _
  cases n <;> simp [rowCell, agentRuns] at hrow ⊢
  exact hrow

structure Tame {α : Type} (K : Tables → Tables → Prop) (E : ServerError → Prop) (p : Query α) : Prop where
  guarded : p.Guarded rowCell []
  keeps : p.Keeps K
  raises : p.Raises E

structure SweepWrites (K : Tables → Tables → Prop) : Prop where
  refl : ∀ db, K db db
  redact : ∀ base q, (∀ r, q r = true → r.value.isSome = true) →
    K base (structuredInputRequests.put base ((structuredInputRequests.get base).update q redact (fun _ => rfl)))
  inputs : structuredInputRequests.Deletes K
  handoffs : handoffs.Deletes K
  runs : agentRuns.Deletes K
  events : conversationEvents.Deletes K
  messages : messages.Deletes K
  participants : conversationParticipants.Deletes K
  conversations : conversations.Deletes K
  commands : commandIdempotency.Deletes K
  bootstraps : sessionBootstrapIdempotency.Deletes K
  sessions : browserSessions.Deletes K
  principals : principals.Deletes K

structure SweepErrors (E : ServerError → Prop) : Prop where
  participant : E (.constraint "messages_participant_foreign")
  principal : E (.constraint "conversations_principal_foreign")

section Tame

variable {α β : Type} {K : Tables → Tables → Prop} {E : ServerError → Prop}

lemma Tame.bind {p : Query α} {f : α → Query β} (hp : Tame K E p) (hf : ∀ a, Tame K E (f a)) :
    Tame K E (p >>= f) :=
  ⟨hp.guarded.bind fun a => (hf a).guarded, hp.keeps.bind fun a => (hf a).keeps,
    hp.raises.bind fun a => (hf a).raises⟩

lemma tame_pure (a : α) : Tame K E (Pure.pure a : Query α) := ⟨trivial, trivial, trivial⟩

lemma tame_select (hK : ∀ db, K db db) (query : Tables → α) : Tame K E (Program.select query) :=
  ⟨guarded_select _, keeps_select hK _, raises_select _⟩

lemma tame_rowDelete {ρ κ : Type} {key : ρ → κ} [DecidableEq κ] {t : Relation Tables LockName key} (p : ρ → Bool)
    (hs : t.Shields rowCell (fun _ _ => ())) (hd : t.Deletes K) : Tame K E (t.deleteFrom p) :=
  ⟨hs.deleteFrom fun _ _ _ _ _ => rfl, Relation.keeps_deleteFrom hd, Relation.raises_deleteFrom _⟩

lemma tame_delete {ρ κ : Type} {key : ρ → κ} [DecidableEq κ] (t : Relation Tables LockName key) (p : ρ → Bool)
    (h : ∀ n base u, rowCell n (t.put base u) = rowCell n base) (hd : t.Deletes K) : Tame K E (t.deleteFrom p) :=
  tame_rowDelete p (fun n base u _ _ => h n base u) hd

lemma tame_restrict (hK : ∀ db, K db db) {name : String} (hE : E (.constraint name)) (referring : Tables → Bool) :
    Tame K E (restrict name referring) := by
  refine (tame_select hK _).bind fun found => ?_
  cases found with
  | false => exact tame_pure _
  | true => exact ⟨trivial, trivial, hE⟩

lemma tame_forM (rows : List α) {f : α → Query Unit} (hf : ∀ a, Tame K E (f a)) : Tame K E (rows.forM f) := by
  induction rows with
  | nil => exact tame_pure _
  | cons a rows ih =>
    change Tame K E (f a >>= fun _ => rows.forM f)
    exact (hf a).bind fun _ => ih

lemma tame_foldlM (rows : List α) {f : β → α → Query β} (hf : ∀ b a, Tame K E (f b a)) (b : β) :
    Tame K E (rows.foldlM f b) := by
  induction rows generalizing b with
  | nil => exact tame_pure _
  | cons a rows ih =>
    rw [List.foldlM_cons]
    exact (hf b a).bind fun b' => ih b'

section Sweep

variable (hw : SweepWrites K) (he : SweepErrors E)

include hw

lemma tame_deleteAgentRuns (p : AgentRun → Bool) : Tame K E (deleteAgentRuns p) := by
  unfold deleteAgentRuns
  refine (tame_rowDelete p rowShields_runs hw.runs).bind fun rows => ?_
  refine (tame_delete Database.handoffs _ (fun _ _ _ => rfl) hw.handoffs).bind fun _ => ?_
  exact (tame_rowDelete _ rowShields_inputs hw.inputs).bind fun _ => tame_pure _

include he

lemma tame_deleteConversationParticipants (p : ConversationParticipant → Bool) :
    Tame K E (deleteConversationParticipants p) := by
  unfold deleteConversationParticipants
  refine (tame_delete conversationParticipants p (fun _ _ _ => rfl) hw.participants).bind fun rows => ?_
  exact tame_restrict hw.refl he.participant _

lemma tame_deleteConversation (c : Conversation) : Tame K E (deleteConversation c) := by
  unfold deleteConversation deleteMessages deleteConversations
  refine (tame_rowDelete _ rowShields_inputs hw.inputs).bind fun _ => ?_
  refine (tame_delete Database.handoffs _ (fun _ _ _ => rfl) hw.handoffs).bind fun _ => ?_
  refine (tame_deleteAgentRuns hw _).bind fun _ => ?_
  refine (tame_delete conversationEvents _ (fun _ _ _ => rfl) hw.events).bind fun _ => ?_
  refine Tame.bind ?_ fun _ => ?_
  · exact (tame_delete Database.messages _ (fun _ _ _ => rfl) hw.messages).bind fun _ => tame_deleteAgentRuns hw _
  refine (tame_deleteConversationParticipants hw he _).bind fun _ => ?_
  refine (tame_delete Database.conversations _ (fun _ _ _ => rfl) hw.conversations).bind fun _ => ?_
  refine (tame_delete conversationEvents _ (fun _ _ _ => rfl) hw.events).bind fun _ => ?_
  exact (tame_deleteAgentRuns hw _).bind fun _ => tame_deleteConversationParticipants hw he _

lemma tame_deletePrincipal (p : Principal) : Tame K E (deletePrincipal p) := by
  unfold deletePrincipal deletePrincipals
  refine (tame_select hw.refl _).bind fun used => ?_
  cases used with
  | some c => exact tame_pure _
  | none =>
    refine (tame_delete Database.principals _ (fun _ _ _ => rfl) hw.principals).bind fun rows => ?_
    refine (tame_delete browserSessions _ (fun _ _ _ => rfl) hw.sessions).bind fun _ => ?_
    exact (tame_restrict hw.refl he.principal _).bind fun _ => tame_pure _

theorem tame_runOnce (policy : RetentionPolicy) (orders : Orders) (now : Timestamp) :
    Tame K E (runOnce policy orders now) := by
  unfold runOnce Program.transaction
  refine Tame.bind ?_ fun _ => ⟨trivial, trivial, trivial⟩
  refine Tame.bind ⟨?_, ?_, ?_⟩ fun redacted => ?_
  · exact rowShields_inputs.updateTable fun _ _ _ _ => rfl
  · refine Relation.keeps_updateTable_where fun base q hq => hw.redact base q fun r hr => ?_
    have hp := hq r hr
    rw [Bool.and_eq_true] at hp
    exact hp.1
  · exact Relation.raises_updateTable fun _ => rfl
  refine (tame_select hw.refl _).bind fun expired => ?_
  refine (tame_forM expired fun c => tame_deleteConversation hw he c).bind fun _ => ?_
  refine (tame_delete commandIdempotency _ (fun _ _ _ => rfl) hw.commands).bind fun _ => ?_
  refine (tame_delete sessionBootstrapIdempotency _ (fun _ _ _ => rfl) hw.bootstraps).bind fun _ => ?_
  refine (tame_delete browserSessions _ (fun _ _ _ => rfl) hw.sessions).bind fun _ => ?_
  refine (tame_select hw.refl _).bind fun candidates => ?_
  refine (tame_foldlM candidates (fun n p => ?_) 0).bind fun n => tame_pure _
  exact (tame_deletePrincipal hw he p).bind fun _ => tame_pure _

end Sweep

end Tame

end ChatCore.Services
