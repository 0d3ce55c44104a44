import ChatCore.Runs.Fencing
import ChatCore.Services.Pages
import ChatCore.Services.Rosters
import ChatCore.Services.Sweeps

namespace ChatCore.Services

open Protocol Relational Database

def Enlists (ids : List Id) (a b : Tables) : Prop :=
  ∀ p ∈ b.conversationParticipants, p ∈ a.conversationParticipants ∨ p.participantId ∈ ids

variable {ids : List Id} {a b : Tables}

lemma enlists_of_same (h : b.conversationParticipants = a.conversationParticipants) : Enlists ids a b :=
  fun _ hp => Or.inl (h ▸ hp)

lemma enlists_refl (db : Tables) : Enlists ids db db := enlists_of_same rfl

lemma Enlists.trans {c : Tables} (h : Enlists ids a b) (h' : Enlists ids b c) : Enlists ids a c := by
  intro p hp
  rcases h' p hp with hp | hp
  · exact h p hp
  · exact Or.inr hp

lemma enlists_insert {p : ConversationParticipant} (h : p.participantId ∈ ids) :
    conversationParticipants.Inserts (Enlists ids) p := by
  intro base q hq
  rcases Table.mem_of_mem_insert hq with hq | rfl
  · exact Or.inl hq
  · exact Or.inr h

def enlisted : Call → List Id
  | .createConversation _ _ _ ids _ => [ids.userParticipantId, ids.agentParticipantId]
  | _ => []

lemma enlists_body (server : Deployment) (call : Call) (db : Tables) :
    Enlists (enlisted call) db ((body server call).run db).2 := by
  have hsame : ∀ {ids : List Id} {a b : Tables}, b.conversationParticipants = a.conversationParticipants →
    Enlists ids a b :=
    enlists_of_same
  refine Program.Keeps.run enlists_refl (fun _ _ _ => Enlists.trans) ?_ db
  cases call with
  | createConversation scope agentRef key ids time =>
    refine (keeps_createConversation enlists_refl scope agentRef key ids time (fun _ _ _ => hsame rfl)
      (fun _ => hsame rfl) (enlists_insert ?_) (enlists_insert ?_)).map _
    · exact List.mem_cons_self
    · exact List.mem_cons_of_mem _ List.mem_cons_self
  | submitMessage =>
    exact keeps_body enlists_refl server
      ⟨fun _ _ _ => hsame rfl, fun _ _ => hsame rfl, fun _ _ => hsame rfl, fun _ _ => hsame rfl⟩
  | createEmailHandoff =>
    exact keeps_body enlists_refl server
      ⟨fun _ _ _ => hsame rfl, fun _ _ => hsame rfl, fun _ _ => hsame rfl, fun _ => hsame rfl⟩
  | cancelRun =>
    exact keeps_body enlists_refl server ⟨fun _ _ _ => hsame rfl, fun _ _ => hsame rfl, fun _ _ => hsame rfl⟩
  | submitStructuredInput =>
    exact keeps_body enlists_refl server
      ⟨fun _ _ _ => hsame rfl, fun _ _ => hsame rfl, fun _ _ => hsame rfl, fun _ _ => hsame rfl⟩
  | appendEvent =>
    exact keeps_body enlists_refl server ⟨fun _ _ => hsame rfl, fun _ _ => hsame rfl, fun _ _ => hsame rfl⟩
  | materialize run now participantId event =>
    refine keeps_body enlists_refl server ?_
    change MaterialWrites _ run now event.body
    cases event.body
    case messageStarted => exact ⟨fun _ _ => hsame rfl, fun _ _ => hsame rfl⟩
    case contactRequested => exact ⟨fun _ => hsame rfl, fun _ _ => hsame rfl⟩
    case messageCompleted | handoffCompleted => exact fun _ _ => hsame rfl
    case handoffRequested => exact fun _ => hsame rfl
    all_goals trivial
  | cancel | fail => exact keeps_body enlists_refl server ⟨fun _ _ => hsame rfl, fun _ _ => hsame rfl⟩
  | claim | complete | waitForInput | renewLease => exact keeps_body enlists_refl server fun _ _ => hsame rfl
  | replayEvents | loadContext | isCancellationRequested => exact keeps_body enlists_refl server trivial

lemma enlists_sweep (server : Deployment) (policy : RetentionService.RetentionPolicy)
    (orders : RetentionService.Orders)
    (now : Timestamp) (db : Tables) : Enlists [] db ((taskBody server (.sweep policy orders now)).run db).2 := by
  have hwrites : SweepWrites (Enlists []) := by
    refine ⟨enlists_refl, ?_, ?_, ?_, ?_, ?_, ?_, ?_, ?_, ?_, ?_, ?_, ?_⟩
    case refine_7 => exact fun _ _ p hp => Or.inl (Table.mem_delete.mp hp).1
    case refine_1 => exact fun _ _ _ => enlists_of_same rfl
    all_goals exact fun _ _ => enlists_of_same rfl
  have herrors : SweepErrors fun _ => True := ⟨trivial, trivial⟩
  rw [taskBody, Program.run_map]
  exact (tame_runOnce hwrites herrors policy orders now).keeps.run enlists_refl (fun _ _ _ => Enlists.trans) db

lemma ensures_loadContext (run : AgentRun) (orders : RunWorker.Orders) {I : Tables → Prop} :
    (RunWorker.loadContext run orders).Ensures I (fun _ => True) fun context v =>
      ∃ p ∈ v.conversationParticipants, p.participantId = context.assistantParticipantId ∧ p.kind = .agent := by
  unfold RunWorker.loadContext
  refine (Relation.ensures_selectFirstOrThrow (Q := fun _ _ => True) fun _ _ _ _ _ => trivial).bind
    fun currentMessage => ?_
  refine (Relation.ensures_selectFirstOrThrow (Q := fun _ _ => True) fun _ _ _ _ _ => trivial).bind
    fun conversation => ?_
  refine (Relation.ensures_selectFrom (Q := fun _ _ => True) fun _ _ => trivial).bind fun history => ?_
  refine (Relation.ensures_selectFrom (Q := fun rows v => ∀ p ∈ rows, p ∈ v.conversationParticipants)
    fun _ _ p hp => (List.mem_filter.mp hp).1).bind fun participants => ?_
  let Found (v : Tables) : Prop := ∀ p ∈ participants, p ∈ v.conversationParticipants
  refine (Relation.ensures_selectFirstOrThrow (Q := fun _ => Found) fun _ hv _ _ _ => hv).bind fun principal => ?_
  refine (Relation.ensures_selectFrom (Q := fun _ => Found) fun _ hv => hv).bind fun inputs => ?_
  dsimp only
  split
  · rename_i userParticipantId assistantParticipantId _ hagent
    obtain ⟨p, hp, hid⟩ := Option.bind_eq_some_iff.mp hagent
    have hkind : p.kind = .agent := by simpa using List.find?_some hp
    have hmem : p ∈ participants :=
      (orders.participants.perm participants).mem_iff.mp (List.mem_of_find?_eq_some hp)
    have hid : p.participantId = assistantParticipantId := by
      rw [present, Option.ite_none_left_eq_some] at hid
      exact Option.some.inj hid.2
    refine Program.Ensures.bind (Q := fun _ => Found) ?_ fun resolvedInputs => ?_
    · cases (orders.inputs.sorted RunWorker.createdFirst inputs).mapM RunWorker.resolvedInput with
      | error e => exact Program.ensures_throw
      | ok resolved => exact Program.ensures_pure fun _ hv => hv
    · split
      · exact Program.ensures_pure fun v hv => ⟨p, hv p hmem, hid, hkind⟩
      · exact Program.ensures_throw
  · exact Program.ensures_throw

end ChatCore.Services

namespace ChatCore.Runs

open Protocol Relational Database Services

def Phase.context? : Phase → Option RunWorker.RunContext
  | .pulling context | .received context _ | .materializing context _ | .appending context _ => some context
  | _ => none

namespace Execution

variable {platform : Platform} {e : Execution} {context : RunWorker.RunContext}

lemma context_react {signal : Signal} (h : (e.react signal).phase.context? = some context) :
    e.phase.context? = some context := by
  obtain ⟨phase, hr, he⟩ := e.reaction signal
  rw [he] at h
  change phase.context? = some context at h
  cases hr with
  | same => exact h
  | received hp =>
    rw [hp]
    exact h
  | faults =>
    split at h <;> cases h
  | _ => cases h

lemma context_raise (h : e.raise.phase.context? = some context) : e.phase.context? = some context := by
  rw [raise_eq] at h
  change Phase.context? (if _ then _ else _) = _ at h
  split at h <;> cases h

lemma context_examine {loaded : RunWorker.RunContext} {value : ConnectorValue} {requested : Bool}
    (h : (e.examine platform loaded value requested).phase.context? = some context) : loaded = context := by
  unfold examine at h
  split at h
  · cases h
  · split at h
    · cases h
    · split at h
      · cases h
      · exact Option.some.inj h

lemma context_resume {result : Except ServerError Outcome}
    (h : (e.resume platform result).phase.context? = some context) :
    e.phase.context? = some context ∨ e.phase = .loading ∧ result = .ok (.context context) := by
  cases result with
  | error error => exact Or.inl (context_raise h)
  | ok outcome =>
    unfold resume at h
    dsimp only at h
    split at h
    · rename_i hp
      cases h
      exact Or.inr ⟨hp, rfl⟩
    · rename_i hp
      rw [hp, context_examine h]
      exact Or.inl rfl
    · rename_i hp
      rw [hp]
      exact Or.inl h
    · rename_i event _ hp
      rw [hp]
      refine Or.inl ?_
      change (afterAppend _ event.body).context? = _ at h
      unfold afterAppend at h
      split at h
      · cases h
      · cases h
      · cases h
      · exact h
    · cases h
    · cases h
    · cases h
    · cases h
    · exact Or.inl h

end Execution

namespace State

structure Attributed (s : State) : Prop where
  roster : Roster nowhere s.db
  issued : ∀ p ∈ s.db.conversationParticipants, p.participantId ∈ s.issued
  agents : ∀ e ∈ s.executions, ∀ context, e.phase.context? = some context →
    context.assistantParticipantId ∈ s.issued ∧ IsAgent context.assistantParticipantId s.db

def Recalls (s s' : State) (e : Execution) : Prop := ∀ context, e.phase.context? = some context →
  (∃ e₀ ∈ s.executions, e₀.phase.context? = some context) ∨
    ∃ p ∈ s'.db.conversationParticipants, p.participantId = context.assistantParticipantId ∧ p.kind = .agent

lemma Attributed.onward {s s' : State} {ids : List Id} (h : s.Attributed) (hr : Roster nowhere s'.db)
    (hi : ∀ id ∈ s.issued, id ∈ s'.issued) (he : Enlists ids s.db s'.db)
    (hd : ∀ id ∈ ids, id ∈ s'.issued ∧ id ∉ s.issued)
    (hx : ∀ e ∈ s'.executions, s.Recalls s' e) : s'.Attributed := by
  have hissued : ∀ p ∈ s'.db.conversationParticipants, p.participantId ∈ s'.issued := by
    intro p hp
    rcases he p hp with hp | hp
    · exact hi _ (h.issued p hp)
    · exact (hd _ hp).1
  refine ⟨hr, hissued, fun e hmem context hc => ?_⟩
  rcases hx e hmem context hc with ⟨e₀, he₀, hc₀⟩ | ⟨p, hp, hid, hkind⟩
  · obtain ⟨hdrawn, hagent⟩ := h.agents e₀ he₀ context hc₀
    refine ⟨hi _ hdrawn, fun p hp hid => ?_⟩
    rcases he p hp with hp | hp
    · exact hagent p hp hid
    · exact absurd (hid ▸ hdrawn) (hd _ hp).2
  · refine ⟨hid ▸ hissued p hp, fun q hq hid' => ?_⟩
    rw [Table.key_injective hq hp (hid'.trans hid.symm)]
    exact hkind

lemma recalls_put {s s' : State} {i : ℕ} {e e' : Execution} (he : s.executions[i]? = some e)
    (hs : s'.executions = s.executions.set i e') (h : ∀ context, e'.phase.context? = some context →
      e.phase.context? = some context ∨
        ∃ p ∈ s'.db.conversationParticipants, p.participantId = context.assistantParticipantId ∧ p.kind = .agent) :
    ∀ x ∈ s'.executions, s.Recalls s' x := by
  intro x hx context hc
  rw [hs] at hx
  rcases List.mem_or_eq_of_mem_set hx with hx | rfl
  · exact Or.inl ⟨x, hx, hc⟩
  · rcases h context hc with hc | hagent
    · exact Or.inl ⟨e, List.mem_of_getElem? he, hc⟩
    · exact Or.inr hagent

lemma recalls_same {s s' : State} (hs : s'.executions = s.executions) : ∀ x ∈ s'.executions, s.Recalls s' x :=
  fun x hx _ hc => Or.inl ⟨x, hs ▸ hx, hc⟩

section Step

variable {server : Deployment} {s : State} (h : s.Attributed)

include h

lemma Attributed.visit {process : ℕ} {call : Call} {ids : List Id} (hd : drawnIds call = some ids)
    (hf : s.Fresh ids) :
    (s.visit server process call ids).Attributed := by
  have hfit : Fit s.db call := by
    cases call
    case materialize => cases hd
    all_goals trivial
  have henlisted : ∀ id ∈ enlisted call, id ∈ ids := by
    cases call
    case createConversation scope agentRef key ids' time =>
      cases hd
      exact fun id hid => List.mem_cons_of_mem _ hid
    all_goals exact fun id hid => absurd hid List.not_mem_nil
  refine h.onward (roster_body server hfit h.roster) (fun id hid => List.mem_append_right _ hid)
    (enlists_body server call s.db) (fun id hid => ?_) (recalls_same rfl)
  exact ⟨List.mem_append_left _ (henlisted id hid), hf.2 id (henlisted id hid)⟩

lemma Attributed.goesOn {call : Call} {s' : State} {i : ℕ} {e e' : Execution} (he : s.executions[i]? = some e)
    (hf : Fit s.db call) (hn : enlisted call = []) (hdb : s'.db = ((body server call).run s.db).2)
    (hi : s'.issued = s.issued) (hs : s'.executions = s.executions.set i e')
    (hc : ∀ context, e'.phase.context? = some context → e.phase.context? = some context ∨
      ∃ p ∈ s'.db.conversationParticipants, p.participantId = context.assistantParticipantId ∧ p.kind = .agent) :
    s'.Attributed := by
  refine h.onward (hdb ▸ roster_body server hf h.roster) (fun id hid => hi ▸ hid)
    (hdb ▸ hn ▸ enlists_body server call s.db) (fun id hid => absurd hid List.not_mem_nil) (recalls_put he hs hc)

lemma Attributed.moves {s' : State} {i : ℕ} {e e' : Execution} (he : s.executions[i]? = some e)
    (hdb : s'.db = s.db)
    (hi : s'.issued = s.issued) (hs : s'.executions = s.executions.set i e')
    (hc : ∀ context, e'.phase.context? = some context → e.phase.context? = some context) : s'.Attributed :=
  h.onward (hdb ▸ h.roster) (fun _ hid => hi ▸ hid) (enlists_of_same (congrArg _ hdb))
    (fun _ hid => absurd hid List.not_mem_nil) (recalls_put he hs fun context hx => Or.inl (hc context hx))

lemma Attributed.claim {process : ℕ} {options : RunWorker.Options} {order : Arrangement AgentRun} {now : Timestamp}
    {resolved : Bool} : (s.step server (.claim process options order now resolved)).Attributed := by
  have hfit : Fit s.db (.claim options order now) := trivial
  have hroster := roster_body server hfit h.roster
  have henlists := enlists_body server (.claim options order now) s.db
  unfold State.step
  dsimp only
  split
  · rename_i run db hrun
    rw [hrun] at hroster henlists
    refine h.onward hroster (fun id hid => hid) henlists (fun id hid => absurd hid List.not_mem_nil)
      fun e he context hc => ?_
    rcases List.mem_append.mp he with he | he
    · exact Or.inl ⟨e, he, hc⟩
    · rw [List.mem_singleton.mp he] at hc
      cases resolved <;> cases hc
  · exact h

lemma Attributed.work (hsound : s.Sound) {i : ℕ} {draw : Draw} {e : Execution} {call : Call}
    (he : s.executions[i]? = some e) (hcall : e.call draw = some call) : (s.work server i e call).Attributed := by
  have hmem := List.mem_of_getElem? he
  have hfit : Fit s.db call ∧ enlisted call = [] := by
    unfold Execution.call at hcall
    cases hp : e.phase with
    | materializing context event =>
      rw [hp] at hcall
      cases hcall
      have hagent := (h.agents e hmem context (by rw [hp]; rfl)).2
      have hproper := hsound.proper e hmem
      rw [Execution.Proper, hp] at hproper
      exact ⟨⟨fun _ => hagent, hproper.2.parts⟩, rfl⟩
    | writing write place =>
      rw [hp] at hcall
      cases hcall
      cases write <;> exact ⟨trivial, rfl⟩
    | _ =>
      rw [hp] at hcall
      cases hcall <;> exact ⟨trivial, rfl⟩
  refine h.goesOn he hfit.1 hfit.2 rfl rfl rfl fun context hc => ?_
  rcases Execution.context_resume hc with hc | ⟨hp, hr⟩
  · exact Or.inl hc
  · have hload : call = .loadContext e.run draw.orders := by
      rw [Execution.call, hp] at hcall
      exact (Option.some.inj hcall).symm
    subst hload
    rw [body, Program.run_map] at hr
    have hrun : ((RunWorker.loadContext e.run draw.orders).run s.db).1 = .ok context := by
      cases hl : ((RunWorker.loadContext e.run draw.orders).run s.db).1 with
      | error error =>
        rw [hl] at hr
        cases hr
      | ok loaded =>
        rw [hl] at hr
        cases hr
        rfl
    refine Or.inr ?_
    change ∃ p ∈ ((body server _).run s.db).2.conversationParticipants, _
    rw [body, Program.run_map]
    exact (ensures_loadContext (I := fun _ => True) e.run draw.orders).run_ok trivial trivial hrun

theorem Attributed.step (hsound : s.Sound) (a : Action) : (s.step server a).Attributed := by
  cases a with
  | visit process call =>
    simp only [State.step]
    cases hd : drawnIds call with
    | none => exact h
    | some ids =>
      dsimp only
      split
      · exact h.visit hd ‹_›
      · exact h
  | sweep policy orders now =>
    exact h.onward (roster_sweep server policy orders now h.roster) (fun id hid => hid)
      (enlists_sweep server policy orders now s.db) (fun id hid => absurd hid List.not_mem_nil) (recalls_same rfl)
  | request process runId =>
    simp only [State.step]
    split
    · split
      · rename_i i e hie
        obtain ⟨j, -, hj⟩ := Option.bind_eq_some_iff.mp hie
        obtain ⟨e', he', heq⟩ := Option.map_eq_some_iff.mp hj
        cases heq
        exact h.moves he' rfl rfl rfl fun _ hc => hc
      · exact h.onward h.roster (fun id hid => hid) (enlists_refl s.db) (fun id hid => absurd hid List.not_mem_nil)
          (recalls_same rfl)
    · exact h
  | claim process options order now resolved => exact h.claim
  | work i draw =>
    simp only [State.step]
    cases he : s.executions[i]? with
    | none => exact h
    | some e =>
      dsimp only
      cases hcall : e.call draw with
      | none => exact h
      | some call => exact h.work hsound he hcall
  | signal i signal =>
    simp only [State.step]
    cases he : s.executions[i]? with
    | none => exact h
    | some e => exact h.moves he rfl rfl rfl fun _ => Execution.context_react
  | renew i dateNow =>
    simp only [State.step]
    cases he : s.executions[i]? with
    | none => exact h
    | some e =>
      dsimp only
      split
      · unfold State.renew
        dsimp only
        split
        · have hfit : Fit s.db (.renewLease e.options e.run dateNow) := trivial
          refine h.onward (roster_body server hfit h.roster)
            (fun id hid => hid) (enlists_body server (.renewLease e.options e.run dateNow) s.db)
            (fun id hid => absurd hid List.not_mem_nil) (recalls_same rfl)
        · have hfit : Fit s.db (.renewLease e.options e.run dateNow) := trivial
          exact h.goesOn he hfit rfl rfl rfl rfl fun _ => Or.inl
      · exact h
  | loseHeartbeat i =>
    simp only [State.step]
    cases he : s.executions[i]? with
    | none => exact h
    | some e =>
      dsimp only
      split
      · exact h.moves he rfl rfl rfl fun _ hc => hc
      · exact h

end Step

lemma attributed_initial (principals : Table Principal.principalId)
    (browserSessions : Table BrowserSession.sessionId)
    (bootstraps : Table SessionBootstrapIdempotency.key) :
    (initial (unused principals browserSessions bootstraps)).Attributed := by
  refine ⟨⟨?_, ?_, ?_, ?_⟩, ?_, ?_⟩
  · exact fun c hc => absurd hc (Table.notMem_empty c)
  · exact fun p hp => absurd hp (Table.notMem_empty p)
  · exact fun m hm => absurd hm (Table.notMem_empty m)
  · exact fun m hm => absurd hm (Table.notMem_empty m)
  · exact fun p hp => absurd hp (Table.notMem_empty p)
  · exact fun e he => absurd he List.not_mem_nil

end State

lemma Reachable.attributed {server : Deployment} {s : State} (h : Reachable server s) : s.Attributed := by
  obtain ⟨principals, browserSessions, bootstraps, actions, rfl⟩ := h
  have hinit : (State.initial (unused principals browserSessions bootstraps)).Sound ∧
      (State.initial (unused principals browserSessions bootstraps)).Attributed :=
    ⟨State.sound_initial principals browserSessions bootstraps, State.attributed_initial _ _ _⟩
  exact (Transition.along_true.invariant (fun s : State => s.Sound ∧ s.Attributed) hinit
    fun s a h _ => ⟨h.1.step a, h.2.step h.1 a⟩).2

section Shown

open ConversationService

variable {db : Tables} {scope : Scope} {c : Conversation} {resource : ConversationResource}

lemma find?_of_unique {α : Type} {rows : List α} {q : α → Bool} {a : α} (ha : a ∈ rows) (hq : q a = true)
    (hu : ∀ b ∈ rows, q b = true → b = a) : rows.find? q = some a := by
  cases hf : rows.find? q with
  | none => exact absurd hq (List.find?_eq_none.mp hf a ha)
  | some b => rw [hu b (List.mem_of_find?_eq_some hf) (List.find?_some hf)]

lemma mem_shown (h : Shows db c resource) {r : ParticipantResource} : r ∈ resource.participants ↔
    ∃ p ∈ db.conversationParticipants, seat p = (c.tenantId, c.siteId, c.conversationId) ∧
      participantResource p = r := by
  rw [h.participants, List.mem_map]
  refine exists_congr fun p => ?_
  rw [List.mem_mergeSort, Relation.matching, List.mem_filter, and_assoc]
  refine and_congr_right fun _ => and_congr_left fun _ => ?_
  simp [seat, and_assoc]

@[simp] lemma participantResource_participantId (p : ConversationParticipant) :
    (participantResource p).participantId = p.participantId := by
  rw [participantResource]
  split <;> rfl

@[simp] lemma participantResource_kind (p : ConversationParticipant) : (participantResource p).kind = p.kind := by
  rw [participantResource]
  split <;> rename_i h <;> exact h.symm

lemma find?_kind (hr : Roster nowhere db) (h : Shows db c resource) {p : ConversationParticipant}
    (hp : p ∈ db.conversationParticipants) (hs : seat p = (c.tenantId, c.siteId, c.conversationId)) :
    resource.participants.find? (fun participant => decide (participant.kind = p.kind)) =
      some (participantResource p) := by
  refine find?_of_unique ((mem_shown h).mpr ⟨p, hp, hs, rfl⟩) (by simp) fun r hmem hk => ?_
  obtain ⟨q, hq, hs', rfl⟩ := (mem_shown h).mp hmem
  simp only [participantResource_kind, decide_eq_true_eq] at hk
  simp only [seat, Prod.mk.injEq] at hs hs'
  rw [hr.kinds q hq p hp (hs'.2.2.trans hs.2.2.symm) hk]

lemma shows_valid (hr : Roster nowhere db) (hc : c ∈ db.conversations) (h : Shows db c resource) :
    validateConversationParticipantContext resource = true := by
  obtain ⟨⟨u, hu, hus, huk, huw⟩, a, ha, has, hak, haw⟩ := hr.staffed c hc rfl
  have huser := find?_kind hr h hu hus
  have hagent := find?_kind hr h ha has
  rw [huk] at huser
  rw [hak] at hagent
  rw [validateConversationParticipantContext, huser, hagent]
  simp only [Bool.and_eq_true, decide_eq_true_eq, Option.bind_some]
  refine ⟨⟨?_, ?_⟩, ?_⟩
  · rw [h.participants, List.map_map]
    have hid : (fun participant : ParticipantResource => participant.participantId) ∘ participantResource =
        ConversationParticipant.participantId := funext participantResource_participantId
    rw [hid]
    exact ((List.mergeSort_perm _ _).map _).nodup_iff.mpr (matching_nodup conversationParticipants _)
  · rw [participantResource, huk, h.principalId]
    exact huw
  · rw [participantResource, hak, h.agentRef]
    exact haw

lemma shows_author (hr : Roster nowhere db) (h : Shows db c resource) {m : Message} (hm : m ∈ db.messages)
    (hh : (m.tenantId, m.siteId, m.conversationId) = (c.tenantId, c.siteId, c.conversationId)) :
    validateMessageAttribution (mapMessage m) resource = true := by
  obtain ⟨p, hp, hauthor⟩ := hr.authored m hm
  have hfind : resource.participants.find? (fun candidate => decide (candidate.participantId =
      (mapMessage m).participantId)) = some (participantResource p) := by
    refine find?_of_unique ((mem_shown h).mpr ⟨p, hp, hauthor.home.symm.trans hh, rfl⟩) ?_ fun r hmem hk => ?_
    · simpa [mapMessage] using hauthor.participant
    · obtain ⟨q, hq, -, rfl⟩ := (mem_shown h).mp hmem
      simp only [participantResource_participantId, decide_eq_true_eq] at hk
      rw [Table.key_injective hq hp (hk.trans hauthor.participant.symm)]
  rw [validateMessageAttribution, hfind]
  simpa [mapMessage] using hauthor.role

lemma ensures_listMessages (encoding : Encoding) (conversationId : Id) (request : ListRequest) :
    (MessageService.list encoding scope conversationId request).Ensures (fun _ => True)
      (fun v => v = db) fun page _ =>
      (∃ c ∈ db.conversations, inConversation scope conversationId c = true) ∧ ∀ m ∈ page.data,
      ∃ row ∈ db.messages,
        MessageService.ofConversation scope conversationId row = true ∧ mapMessage row = m := by
  unfold MessageService.list requireConversation
  refine Program.Ensures.bind
    (Q := fun _ v => v = db ∧ ∃ c ∈ db.conversations, inConversation scope conversationId c = true)
    ?_ fun _ => ?_
  · refine (Relation.ensures_selectFirst (Q := fun found v => v = db ∧ ∀ c, found = some c → c ∈ db.conversations ∧
      inConversation scope conversationId c = true) fun v hv => ?_).bind fun found => ?_
    · subst hv
      exact ⟨rfl, fun c hc => List.mem_filter.mp (List.mem_of_head? hc)⟩
    · cases found with
      | none => exact Program.ensures_throw
      | some c => exact Program.ensures_pure fun v hv => ⟨hv.1, c, hv.2 c rfl⟩
  · split
    · exact Program.ensures_throw
    · refine (Relation.ensures_selectFrom (Q := fun rows v => (v = db ∧ ∃ c ∈ db.conversations,
        inConversation scope conversationId c = true) ∧ ∀ row ∈ rows, row ∈ db.messages ∧
          MessageService.ofConversation scope conversationId row = true) fun v hv => ?_).bind fun rows => ?_
      · refine ⟨hv, fun row hrow => ?_⟩
        obtain ⟨hmem, hq⟩ := List.mem_filter.mp hrow
        rw [Bool.and_eq_true] at hq
        exact ⟨hv.1 ▸ hmem, hq.1⟩
      · refine Program.ensures_pure fun v hv => ⟨hv.1.2, fun m hm => ?_⟩
        obtain ⟨row, hrow, rfl⟩ := List.mem_map.mp hm
        have hrow := List.mem_mergeSort.mp (List.mem_of_mem_take (List.mem_of_mem_take hrow))
        exact ⟨row, (hv.2 row hrow).1, (hv.2 row hrow).2, rfl⟩

end Shown

theorem listed_messages_valid (server : Deployment) (s : State) (h : Reachable server s) (encoding : Encoding)
    (scope : Scope) (conversationId : Id) (request : ListRequest) (page : Page MessageResource)
    (hp : ((MessageService.list encoding scope conversationId request).run s.db).1 = .ok page) :
    ∃ conversation, ((ConversationService.get scope conversationId).run s.db).1 = .ok conversation ∧
      validateConversationParticipantContext conversation = true ∧ ∀ m ∈ page.data,
        wellFormed m.status m.parts m.completedAt = true ∧ validateMessageAttribution m conversation = true := by
  have hr := h.attributed.roster
  obtain ⟨⟨c, hc, hin⟩, hrows⟩ :=
    (ensures_listMessages encoding conversationId request).run_ok trivial rfl hp
  simp only [inConversation, Bool.and_eq_true, decide_eq_true_eq] at hin
  obtain ⟨⟨⟨htenant, hsite⟩, hprincipal⟩, rfl⟩ := hin
  have hscope : ConversationService.ofScope scope c = true := by
    simp only [ConversationService.ofScope, Bool.and_eq_true, decide_eq_true_eq]
    exact ⟨⟨htenant, hsite⟩, hprincipal⟩
  obtain ⟨resource, hshows, hget⟩ := ConversationService.exec_get (x := s.db) hc hscope
  refine ⟨resource, congrArg Prod.fst (Program.run_of_exec hget), shows_valid hr hc hshows, fun m hm => ?_⟩
  obtain ⟨row, hrow, hof, rfl⟩ := hrows m hm
  simp only [MessageService.ofConversation, Bool.and_eq_true, decide_eq_true_eq] at hof
  obtain ⟨⟨htenant', hsite'⟩, hconversation⟩ := hof
  refine ⟨?_, shows_author hr hshows hrow ?_⟩
  · have hw := hr.wellFormed row hrow
    simpa [wellFormed, mapMessage] using hw
  · rw [htenant', hsite', hconversation, htenant, hsite]

section Scenario

def plain : Encoding := ⟨id, id, fun _ => "", fun _ => none, fun _ => "", fun _ => none⟩

theorem sent_message_valid :
    ∃ conversation page, ((MessageService.list plain visitor "conversation" ⟨none, 50⟩).run
      (reached sent).db).1 = .ok page ∧ page.data.map MessageResource.messageId = ["message"] ∧
    ((ConversationService.get visitor "conversation").run (reached sent).db).1 = .ok conversation ∧
    validateConversationParticipantContext conversation = true ∧ ∀ m ∈ page.data,
      wellFormed m.status m.parts m.completedAt = true ∧ validateMessageAttribution m conversation = true := by
  have hids : ((MessageService.list plain visitor "conversation" ⟨none, 50⟩).run (reached sent).db).1.toOption.map
      (fun page => page.data.map MessageResource.messageId) = some ["message"] := by decide +kernel
  cases hp : ((MessageService.list plain visitor "conversation" ⟨none, 50⟩).run (reached sent).db).1 with
  | error e =>
    rw [hp] at hids
    cases hids
  | ok page =>
    rw [hp] at hids
    obtain ⟨conversation, hget, hvalid⟩ :=
      listed_messages_valid lone (reached sent) ⟨visitors, ∅, ∅, sent, rfl⟩ plain
      visitor "conversation" ⟨none, 50⟩ page hp
    exact ⟨conversation, page, rfl, Option.some.inj hids, hget, hvalid⟩

end Scenario

end ChatCore.Runs
