import ChatCore.Runs.Invariant

/-! The life of one run: its rows, its executions and its events, and what a step can make of them. -/

namespace ChatCore.Runs

open Protocol Relational Database Services

structure Rows where
  run : Option AgentRun
  message : Option Message
  handoffs : List Handoff
  inputs : List StructuredInputRequest
  events : List ConversationEvent

structure Life extends Rows where
  executions : ℕ → Option Execution
  appended : List EventStore.PersistedEvent

def rows (runId : Id) (db : Tables) : Rows where
  run := db.agentRuns.find? runId
  message := (db.agentRuns.find? runId).bind fun r => db.messages.find? r.assistantMessageId
  handoffs := db.handoffs.rows.filter fun h => decide (h.runId = runId)
  inputs := db.structuredInputRequests.rows.filter fun i => decide (i.runId = runId)
  events := db.conversationEvents.rows.filter fun e => decide (e.runId = runId)

def State.life (s : State) (runId : Id) : Life where
  toRows := rows runId s.db
  executions := fun i => s.executions[i]?.filter fun e => decide (e.run.runId = runId)
  appended := s.appended.filter fun p => decide (p.event.runId = runId)

def State.Selects (s : State) (runId : Id) : Action → Prop
  | .visit _ (.cancelRun scope conversationId key order _ _) =>
      ∃ r, selectedRun scope conversationId key order s.db = some r ∧ r.runId = runId
  | _ => False

def State.Claims (s : State) (runId : Id) : Action → Prop
  | .claim _ options order now _ =>
      ∃ r, ((RunWorker.claim options order now).run s.db).1 = .ok (some r) ∧ r.runId = runId
  | _ => False

def amend {ρ : Type} (p : ρ → Bool) (f : ρ → ρ) (rows : List ρ) : List ρ :=
  rows.map fun r => if p r then f r else r

lemma mem_amend {ρ κ : Type} (key : ρ → κ) (f : ρ → ρ) (hf : ∀ r, key (f r) = key r) {p : ρ → Bool} {rows : List ρ}
    {r : ρ} (h : r ∈ rows) : ∃ r' ∈ amend p f rows, key r' = key r := by
  refine ⟨_, List.mem_map_of_mem h, ?_⟩
  split
  · exact hf r
  · rfl

lemma of_mem_amend {ρ : Type} {p : ρ → Bool} {f : ρ → ρ} {rows : List ρ} {r' : ρ} (h : r' ∈ amend p f rows) :
    ∃ r ∈ rows, r' = f r ∨ r' = r := by
  obtain ⟨r, hr, rfl⟩ := List.mem_map.mp h
  refine ⟨r, hr, ?_⟩
  split
  · exact Or.inl rfl
  · exact Or.inr rfl

namespace Life

def put (l : Life) (i : ℕ) (e : Execution) : Life :=
  { l with executions := fun j => if j = i then some e else l.executions j }

inductive Materialized (run : AgentRun) (now : Timestamp) (participantId : Id) : EventBody → Life → Life → Prop
  | resumed {l : Life} (m : Message) (hm : l.message = some m) :
      Materialized run now participantId .messageStarted l l
  | started {l : Life} (sequence : ℕ) (hm : l.message = none) : Materialized run now participantId
      .messageStarted l
      { l with message := some (RunWorker.newAssistant run now participantId sequence) }
  | completed {l : Life} (parts : List ContentPart) (m : Message) (hm : l.message = some m) :
      Materialized run now participantId (.messageCompleted parts) l
        { l with message := some (RunWorker.finishMessage now parts m) }
  | requestedAgain {l : Life} (h : Handoff) (hh : h ∈ l.handoffs) :
      Materialized run now participantId (.handoffRequested h.handoffId) l l
  | requested {l : Life} (handoffId : Id) (hh : l.handoffs = []) :
      Materialized run now participantId (.handoffRequested handoffId) l
        { l with handoffs := [RunWorker.newHandoff run now handoffId] }
  | askedAgain {l : Life} (i : StructuredInputRequest) (prompt : String) (required : Bool) (h : Handoff)
      (hi : i ∈ l.inputs) (hh : h ∈ l.handoffs) :
      Materialized run now participantId (.contactRequested i.requestId prompt required) l { l with
        handoffs := amend (fun s => decide (s.handoffId = h.handoffId)) (RunWorker.awaitContact now) l.handoffs }
  | asked {l : Life} (requestId : Id) (prompt : String) (required : Bool) (h : Handoff) (hh : h ∈ l.handoffs) :
      Materialized run now participantId (.contactRequested requestId prompt required) l { l with
        inputs := l.inputs ++ [RunWorker.newInput run now requestId prompt required]
        handoffs := amend (fun s => decide (s.handoffId = h.handoffId)) (RunWorker.awaitContact now) l.handoffs }
  | finished {l : Life} (h : Handoff) (hh : h ∈ l.handoffs) :
      Materialized run now participantId (.handoffCompleted h.handoffId) l { l with
        handoffs := amend (fun s => decide (s.handoffId = h.handoffId)) (RunWorker.finishHandoff now) l.handoffs }
  | orphan {l : Life} (body : EventBody) (hr : l.run = none) : Materialized run now participantId body l l
  | nothing {l : Life} (body : EventBody) (hb : body ≠ .messageStarted)
      (hb' : ∀ parts, body ≠ .messageCompleted parts)
      (hh : ∀ id, body ≠ .handoffRequested id ∧ body ≠ .handoffCompleted id)
      (hi : ∀ id prompt required, body ≠ .contactRequested id prompt required) :
      Materialized run now participantId body l l

def effect (now : Timestamp) (l : Life) : StatusWrite → Life
  | .complete => { l with run := l.run.map (RunWorker.markCompleted now) }
  | .fail code => { l with
      run := l.run.map (RunWorker.markFailed code now)
      handoffs := amend (fun h => !(decide (h.status = .completed) || decide (h.status = .failed)))
        (RunWorker.failHandoff now) l.handoffs }
  | .cancel => { l with
      run := l.run.map (RunWorker.markCancelled now)
      message := l.message.map fun m =>
        if decide (m.status = .pending) || decide (m.status = .streaming) then
          RunWorker.cancelMessage now m else m }
  | .waitForInput => { l with
      run := l.run.map fun r => if decide (r.status = .running) then RunWorker.markWaiting now r else r }

/-- What one step of the system from `s` can make of the life of a run. -/
inductive Step (s : State) (runId : Id) : Action → Life → Life → Prop
  | idle {a : Action} {l : Life} : Step s runId a l l
  | created {process : ℕ} {call : Call} {l : Life} (r : AgentRun) (handoffs : List Handoff)
      (inputs : List StructuredInputRequest) (hr : l.run = none) (he : ∀ i, l.executions i = none)
      (ha : l.appended = []) (hn : runId ∉ s.issued) (hs : r.status = .queued) (h0 : r.attempt = 0)
      (hl : r.leaseExpiresAt = none) (hi : ∀ i ∈ inputs, i.status ≠ .pending) (hu : handoffs.length ≤ 1) :
      Step s runId (.visit process call) l { l with toRows := ⟨some r, none, handoffs, inputs, []⟩ }
  | cancelled {process : ℕ} {call : Call} {l : Life} (r : AgentRun) (now : Timestamp) (hr : l.run = some r)
      (hs : s.Selects runId (.visit process call)) :
      Step s runId (.visit process call) l { l with run := some (Idempotency.decided now r) }
  | resumed {process : ℕ} {call : Call} {l : Life} (r : AgentRun) (i : StructuredInputRequest)
      (request : StructuredInputService.SubmitStructuredInputRequest) (now : Timestamp) (hr : l.run = some r)
      (hw : r.status = .waitingForInput) (hi : i ∈ l.inputs) (hp : i.status = .pending) (handoffs : List Handoff)
      (hh : handoffs = l.handoffs ∨ handoffs = l.handoffs.map (StructuredInputService.deliver now)) :
      Step s runId (.visit process call) l { l with
        run := some (StructuredInputService.requeue now r)
        inputs := amend (fun j => decide (j.requestId = i.requestId))
          (StructuredInputService.resolve request now) l.inputs
        handoffs := handoffs }
  | redacted {policy : RetentionService.RetentionPolicy} {orders : RetentionService.Orders}
      {now : Timestamp} {l : Life}
      (q : StructuredInputRequest → Bool) (hq : ∀ i, q i = true → i.value.isSome = true) :
      Step s runId (.sweep policy orders now) l { l with inputs := amend q RetentionService.redact l.inputs }
  | forgotten {policy : RetentionService.RetentionPolicy} {orders : RetentionService.Orders}
      {now : Timestamp} {l : Life} :
      Step s runId (.sweep policy orders now) l ⟨⟨none, none, [], [], []⟩, l.executions, l.appended⟩
  | claimed {process : ℕ} {options : RunWorker.Options} {order : Arrangement AgentRun} {now : Timestamp}
      {resolved : Bool}
      {l : Life} (r : AgentRun) (i : ℕ) (e : Execution) (hr : l.run = some r)
      (hs : s.Claims runId (.claim process options order now resolved))
        (hc : RunWorker.claimable options now r = true)
      (hi : l.executions i = none) (he : e.run = RunWorker.startAttempt options now r) (ha : e.aborted = false)
      (hp : e.phase = .loading ∨ e.phase = .writing (.fail "CONNECTOR_NOT_FOUND") .unresolved) :
      Step s runId (.claim process options order now resolved) l
        (Life.put { l with run := some (RunWorker.startAttempt options now r) } i e)
  | aborted {a : Action} {l : Life} (i : ℕ) (e : Execution) (hi : l.executions i = some e) :
      Step s runId a l (l.put i e.abort)
  | renewed {now : Timestamp} {l : Life} (i : ℕ) (e : Execution) (r : AgentRun) (hi : l.executions i = some e)
      (hr : l.run = some r) (hs : r.status = .running) (ha : r.attempt = e.run.attempt) :
      Step s runId (.renew i now) l { l with run := some (RunWorker.extendLease e.options now r) }
  | signalled {signal : Signal} {phase : Phase} {l : Life} (i : ℕ) (e : Execution) (hi : l.executions i = some e)
      (hr : e.Reaction signal phase) : Step s runId (.signal i signal) l (l.put i (e.goto phase))
  | failed {draw : Draw} {l : Life} (i : ℕ) (e : Execution) (hi : l.executions i = some e)
      (hc : e.phase.calls = true)
      (hx : e.phase.exposed = true → l.run = none) :
      Step s runId (.work i draw) l (l.put i (e.goto (if e.phase.exposed then .rejected else .catching)))
  | loaded {draw : Draw} {context : RunWorker.RunContext} {l : Life} (i : ℕ) (e : Execution)
      (hi : l.executions i = some e) (hp : e.phase = .loading) :
      Step s runId (.work i draw) l (l.put i (e.goto (.pulling context)))
  | answered {draw : Draw} {l : Life} (i : ℕ) (e e' : Execution) (r : AgentRun) (hi : l.executions i = some e)
      (hp : e.phase.asks = true) (hr : l.run = some r) (ha : e.Answered (RunStatus.cancelling r.status) e') :
      Step s runId (.work i draw) l (l.put i e')
  | materialized {draw : Draw} {context : RunWorker.RunContext} {event : ConnectorEvent} {l l' : Life} (i : ℕ)
      (e : Execution) (hi : l.executions i = some e) (hp : e.phase = .materializing context event)
      (hm : Materialized e.run e.now context.assistantParticipantId event.body l l') :
      Step s runId (.work i draw) l (l'.put i (e.goto (.appending context event)))
  | appended {draw : Draw} {context : RunWorker.RunContext} {event : ConnectorEvent} {l : Life} (i : ℕ)
      (e : Execution)
      (r : AgentRun) (events : List ConversationEvent) (p : EventStore.PersistedEvent)
        (hi : l.executions i = some e)
      (hp : e.phase = .appending context event) (hr : l.run = some r) (hv : EventOf event e.eventContext)
      (he : p.event = event) (hn : ∀ p' ∈ l.appended, p'.sequence < p.sequence)
      (hs : ∀ x ∈ events, x ∈ l.events ∨ x.messageId = event.messageId ∧ x.body = event.body) :
      Step s runId (.work i draw) l (Life.put { l with events := events, appended := l.appended ++ [p] } i
        (e.goto (Execution.afterAppend context event.body)))
  | pruned {draw : Draw} {l : Life} (i : ℕ) (events : List ConversationEvent) (hi : l.executions i = none)
      (hs : ∀ x ∈ events, x ∈ l.events) : Step s runId (.work i draw) l { l with events := events }
  | wrote {draw : Draw} {write : StatusWrite} {place : Place} {l : Life} (i : ℕ) (e : Execution)
      (hi : l.executions i = some e) (hp : e.phase = .writing write place)
      (hw : write = .waitForInput → ∃ r, l.run = some r ∧ r.status = .running) :
      Step s runId (.work i draw) l
        ((l.effect e.now write).put i (e.goto (if place = .loop then .leaving else .returned)))

structure Sound (l : Life) : Prop where
  identity : ∀ (i : ℕ) (e : Execution) (r : AgentRun), l.executions i = some e → l.run = some r →
    identity e.run = identity r
  attempt : ∀ (i : ℕ) (e : Execution) (r : AgentRun), l.executions i = some e → l.run = some r →
    e.run.attempt ≤ r.attempt
  apart : ∀ (i j : ℕ) (e e' : Execution), l.executions i = some e → l.executions j = some e' →
    e.run.attempt = e'.run.attempt → i = j
  proper : ∀ (i : ℕ) (e : Execution), l.executions i = some e → e.Proper
  answer : ∀ (r : AgentRun) (m : Message), l.run = some r → l.message = some m → m.messageId = r.assistantMessageId
  rootless : l.run = none → l.message = none ∧ l.handoffs = [] ∧ l.inputs = [] ∧ l.events = []

variable {l : Life} {i j : ℕ} {e : Execution}

@[simp] lemma put_executions_self : (l.put i e).executions i = some e := if_pos rfl

lemma put_executions_ne (h : j ≠ i) : (l.put i e).executions j = l.executions j := if_neg h

end Life

section Life

variable {s : State} {runId : Id} {i : ℕ} {e : Execution}

lemma life_executions : (s.life runId).executions i = some e ↔ s.executions[i]? = some e ∧
    e.run.runId = runId := by
  simp [State.life, Option.filter_eq_some_iff]

lemma run_eq_some {r : AgentRun} : (s.life runId).run = some r ↔ r ∈ s.db.agentRuns ∧ r.runId = runId :=
  Table.find?_eq_some

lemma identity_eq (h : s.Sound) {r : AgentRun} (he : s.executions[i]? = some e) (hr : r ∈ s.db.agentRuns)
    (hid : e.run.runId = r.runId) : identity e.run = identity r :=
  h.skeleton.ids _ (Or.inr (State.mem_known (List.mem_of_getElem? he))) _ (Or.inl (Table.mem_image hr)) hid

lemma State.Sound.life (h : s.Sound) (runId : Id) : (s.life runId).Sound where
  identity := by
    intro i e r he hr
    obtain ⟨he, hid⟩ := life_executions.mp he
    obtain ⟨hr, hid'⟩ := run_eq_some.mp hr
    exact identity_eq h he hr (hid.trans hid'.symm)
  attempt := by
    intro i e r he hr
    obtain ⟨he, hid⟩ := life_executions.mp he
    obtain ⟨hr, hid'⟩ := run_eq_some.mp hr
    rw [h.attempt r hr, hid', ← hid]
    exact h.executed e (List.mem_of_getElem? he)
  apart := by
    intro i j e e' he he' ha
    obtain ⟨he, hid⟩ := life_executions.mp he
    obtain ⟨he', hid'⟩ := life_executions.mp he'
    exact h.apart i j e e' he he' (hid.trans hid'.symm) ha
  proper := by
    intro i e he
    exact h.proper e (List.mem_of_getElem? (life_executions.mp he).1)
  answer := by
    intro r m hr hm
    have hfind : ((s.life runId).run.bind fun r => s.db.messages.find? r.assistantMessageId) = some m := hm
    rw [hr] at hfind
    exact (Table.find?_eq_some.mp hfind).2
  rootless := by
    intro hr
    have habsent : ∀ r ∈ s.db.agentRuns, r.runId ≠ runId := Table.find?_eq_none.mp hr
    have hown : ∀ p, (Runs.skeleton s.known s.db).Owned p → p.runId ≠ runId := by
      rintro p ⟨x, ⟨r, hr, rfl⟩, hid, -⟩ he
      exact habsent r hr (hid.trans he)
    refine ⟨?_, ?_, ?_, ?_⟩
    · change ((s.life runId).run.bind _) = none
      rw [hr]
      rfl
    · exact List.filter_eq_nil_iff.mpr fun x hx he =>
        hown _ (h.skeleton.handoffs _ (Table.mem_image hx)) (of_decide_eq_true he)
    · exact List.filter_eq_nil_iff.mpr fun x hx he =>
        hown _ (h.skeleton.inputs _ (Table.mem_image hx)) (of_decide_eq_true he)
    · exact List.filter_eq_nil_iff.mpr fun x hx he =>
        hown _ (h.skeleton.events _ (Table.mem_image hx)) (of_decide_eq_true he)

end Life

end ChatCore.Runs
