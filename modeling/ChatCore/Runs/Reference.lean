import ChatCore.Runs.Appending
import ChatCore.Runs.Fencing
import ChatCore.Services.Histories

namespace ChatCore.Runs

open Protocol Relational Database Services

/-- How the stream of a connector is over, when it has yielded all its values. -/
inductive Ending
  | ends
  | throws
  deriving DecidableEq, Repr

namespace Ending

def signal : Ending → Signal
  | .ends => .ends
  | .throws => .throws

def phase : Ending → Phase
  | .ends => .ended
  | .throws => .catching

def write : Ending → StatusWrite
  | .ends => .fail "CONNECTOR_INCOMPLETE"
  | .throws => .fail "CONNECTOR_EXECUTION_FAILED"

end Ending

def closing : EventBody → Option StatusWrite
  | .contactRequested .. => some .waitForInput
  | .runCompleted => some .complete
  | .runFailed code => some (.fail code)
  | _ => none

def StatusWrite.Leaves (r : AgentRun) : StatusWrite → Prop
  | .complete => r.status = .completed
  | .fail code => r.status = .failed ∧ r.errorCode = some code
  | .cancel => r.status = .cancelled
  | .waitForInput => r.status = .waitingForInput

section Reference

variable (platform : Platform) (run : AgentRun) (now : Timestamp) (participantId : Id) (ending : Ending)

def materializes (event : ConnectorEvent) (db : Tables) : Bool :=
  ((RunWorker.materialize run now participantId event).run db).1.isOk

def runContext : ConnectorEventContext := ⟨run.conversationId, run.runId, run.assistantMessageId⟩

/-- The events of the longest prefix of the values that are accepted, materialize and can be stored, up to the
first that ends the run, and the status that is written then. `dbs` are the databases that the accepted events
find. -/
def reference : List ConnectorValue → List Tables → Option (List ConnectorEvent × StatusWrite)
  | [], _ => some ([], ending.write)
  | value :: values, dbs => match acceptedEvent platform value (runContext run) with
    | none => some ([], .fail "INVALID_CONNECTOR_EVENT")
    | some event => match dbs with
      | [] => none
      | db :: dbs =>
        if materializes run now participantId event db && event.isStorable then match closing event.body with
          | some write => some ([event], write)
          | none => (reference values dbs).map (Prod.map (event :: ·) id)
        else some ([], .fail "CONNECTOR_EXECUTION_FAILED")

end Reference

/-- One execution of a run among everything else: what its connector has still to yield, the context that was
loaded, the databases that its events found, and the row of the run after each of its status writes. -/
structure Attempt where
  state : State
  left : List ConnectorValue
  context : Option RunWorker.RunContext
  seen : List Tables
  written : List (Option AgentRun)

inductive Turn
  | own (draw : Draw)
  | other (action : Action)

def Turn.isOwn : Turn → Bool
  | .own _ => true
  | .other _ => false

def State.eventsOf (s : State) (runId : Id) : List ConnectorEvent :=
  (s.appended.filter fun p => decide (p.event.runId = runId)).map EventStore.PersistedEvent.event

namespace Attempt

variable (server : Deployment) (i : ℕ) (ending : Ending) (a : Attempt)

def act (action : Action) : Attempt := { a with state := a.state.step server action }

def advance (draw : Draw) : Attempt := match a.state.executions[i]? with
  | none => a
  | some e => match e.phase with
    | .loading => { a.act server (.work i draw) with
        context := ((RunWorker.loadContext e.run draw.orders).run a.state.db).1.toOption }
    | .pulling _ => match a.left with
      | [] => a.act server (.signal i ending.signal)
      | value :: left => { a.act server (.signal i (.yields value)) with left := left }
    | .materializing .. => { a.act server (.work i draw) with seen := a.seen ++ [a.state.db] }
    | .writing .. => { a.act server (.work i draw) with
        written := a.written ++ [(a.state.step server (.work i draw)).db.agentRuns.find? e.run.runId] }
    | .stopping | .leaving | .catching => a.act server (.signal i .settles)
    | _ => a.act server (.work i draw)

def step : Turn → Attempt
  | .own draw => a.advance server i ending draw
  | .other action => a.act server action

/-- The run that the claim of a worker takes is executed for a connector that yields `values`. -/
def begin (s : State) (process : ℕ) (options : RunWorker.Options) (order : Arrangement AgentRun) (now : Timestamp)
    (values : List ConnectorValue) : Attempt :=
  ⟨s.step server (.claim process options order now true), values, none, [], []⟩

end Attempt

def State.Spares (server : Deployment) (i : ℕ) (runId : Id) (s : State) : Action → Prop
  | .visit process call => ¬ s.Selects runId (.visit process call)
  | .sweep policy orders now => (s.step server (.sweep policy orders now)).db.agentRuns.find? runId ≠ none
  | .request _ id => id ≠ runId
  | .claim process options order now resolved => ¬ s.Claims runId (.claim process options order now resolved)
  | .work j _ => ∀ e, s.executions[j]? = some e → e.run.runId ≠ runId
  | .signal j _ | .loseHeartbeat j => j ≠ i
  | .renew .. => True

def Phase.Succeeds (run : AgentRun) (db : Tables) (draw : Draw) : Phase → Prop
  | .loading => ((RunWorker.loadContext run draw.orders).run db).1.isOk = true
  | .appending .. => db.conversationEvents.find? draw.eventId = none
  | _ => True

def Attempt.Ready (i : ℕ) (a : Attempt) (draw : Draw) : Prop :=
  ∀ e ∈ a.state.executions[i]?, e.phase.Succeeds e.run a.state.db draw

def Attempt.Undisturbed (server : Deployment) (i : ℕ) (runId : Id) (a : Attempt) : Turn → Prop
  | .own draw => a.Ready i draw
  | .other action => a.state.Spares server i runId action

section Loading

variable {run : AgentRun} {orders : RunWorker.Orders} {db : Tables}

lemma scope_readHistory (m : Message) (c : Conversation) : (Histories.readHistory run orders m c).Returns
    fun context => context.scope = ⟨run.tenantId, run.siteId, c.principalId⟩ := by
  refine (Program.returns_true _).bind fun history _ => (Program.returns_true _).bind fun participants _ => ?_
  refine (Program.returns_true _).bind fun principal _ => (Program.returns_true _).bind fun inputs _ => ?_
  dsimp only
  split
  · refine (Program.returns_true _).bind fun resolvedInputs _ => ?_
    split
    · exact rfl
    · trivial
  · trivial

lemma scope_loadContext {context : RunWorker.RunContext}
    (h : ((RunWorker.loadContext run orders).run db).1 = .ok context) : ∃ c ∈ db.conversations,
      RunWorker.ofConversation run c.tenantId c.siteId c.conversationId = true ∧
        context.scope = ⟨run.tenantId, run.siteId, c.principalId⟩ := by
  have hexec : ∃ w, (RunWorker.loadContext run orders).exec db db = (.ok context, w) :=
    ⟨((RunWorker.loadContext run orders).exec db db).2, Prod.ext h rfl⟩
  obtain ⟨w, hexec⟩ := hexec
  rw [Histories.loadContext_eq] at hexec
  obtain ⟨m, c₁, v₁, h₁, hexec⟩ := Program.exec_bind_inv hexec
  obtain ⟨-, he⟩ := Relation.exec_selectFirstOrThrow_inv h₁
  cases he
  obtain ⟨c, c₂, v₂, h₂, hexec⟩ := Program.exec_bind_inv hexec
  obtain ⟨hc, he⟩ := Relation.exec_selectFirstOrThrow_inv h₂
  cases he
  obtain ⟨hm, hin⟩ := List.mem_filter.mp (List.mem_of_head? hc)
  have hreturns : (Histories.readHistory run orders m c).Returns _ := scope_readHistory m c
  exact ⟨c, hm, hin, hreturns.run db context (congrArg Prod.fst hexec)⟩

end Loading

section Stages

variable (platform : Platform) (run : AgentRun) (now : Timestamp) (ending : Ending) (values : List ConnectorValue)

def after (events : List ConnectorEvent) : List ConnectorEvent × StatusWrite → List ConnectorEvent × StatusWrite :=
  Prod.map (events ++ ·) id

def continued (participantId : Id) (event : ConnectorEvent) (left : List ConnectorValue) (dbs : List Tables) :
    Option (List ConnectorEvent × StatusWrite) := match closing event.body with
  | some write => some ([event], write)
  | none => (reference platform run now participantId ending left dbs).map (after [event])

def stored (participantId : Id) (event : ConnectorEvent) (left : List ConnectorValue) (dbs : List Tables) :
    Option (List ConnectorEvent × StatusWrite) :=
  if event.isStorable then continued platform run now ending participantId event left dbs
  else some ([], .fail "CONNECTOR_EXECUTION_FAILED")

def accepted (participantId : Id) (event : ConnectorEvent) (left : List ConnectorValue) (dbs : List Tables) :
    Option (List ConnectorEvent × StatusWrite) := match dbs with
  | [] => none
  | db :: dbs =>
    if materializes run now participantId event db then stored platform run now ending participantId event left dbs
    else some ([], .fail "CONNECTOR_EXECUTION_FAILED")

namespace Attempt

variable (a : Attempt)

def Leads (context : RunWorker.RunContext) (events : List ConnectorEvent)
    (rest : List Tables → Option (List ConnectorEvent × StatusWrite)) : Prop :=
  a.context = some context ∧ a.written = [] ∧
    ∀ dbs, reference platform run now context.assistantParticipantId ending
    values (a.seen ++ dbs) = (rest dbs).map (after events)

def Decided (events : List ConnectorEvent) (write : StatusWrite) : Prop :=
  a.written = [] ∧ ∃ context, a.context = some context ∧
    reference platform run now context.assistantParticipantId ending values a.seen = some (events, write)

def Stage (events : List ConnectorEvent) : Phase → Prop
  | .loading => events = [] ∧ a.left = values ∧ a.seen = [] ∧ a.written = []
  | .pulling context => a.Leads platform run now ending values context events
      (reference platform run now context.assistantParticipantId ending a.left)
  | .received context value => a.Leads platform run now ending values context events
      (reference platform run now context.assistantParticipantId ending (value :: a.left))
  | .materializing context event => a.Leads platform run now ending values context events
      (accepted platform run now ending context.assistantParticipantId event a.left)
  | .appending context event => a.Leads platform run now ending values context events
      (stored platform run now ending context.assistantParticipantId event a.left)
  | .ended => a.Decided platform run now ending values events (.fail "CONNECTOR_INCOMPLETE")
  | .catching | .handling => a.Decided platform run now ending values events (.fail "CONNECTOR_EXECUTION_FAILED")
  | .writing write _ => a.Decided platform run now ending values events write
  | .leaving | .returned => ∃ context write r, a.context = some context ∧
      reference platform run now context.assistantParticipantId ending values a.seen = some (events, write) ∧
      a.written = [some r] ∧ write.Leaves r
  | _ => False

def rank (left : ℕ) : Phase → ℕ
  | .loading | .appending .. => 4 * left + 5
  | .pulling _ => 4 * left + 4
  | .received .. => 4 * left + 7
  | .materializing .. => 4 * left + 6
  | .catching => 3
  | .ended | .handling | .writing _ .loop => 2
  | .writing .. | .leaving => 1
  | _ => 0

end Attempt

end Stages

section Reference

variable {platform : Platform} {run : AgentRun} {now : Timestamp} {participantId : Id} {ending : Ending}
  {value : ConnectorValue} {event : ConnectorEvent} {left : List ConnectorValue} {dbs : List Tables}

lemma after_comp (events events' : List ConnectorEvent) (r : Option (List ConnectorEvent × StatusWrite)) :
    (r.map (after events')).map (after events) = r.map (after (events ++ events')) := by
  cases r with
  | none => rfl
  | some r => simp [after, Prod.map]

lemma after_nil (r : Option (List ConnectorEvent × StatusWrite)) : r.map (after []) = r := by
  cases r <;> rfl

lemma reference_rejected (h : acceptedEvent platform value (runContext run) = none) :
    reference platform run now participantId ending (value :: left) dbs =
    some ([], .fail "INVALID_CONNECTOR_EVENT") := by
  rw [reference, h]

lemma reference_accepted (h : acceptedEvent platform value (runContext run) = some event) :
    reference platform run now participantId ending (value :: left) dbs =
      accepted platform run now ending participantId event left dbs := by
  rw [reference, h]
  cases dbs with
  | nil => rfl
  | cons db dbs =>
    simp only [accepted, stored]
    cases materializes run now participantId event db <;> cases event.isStorable <;> rfl

end Reference

section Others

variable {server : Deployment} {s : State} {i : ℕ} {runId : Id} {run : AgentRun} {e : Execution} {action : Action}

def Running (run : AgentRun) (db : Tables) : Prop :=
  ∃ r, db.agentRuns.find? run.runId = some r ∧ r.status = .running ∧ r.attempt = run.attempt

def Owned (run : AgentRun) (scope : Scope) (db : Tables) : Prop :=
  scope.tenantId = run.tenantId ∧ scope.siteId = run.siteId ∧
  ∀ c ∈ db.conversations, c.conversationId = run.conversationId → c.principalId = scope.principalId

lemma owned_step (hs : s.Sound) (he : s.executions[i]? = some e) {scope : Scope} (h : Owned e.run scope s.db) :
    Owned e.run scope (s.step server action).db := by
  obtain ⟨htenant, hsite, hall⟩ := h
  refine ⟨htenant, hsite, fun c' hc' hid' => ?_⟩
  have hleaves : Leaves server s _ := leaves_step hs action
  obtain ⟨ids, hfresh, hin⟩ := hleaves.inherits
  rcases hin c' hc' with ⟨c, hc, hid, hprincipal, -⟩ | ⟨hnew, -⟩
  · exact hprincipal.trans (hall c hc (hid.symm.trans hid'))
  · have hissued := (hs.skeleton.issued _ (Or.inr (State.mem_known (List.mem_of_getElem? he)))).2.2
    rw [hid'] at hnew
    exact absurd hissued (hfresh _ hnew)

lemma execution_spared (hs : s.Sound) (he : s.executions[i]? = some e) (hid : e.run.runId = runId)
    (hr : e.phase.works = true → Running e.run s.db) (hsp : s.Spares server i runId action) :
    ∃ e', (s.step server action).executions[i]? = some e' ∧ (e' = e ∨ e' = e.abort ∧ e.phase.works = false) := by
  have hc : Change server s action (s.step server action) :=
    step_change (sequenced_of_sound hs.skeleton) (rooted_of_sound hs.skeleton) action
  generalize s.step server action = s' at hc
  have hwork : ∀ {j draw x}, action = .work j draw → s.executions[j]? = some x → j ≠ i := by
    rintro j draw x rfl hx rfl
    cases he.symm.trans hx
    exact hsp e he hid
  cases hc with
  | idle | visited | swept | dismissed | renewed => exact ⟨e, he, Or.inl rfl⟩
  | @requested process id j x hreq ha hx =>
    obtain ⟨y, hy, hyid⟩ := hs.active _ _ _ ha
    have hne : j ≠ i := by
      rintro rfl
      cases he.symm.trans hy
      exact hsp (hyid.symm.trans hid)
    exact ⟨e, (State.getElem?_put_ne hne).trans he, Or.inl rfl⟩
  | claimed =>
    refine ⟨e, ?_, Or.inl rfl⟩
    exact (List.getElem?_append_left (List.getElem?_eq_some_iff.mp he).1).trans he
  | signalled hx => exact ⟨e, (State.getElem?_put_ne hsp).trans he, Or.inl rfl⟩
  | lost hx => exact ⟨e, (State.getElem?_put_ne hsp).trans he, Or.inl rfl⟩
  | @lapsed j x now hx hb hlost =>
    by_cases hji : j = i
    · subst hji
      cases he.symm.trans hx
      refine ⟨e.abort, State.getElem?_put_self he, Or.inr ⟨rfl, Bool.eq_false_iff.mpr fun hw => ?_⟩⟩
      obtain ⟨r, hfind, hrunning, hattempt⟩ := hr hw
      exact hlost r hfind ⟨hrunning, hattempt⟩
    · exact ⟨e, (State.getElem?_put_ne hji).trans he, Or.inl rfl⟩
  | failed hx | loaded hx | answered hx | materialized hx | appended hx | wrote hx =>
    exact ⟨e, (State.getElem?_put_ne (hwork rfl hx)).trans he, Or.inl rfl⟩

lemma life_spared (hs : s.Sound) (hsp : s.Spares server i runId action) {r : AgentRun}
    (hr : (s.life runId).run = some r)
    (hrunning : r.status = .running) : ∃ r', ((s.step server action).life runId).run = some r' ∧
      r'.status = .running ∧ r'.attempt = r.attempt := by
  have hstep := life_step hs server action runId
  have hkept : ∀ policy orders now, action = .sweep policy orders now →
      ((s.step server action).life runId).run ≠ none := by
    rintro policy orders now rfl
    exact hsp
  generalize (s.step server action).life runId = l' at hstep hkept
  generalize hl : s.life runId = l at hstep hr
  have hwork : ∀ {j draw x}, action = .work j draw → l.executions j = some x → False := by
    rintro j draw x rfl hx
    obtain ⟨hx, hid⟩ := life_executions.mp (hl ▸ hx)
    exact hsp x hx hid
  cases hstep with
  | idle | redacted | aborted | signalled | pruned => exact ⟨r, hr, hrunning, rfl⟩
  | created _ _ _ hnone => rw [hr] at hnone; cases hnone
  | cancelled _ _ _ hselects => exact absurd hselects hsp
  | resumed x _ _ _ hx hwaiting =>
    cases hr.symm.trans hx
    rw [hrunning] at hwaiting
    cases hwaiting
  | forgotten => exact absurd rfl (hkept _ _ _ rfl)
  | claimed _ _ _ _ hclaims => exact absurd hclaims hsp
  | renewed j x y hx hy =>
    cases hr.symm.trans hy
    exact ⟨_, rfl, hrunning, rfl⟩
  | failed j x hx => exact (hwork rfl hx).elim
  | loaded j x hx => exact (hwork rfl hx).elim
  | answered j x _ _ hx => exact (hwork rfl hx).elim
  | materialized j x hx => exact (hwork rfl hx).elim
  | appended j x _ _ _ hx => exact (hwork rfl hx).elim
  | wrote j x hx => exact (hwork rfl hx).elim

lemma running_spared (hs : s.Sound) (hsp : s.Spares server i run.runId action) (h : Running run s.db) :
    Running run (s.step server action).db := by
  obtain ⟨r, hr, hrunning, hattempt⟩ := h
  obtain ⟨r', hr', hrunning', hattempt'⟩ := life_spared hs hsp hr hrunning
  exact ⟨r', hr', hrunning', hattempt'.trans hattempt⟩

lemma eventsOf_life (s : State) (runId : Id) :
    s.eventsOf runId = (s.life runId).appended.map EventStore.PersistedEvent.event := rfl

lemma eventsOf_spared (hs : s.Sound) (hsp : s.Spares server i runId action) :
    (s.step server action).eventsOf runId = s.eventsOf runId := by
  have hstep := life_step hs server action runId
  rw [eventsOf_life, eventsOf_life]
  generalize (s.step server action).life runId = l' at hstep
  generalize hl : s.life runId = l at hstep
  cases hstep with
  | materialized j x hx hp hm => exact congrArg _ hm.same.2.2.1
  | appended j x _ _ _ hx =>
    obtain ⟨hx, hid⟩ := life_executions.mp (hl ▸ hx)
    exact absurd hid (hsp x hx)
  | wrote j x hx =>
    obtain ⟨hx, hid⟩ := life_executions.mp (hl ▸ hx)
    exact absurd hid (hsp x hx)
  | _ => rfl

end Others

structure Assignment where
  server : Deployment
  i : ℕ
  run : AgentRun
  now : Timestamp
  ending : Ending
  values : List ConnectorValue
  before : List ConnectorEvent

namespace Attempt

structure Going (t : Assignment) (a : Attempt) (e : Execution) : Prop where
  sound : a.state.Sound
  numbered : Numbered a.state.db
  execution : a.state.executions[t.i]? = some e
  run : e.run = t.run
  now : e.now = t.now
  held : e.phase.works = true → e.aborted = false ∧ Running t.run a.state.db
  owned : ∀ context, a.context = some context → Owned t.run context.scope a.state.db
  stage : ∃ events, a.state.eventsOf t.run.runId = t.before ++ events ∧
    a.Stage t.server.platform t.run t.now t.ending t.values events e.phase

variable {t : Assignment} {a a' : Attempt} {e e' : Execution}

lemma Going.step (h : Going t a e) {action : Action} (hstate : a'.state = a.state.step t.server action)
    (he : a'.state.executions[t.i]? = some e') (hrun : e'.run = e.run) (hnow : e'.now = e.now)
    (hheld : e'.phase.works = true → e'.aborted = false ∧ Running t.run a'.state.db)
    (hcontext : ∀ context, a'.context = some context → Owned t.run context.scope a.state.db)
    (hstage : ∃ events, a'.state.eventsOf t.run.runId = t.before ++ events ∧
      a'.Stage t.server.platform t.run t.now t.ending t.values events e'.phase) : Going t a' e' where
  sound := hstate ▸ h.sound.step action
  numbered := hstate ▸ (leaves_step h.sound action).numbered h.sound h.numbered
  execution := he
  run := hrun.trans h.run
  now := hnow.trans h.now
  held := hheld
  owned context hc := by
    have howned := hcontext context hc
    rw [← h.run] at howned ⊢
    rw [hstate]
    exact owned_step h.sound h.execution howned
  stage := hstage

lemma Going.put (h : Going t a e) {action : Action} {b : Tables} (hstate : a'.state = a.state.step t.server action)
    (hput : a.state.step t.server action = State.put { a.state with db := b } t.i e') (hrun : e'.run = e.run)
    (hnow : e'.now = e.now) (haborted : e'.phase.works = true → e'.aborted = false ∧ Running t.run b)
    (hcontext : ∀ context, a'.context = some context → Owned t.run context.scope a.state.db)
    (hstage : ∀ events, a.Stage t.server.platform t.run t.now t.ending t.values events e.phase →
      a'.Stage t.server.platform t.run t.now t.ending t.values events e'.phase) : Going t a' e' := by
  refine h.step hstate ?_ hrun hnow ?_ hcontext ?_
  · rw [hstate, hput]
    exact State.getElem?_put_self h.execution
  · rw [hstate, hput]
    exact haborted
  · obtain ⟨events, hevents, hs⟩ := h.stage
    refine ⟨events, ?_, hstage events hs⟩
    rw [hstate, hput, ← hevents]
    rfl

lemma step_signal {server : Deployment} {s : State} {i : ℕ} {e : Execution} (he : s.executions[i]? = some e)
    (signal : Signal) : s.step server (.signal i signal) = State.put { s with db := s.db } i (e.react signal) := by
  simp only [State.step, he]

lemma step_work {server : Deployment} {s : State} {i : ℕ} {e : Execution} {draw : Draw} {call : Call}
    (he : s.executions[i]? = some e) (hc : e.call draw = some call) :
    s.step server (.work i draw) = s.work server i e call := by
  simp only [State.step, he, hc]

def Advances (a a' : Attempt) (e e' : Execution) : Prop :=
  rank a'.left.length e'.phase + 1 ≤ rank a.left.length e.phase ∨ e'.phase = .returned

lemma afterAppend_eq (context : RunWorker.RunContext) (body : EventBody) : Execution.afterAppend context body =
    match closing body with
    | some write => .writing write .loop
    | none => .pulling context := by
  cases body <;> rfl

section Own

variable (h : Going t a e) (draw : Draw)

include h

lemma advance_eq : a.advance t.server t.i t.ending draw = match e.phase with
    | .loading => { a.act t.server (.work t.i draw) with
        context := ((RunWorker.loadContext e.run draw.orders).run a.state.db).1.toOption }
    | .pulling _ => match a.left with
      | [] => a.act t.server (.signal t.i t.ending.signal)
      | value :: left => { a.act t.server (.signal t.i (.yields value)) with left := left }
    | .materializing .. => { a.act t.server (.work t.i draw) with seen := a.seen ++ [a.state.db] }
    | .writing .. => { a.act t.server (.work t.i draw) with
        written := a.written ++ [(a.state.step t.server (.work t.i draw)).db.agentRuns.find? e.run.runId] }
    | .stopping | .leaving | .catching => a.act t.server (.signal t.i .settles)
    | _ => a.act t.server (.work t.i draw) := by
  rw [advance, h.execution]

lemma own_loading (hp : e.phase = .loading)
    (hl : ((RunWorker.loadContext e.run draw.orders).run a.state.db).1.isOk = true) :
    ∃ e', Going t (a.advance t.server t.i t.ending draw) e' ∧
      Advances a (a.advance t.server t.i t.ending draw) e e' := by
  obtain ⟨context, hok⟩ : ∃ context, ((RunWorker.loadContext e.run draw.orders).run a.state.db).1 =
    .ok context := by
    cases hr : ((RunWorker.loadContext e.run draw.orders).run a.state.db).1 with
    | ok context => exact ⟨context, rfl⟩
    | error error =>
      rw [hr] at hl
      cases hl
  have hsame : ((RunWorker.loadContext e.run draw.orders).run a.state.db).2 = a.state.db :=
    (keeps_loadContext (fun _ => rfl) e.run draw.orders).run_eq a.state.db
  have hrun : (body t.server (.loadContext e.run draw.orders)).run a.state.db =
    (.ok (.context context), a.state.db) :=
    (Program.run_map _ _ _).trans (by rw [hsame, hok]; rfl)
  have hresume : e.resume t.server.platform (.ok (.context context)) = e.goto (.pulling context) := by
    simp only [Execution.resume, hp]
  have hcall : e.call draw = some (.loadContext e.run draw.orders) := by rw [Execution.call, hp]
  have hput := (step_work h.execution hcall).trans ((work_ok hrun rfl).trans (congrArg _ hresume))
  rw [advance_eq h, hp]
  refine ⟨e.goto (.pulling context), h.put rfl hput rfl rfl (fun _ => h.held (by rw [hp]; rfl)) ?_ ?_, Or.inl ?_⟩
  · intro context' hcontext
    cases hcontext.symm.trans (congrArg Except.toOption hok)
    obtain ⟨c, hc, hin, hscope⟩ := scope_loadContext hok
    rw [h.run] at hin hscope
    simp only [RunWorker.ofConversation, Bool.and_eq_true, decide_eq_true_eq] at hin
    rw [hscope]
    refine ⟨rfl, rfl, fun d hd hid => ?_⟩
    rw [Table.key_injective hd hc (hid.trans hin.2.symm)]
  · intro events hs
    rw [hp] at hs
    obtain ⟨rfl, hleft, hseen, hwritten⟩ := hs
    refine ⟨congrArg Except.toOption hok, hwritten, fun dbs => ?_⟩
    change reference _ _ _ _ _ _ (a.seen ++ dbs) = Option.map _ (reference _ _ _ _ _ a.left dbs)
    rw [hseen, hleft, after_nil]
    rfl
  · rw [hp]
    exact Nat.le_refl _

lemma own_ending {context : RunWorker.RunContext} (hp : e.phase = .pulling context) (hleft : a.left = []) :
    ∃ e', Going t (a.advance t.server t.i t.ending draw) e' ∧
      Advances a (a.advance t.server t.i t.ending draw) e e' := by
  have hheld := h.held (by rw [hp]; rfl)
  have hadvance : a.advance t.server t.i t.ending draw = a.act t.server (.signal t.i t.ending.signal) := by
    rw [advance_eq h, hp]
    simp only [hleft]
  have hreact : e.react t.ending.signal = e.goto t.ending.phase := by
    cases t.ending with
    | ends =>
      simp only [Ending.signal, Execution.react, hp, hheld.1]
      rfl
    | throws => simp only [Ending.signal, Execution.react, hp, Ending.phase]
  have hput := (@step_signal t.server _ _ _ h.execution t.ending.signal).trans (congrArg _ hreact)
  rw [hadvance]
  refine ⟨e.goto t.ending.phase, h.put rfl hput rfl rfl (fun _ => hheld) h.owned ?_, Or.inl ?_⟩
  · intro events hs
    rw [hp] at hs
    obtain ⟨hcontext, hwritten, hleads⟩ := hs
    have hdecided : a.Decided t.server.platform t.run t.now t.ending t.values events t.ending.write := by
      refine ⟨hwritten, context, hcontext, ?_⟩
      have hnil := hleads []
      rw [List.append_nil, hleft, reference] at hnil
      rw [hnil]
      simp [after]
    change Stage _ _ _ _ _ (a.act _ _) events t.ending.phase
    cases hending : t.ending with
    | ends | throws =>
      rw [hending] at hdecided
      exact hdecided
  · rw [hp]
    change rank a.left.length t.ending.phase + 1 ≤ 4 * a.left.length + 4
    cases t.ending with
    | ends | throws => exact Nat.le_add_left _ _

lemma own_pulling {context : RunWorker.RunContext} (hp : e.phase = .pulling context) {value : ConnectorValue}
    {left : List ConnectorValue} (hleft : a.left = value :: left) :
    ∃ e', Going t (a.advance t.server t.i t.ending draw) e' ∧
      Advances a (a.advance t.server t.i t.ending draw) e e' := by
  have hheld := h.held (by rw [hp]; rfl)
  have hadvance : a.advance t.server t.i t.ending draw =
    { a.act t.server (.signal t.i (.yields value)) with left := left } := by
    rw [advance_eq h, hp]
    simp only [hleft]
  have hreact : e.react (.yields value) = e.goto (.received context value) := by
    simp only [Execution.react, hp]
  have hput := (@step_signal t.server _ _ _ h.execution (.yields value)).trans (congrArg _ hreact)
  rw [hadvance]
  refine ⟨e.goto (.received context value), h.put rfl hput rfl rfl (fun _ => hheld) h.owned ?_, Or.inl ?_⟩
  · intro events hs
    rw [hp] at hs
    obtain ⟨hcontext, hwritten, hleads⟩ := hs
    rw [hleft] at hleads
    exact ⟨hcontext, hwritten, hleads⟩
  · rw [hp, hleft]
    change 4 * left.length + 7 + 1 ≤ 4 * (value :: left).length + 4
    rw [List.length_cons]
    omega

lemma run_uncancelled (hw : e.phase.works = true) :
    (body t.server (.isCancellationRequested e.run.runId)).run a.state.db = (.ok (.answer false), a.state.db) := by
  obtain ⟨-, r, hr, hrunning, -⟩ := h.held hw
  rw [← h.run] at hr
  refine (Program.run_map _ _ _).trans ?_
  rw [run_isCancellationRequested, hr]
  simp only [hrunning]
  rfl

lemma own_asking (hask : e.phase.asks = true)
    (hgoto : ∃ phase, e.resume t.server.platform (.ok (.answer false)) = e.goto phase ∧
      (∀ events, a.Stage t.server.platform t.run t.now t.ending t.values events e.phase →
        a.Stage t.server.platform t.run t.now t.ending t.values events phase) ∧
      rank a.left.length phase + 1 ≤ rank a.left.length e.phase) :
    ∃ e', Going t (a.advance t.server t.i t.ending draw) e' ∧
      Advances a (a.advance t.server t.i t.ending draw) e e' := by
  obtain ⟨phase, hresume, hstage, hrank⟩ := hgoto
  have hworks : e.phase.works = true := Phase.works_of_asks hask
  have hadvance : a.advance t.server t.i t.ending draw = a.act t.server (.work t.i draw) := by
    rw [advance_eq h]
    cases hp : e.phase <;> rw [hp] at hask <;> first | rfl | cases hask
  have hcall : e.call draw = some (.isCancellationRequested e.run.runId) := by
    rw [Execution.call]
    cases hp : e.phase <;> rw [hp] at hask <;> first | rfl | cases hask
  have hput := (step_work h.execution hcall).trans
    ((work_ok (run_uncancelled h hworks) rfl).trans (congrArg _ hresume))
  rw [hadvance]
  exact ⟨e.goto phase, h.put rfl hput rfl rfl (fun _ => h.held hworks) h.owned hstage, Or.inl hrank⟩

lemma own_received {context : RunWorker.RunContext} {value : ConnectorValue}
    (hp : e.phase = .received context value) :
    ∃ e', Going t (a.advance t.server t.i t.ending draw) e' ∧
      Advances a (a.advance t.server t.i t.ending draw) e e' := by
  have hheld := h.held (by rw [hp]; rfl)
  have hctx : e.eventContext = runContext t.run := by
    rw [← h.run]
    rfl
  refine own_asking h draw (by rw [hp]; rfl) ?_
  have hresume : e.resume t.server.platform (.ok (.answer false)) = match acceptedEvent t.server.platform value
      (runContext t.run) with
      | none => e.goto (.writing (.fail "INVALID_CONNECTOR_EVENT") .loop)
      | some event => e.goto (.materializing context event) := by
    simp only [Execution.resume, hp, Execution.examine, hheld.1, hctx]
    rfl
  rw [hresume, hp]
  cases hvalid : acceptedEvent t.server.platform value (runContext t.run) with
  | none =>
    refine ⟨_, rfl, fun events hs => ?_, Nat.le_add_left _ _⟩
    obtain ⟨hcontext, hwritten, hleads⟩ := hs
    refine ⟨hwritten, context, hcontext, ?_⟩
    have hnil := hleads []
    rw [List.append_nil, reference_rejected hvalid] at hnil
    rw [hnil]
    simp [after]
  | some event =>
    refine ⟨_, rfl, fun events hs => ?_, Nat.le_refl _⟩
    obtain ⟨hcontext, hwritten, hleads⟩ := hs
    refine ⟨hcontext, hwritten, fun dbs => ?_⟩
    rw [hleads dbs, reference_accepted hvalid]

lemma own_ended (hp : e.phase = .ended) :
    ∃ e', Going t (a.advance t.server t.i t.ending draw) e' ∧
      Advances a (a.advance t.server t.i t.ending draw) e e' := by
  refine own_asking h draw (by rw [hp]; rfl) ⟨.writing (.fail "CONNECTOR_INCOMPLETE") .afterLoop, ?_, ?_, ?_⟩
  · simp only [Execution.resume, hp]
    rfl
  · rw [hp]
    exact fun _ hs => hs
  · rw [hp]
    exact Nat.le_refl _

lemma own_handling (hp : e.phase = .handling) :
    ∃ e', Going t (a.advance t.server t.i t.ending draw) e' ∧
      Advances a (a.advance t.server t.i t.ending draw) e e' := by
  refine own_asking h draw (by rw [hp]; rfl) ⟨.writing (.fail "CONNECTOR_EXECUTION_FAILED") .handler, ?_, ?_, ?_⟩
  · simp only [Execution.resume, hp]
    rfl
  · rw [hp]
    exact fun _ hs => hs
  · rw [hp]
    exact Nat.le_refl _

lemma own_settling (hp : e.phase = .catching ∨ e.phase = .leaving) :
    ∃ e', Going t (a.advance t.server t.i t.ending draw) e' ∧
      Advances a (a.advance t.server t.i t.ending draw) e e' := by
  have hadvance : a.advance t.server t.i t.ending draw = a.act t.server (.signal t.i .settles) := by
    rw [advance_eq h]
    rcases hp with hp | hp <;> rw [hp]
  rw [hadvance]
  rcases hp with hp | hp
  · have hheld := h.held (by rw [hp]; rfl)
    have hreact : e.react .settles = e.goto .handling := by
      simp only [Execution.react, hp, hheld.1]
      rfl
    have hput := (@step_signal t.server _ _ _ h.execution .settles).trans (congrArg _ hreact)
    refine ⟨_, h.put rfl hput rfl rfl (fun _ => hheld) h.owned ?_, Or.inl ?_⟩
    · rw [hp]
      exact fun _ hs => hs
    · rw [hp]
      exact Nat.le_refl _
  · have hreact : e.react .settles = e.goto .returned := by
      simp only [Execution.react, hp]
    have hput := (@step_signal t.server _ _ _ h.execution .settles).trans (congrArg _ hreact)
    refine ⟨_, h.put rfl hput rfl rfl (fun hw => (by cases hw)) h.owned ?_, Or.inr rfl⟩
    rw [hp]
    exact fun _ hs => hs

lemma own_materializing {context : RunWorker.RunContext} {event : ConnectorEvent}
    (hp : e.phase = .materializing context event) :
    ∃ e', Going t (a.advance t.server t.i t.ending draw) e' ∧
      Advances a (a.advance t.server t.i t.ending draw) e e' := by
  have hheld := h.held (by rw [hp]; rfl)
  have hadvance : a.advance t.server t.i t.ending draw = { a.act t.server (.work t.i draw) with
      seen := a.seen ++ [a.state.db] } := by
    rw [advance_eq h, hp]
  have hcall : e.call draw = some (.materialize e.run e.now context.assistantParticipantId event) := by
    rw [Execution.call, hp]
  have hrun : (body t.server (.materialize e.run e.now context.assistantParticipantId event)).run a.state.db = _ :=
    Program.run_map _ _ _
  have hadds : ∀ dbs, (a.seen ++ [a.state.db]) ++ dbs = a.seen ++ (a.state.db :: dbs) := fun dbs => by simp
  rw [hadvance]
  rw [h.run, h.now] at hrun
  have hmaterialize : (∃ error,
    (RunWorker.materialize t.run t.now context.assistantParticipantId event).run a.state.db =
      (.error error, a.state.db)) ∨
      ∃ b, Materialized t.run t.now context.assistantParticipantId event.body a.state.db b ∧
        (RunWorker.materialize t.run t.now context.assistantParticipantId event).run a.state.db = (.ok (), b) :=
    run_materialize (sequenced_of_sound h.sound.skeleton) event
  rcases hmaterialize with ⟨error, hm⟩ | ⟨b, hb, hm⟩
  · have hfails : materializes t.run t.now context.assistantParticipantId event a.state.db = false := by
      rw [materializes, hm]
      rfl
    rw [hm] at hrun
    have hput : a.state.step t.server (.work t.i draw) = State.put { a.state with db := a.state.db } t.i
      (e.goto .catching) := by
      rw [step_work h.execution hcall, h.run, h.now, work_error hrun, hp]
      rfl
    refine ⟨_, h.put rfl hput rfl rfl (fun _ => hheld) h.owned (fun events hs => ?_), Or.inl ?_⟩
    · rw [hp] at hs
      obtain ⟨hcontext, hwritten, hleads⟩ := hs
      refine ⟨hwritten, context, hcontext, ?_⟩
      have hone := hleads [a.state.db]
      rw [accepted, hfails] at hone
      refine hone.trans ?_
      simp [after]
    · rw [hp]
      exact Nat.le_add_left 4 _ |>.trans (Nat.le_refl _)
  · have hdone : materializes t.run t.now context.assistantParticipantId event a.state.db = true := by
      rw [materializes, hm]
      rfl
    rw [hm] at hrun
    have hresume : e.resume t.server.platform (.ok (.done ())) = e.goto (.appending context event) := by
      simp only [Execution.resume, hp]
    have hput : a.state.step t.server (.work t.i draw) = State.put { a.state with db := b } t.i
        (e.goto (.appending context event)) := by
      rw [step_work h.execution hcall, h.run, h.now, work_ok hrun rfl, ← hresume]
    refine ⟨_, h.put rfl hput rfl rfl (fun _ => ⟨hheld.1, ?_⟩) h.owned (fun events hs => ?_), Or.inl ?_⟩
    · rw [Running, State.materialized_runs hb]
      exact hheld.2
    · rw [hp] at hs
      obtain ⟨hcontext, hwritten, hleads⟩ := hs
      refine ⟨hcontext, hwritten, fun dbs => ?_⟩
      refine (congrArg _ (hadds dbs)).trans ((hleads (a.state.db :: dbs)).trans ?_)
      rw [accepted, hdone]
      rfl
    · rw [hp]
      exact Nat.le_refl _

lemma own_appending {context : RunWorker.RunContext} {event : ConnectorEvent}
    (hp : e.phase = .appending context event)
    (hnew : a.state.db.conversationEvents.find? draw.eventId = none) :
    ∃ e', Going t (a.advance t.server t.i t.ending draw) e' ∧
      Advances a (a.advance t.server t.i t.ending draw) e e' := by
  have hheld := h.held (by rw [hp]; rfl)
  have hadvance : a.advance t.server t.i t.ending draw = a.act t.server (.work t.i draw) := by
    rw [advance_eq h, hp]
  have hcall : e.call draw = some (.appendEvent context.scope event draw.eventId draw.occurredAt) := by
    rw [Execution.call, hp]
  obtain ⟨events, hevents, hs⟩ := h.stage
  rw [hp] at hs
  obtain ⟨hcontext, hwritten, hleads⟩ := hs
  have hproper := h.sound.proper e (List.mem_of_getElem? h.execution)
  rw [Execution.Proper, hp] at hproper
  have hof := hproper.2
  -- the conversation of the run is there, and still belongs to the principal of the context
  obtain ⟨c, hc, hin⟩ : ∃ c ∈ a.state.db.conversations, inConversation context.scope event.conversationId
    c = true := by
    obtain ⟨r, hr, -⟩ := hheld.2
    obtain ⟨htenant, hsite, hprincipal⟩ := h.owned context hcontext
    obtain ⟨hm, hid⟩ := Table.find?_eq_some.mp hr
    have hsame := identity_eq h.sound h.execution hm ((congrArg AgentRun.runId h.run).trans hid.symm)
    obtain ⟨c, hc, hhome⟩ := h.sound.skeleton.placed _ (Table.mem_image hm)
    have hplaced : conversationHome c = (identity e.run).home := by rw [hsame]; exact hhome
    rw [h.run] at hplaced
    obtain ⟨ht, hrest⟩ := Home.mk.inj hplaced
    obtain ⟨hst, hcid⟩ := hrest
    have hevent : event.conversationId = t.run.conversationId :=
      hof.conversation.trans (congrArg AgentRun.conversationId h.run)
    refine ⟨c, hc, ?_⟩
    simp only [inConversation, Bool.and_eq_true, decide_eq_true_eq]
    exact ⟨⟨⟨ht.trans htenant.symm, hst.trans hsite.symm⟩, hprincipal c hc hcid⟩, hcid.trans hevent.symm⟩
  have hrun : (body t.server (.appendEvent context.scope event draw.eventId draw.occurredAt)).run a.state.db = _ :=
    Program.run_map _ _ _
  cases hstorable : event.isStorable
  · rw [run_append_refused hc hin hstorable] at hrun
    have hput : a.state.step t.server (.work t.i draw) = State.put { a.state with db := a.state.db } t.i
      (e.goto .catching) := by
      rw [step_work h.execution hcall, work_error hrun, hp]
      rfl
    rw [hadvance]
    refine ⟨_, h.put rfl hput rfl rfl (fun _ => hheld) h.owned (fun events hs => ?_), Or.inl ?_⟩
    · rw [hp] at hs
      obtain ⟨hcontext, hwritten, hleads⟩ := hs
      refine ⟨hwritten, context, hcontext, ?_⟩
      have hnil := hleads []
      rw [List.append_nil, stored, hstorable] at hnil
      refine hnil.trans ?_
      simp [after]
    · rw [hp]
      exact Nat.le_add_left 4 _ |>.trans (Nat.le_succ _)
  rw [run_append_ok h.numbered hc hin hnew hstorable] at hrun
  have hresume : ∀ p, e.resume t.server.platform (.ok (.appended p)) =
    e.goto (Execution.afterAppend context event.body) := by
    intro p
    simp only [Execution.resume, hp]
  have hstep : a.state.step t.server (.work t.i draw) = State.put { a.state with
      db := appendTo context.scope event draw.eventId draw.occurredAt t.server.retentionMaxEvents
        c.nextEventSequence a.state.db
      appended := a.state.appended ++ [⟨event, draw.eventId, c.nextEventSequence, toISOString draw.occurredAt⟩] }
        t.i
        (e.goto (Execution.afterAppend context event.body)) := by
    rw [step_work h.execution hcall, State.work, hrun]
    exact congrArg _ (hresume _)
  have howner : event.runId = t.run.runId := hof.run.trans (congrArg AgentRun.runId h.run)
  have happended : (a.act t.server (.work t.i draw)).state.eventsOf t.run.runId = t.before ++
    (events ++ [event]) := by
    change (a.state.step t.server (.work t.i draw)).eventsOf t.run.runId = _
    rw [hstep, ← List.append_assoc, ← hevents]
    simp [State.eventsOf, howner]
  rw [hadvance]
  have hact : (a.act t.server (.work t.i draw)).state = a.state.step t.server (.work t.i draw) := rfl
  refine ⟨e.goto (Execution.afterAppend context event.body),
    h.step hact ?_ rfl rfl (fun _ => ⟨hheld.1, ?_⟩) h.owned
    ⟨events ++ [event], happended, ?_⟩, Or.inl ?_⟩
  · change (a.state.step t.server (.work t.i draw)).executions[t.i]? = _
    rw [hstep]
    exact State.getElem?_put_self h.execution
  · change Running t.run (a.state.step t.server (.work t.i draw)).db
    rw [hstep]
    exact hheld.2
  · change Stage _ _ _ _ _ (a.act _ _) (events ++ [event]) (Execution.afterAppend context event.body)
    rw [afterAppend_eq]
    cases hclosing : closing event.body with
    | some write =>
      refine ⟨hwritten, context, hcontext, ?_⟩
      have hnil := hleads []
      rw [List.append_nil, stored, if_pos hstorable, continued, hclosing] at hnil
      exact hnil
    | none =>
      refine ⟨hcontext, hwritten, fun dbs => ?_⟩
      refine (hleads dbs).trans ?_
      rw [stored, if_pos hstorable, continued, hclosing]
      exact after_comp _ _ _
  · rw [hp]
    change rank a.left.length (Execution.afterAppend context event.body) + 1 ≤ 4 * a.left.length + 5
    rw [afterAppend_eq]
    cases closing event.body with
    | some write => exact Nat.le_add_left _ _ |>.trans (Nat.le_refl _)
    | none => exact Nat.le_refl _

lemma row_written {write : StatusWrite} (hr : Running t.run a.state.db) : ∃ r,
    (write.effect e.run e.now a.state.db).agentRuns.find? e.run.runId = some r ∧ write.Leaves r := by
  obtain ⟨r, hr, hrunning, -⟩ := hr
  rw [← h.run] at hr
  have hid : (a.state.life e.run.runId).run = some r := hr
  have hrows := @effect_own a.state _ e.now write fun r' hr' => by
    cases hid.symm.trans hr'
    obtain ⟨hm, hid'⟩ := Table.find?_eq_some.mp hr
    have hsame := identity_eq h.sound h.execution hm hid'.symm
    exact (congrArg Identity.assistantMessageId hsame).symm
  have hrow : (write.effect e.run e.now a.state.db).agentRuns.find? e.run.runId =
      ((a.state.life e.run.runId).effect e.now write).run := congrArg Rows.run hrows
  rw [hrow]
  cases write with
  | complete | fail code | cancel => exact ⟨_, congrArg (Option.map _) hid, by first | rfl | exact ⟨rfl, rfl⟩⟩
  | waitForInput =>
    refine ⟨_, congrArg (Option.map _) hid, ?_⟩
    simp only [hrunning, decide_true, if_true]
    rfl

lemma own_writing {write : StatusWrite} {place : Place} (hp : e.phase = .writing write place) :
    ∃ e', Going t (a.advance t.server t.i t.ending draw) e' ∧
      Advances a (a.advance t.server t.i t.ending draw) e e' := by
  have hheld := h.held (by rw [hp]; rfl)
  have hadvance : a.advance t.server t.i t.ending draw = { a.act t.server (.work t.i draw) with
      written := a.written ++ [(a.state.step t.server (.work t.i draw)).db.agentRuns.find? e.run.runId] } := by
    rw [advance_eq h, hp]
  have hcall : e.call draw = some (write.call e.run e.now) := by rw [Execution.call, hp]
  have hsucceeds : write.Succeeds e.run a.state.db := by
    cases write with
    | waitForInput =>
      obtain ⟨r, hr, hrunning, -⟩ := hheld.2
      exact ⟨r, h.run ▸ hr, hrunning⟩
    | _ => trivial
  have hresume : e.resume t.server.platform (.ok (.done ())) =
    e.goto (if place = .loop then .leaving else .returned) := by
    simp only [Execution.resume, hp]
    cases place <;> rfl
  have hput : a.state.step t.server (.work t.i draw) = State.put { a.state with
      db := write.effect e.run e.now a.state.db } t.i
        (e.goto (if place = .loop then .leaving else .returned)) := by
    rw [step_work h.execution hcall,
      work_ok (write.run_call t.server (sequenced_of_sound h.sound.skeleton) hsucceeds e.now) rfl, hresume]
  obtain ⟨r, hr, hleaves⟩ := @row_written _ _ _ h write hheld.2
  rw [hadvance]
  refine ⟨_, h.put rfl hput rfl rfl (fun hw => ?_) h.owned (fun events hs => ?_), ?_⟩
  · split at hw <;> cases hw
  · rw [hp] at hs
    obtain ⟨hwritten, context, hcontext, hdecided⟩ := hs
    have hnow : a.written ++ [(a.state.step t.server (.work t.i draw)).db.agentRuns.find? e.run.runId] =
      [some r] := by
      rw [hwritten, hput]
      exact congrArg (fun x => [x]) hr
    have hstage : ∃ context write r, a.context = some context ∧ reference t.server.platform t.run t.now
        context.assistantParticipantId t.ending t.values a.seen = some (events, write) ∧
        a.written ++ [(a.state.step t.server (.work t.i draw)).db.agentRuns.find? e.run.runId] = [some r] ∧
          write.Leaves r :=
      ⟨context, write, r, hcontext, hdecided, hnow, hleaves⟩
    split <;> exact hstage
  · by_cases hloop : place = .loop
    · refine Or.inl ?_
      rw [hp, hloop]
      exact Nat.le_refl _
    · refine Or.inr ?_
      change (if place = .loop then Phase.leaving else .returned) = _
      rw [if_neg hloop]

lemma own_returned (hp : e.phase = .returned) :
    ∃ e', Going t (a.advance t.server t.i t.ending draw) e' ∧
      Advances a (a.advance t.server t.i t.ending draw) e e' := by
  have hadvance : a.advance t.server t.i t.ending draw = a.act t.server (.work t.i draw) := by
    rw [advance_eq h, hp]
  have hcall : e.call draw = none := by rw [Execution.call, hp]
  have hsame : a.act t.server (.work t.i draw) = a := by
    rw [act]
    simp only [State.step, h.execution, hcall]
  rw [hadvance, hsame]
  exact ⟨e, h, Or.inr hp⟩

theorem own_turn (hu : a.Undisturbed t.server t.i t.run.runId (.own draw)) :
    ∃ e', Going t (a.advance t.server t.i t.ending draw) e' ∧
      Advances a (a.advance t.server t.i t.ending draw) e e' := by
  have hstep : e.phase.Succeeds e.run a.state.db draw := hu e h.execution
  obtain ⟨events, -, hs⟩ := h.stage
  cases hp : e.phase with
  | loading =>
    rw [hp] at hstep
    exact own_loading h draw hp hstep
  | pulling context =>
    cases hleft : a.left with
    | nil => exact own_ending h draw hp hleft
    | cons value left => exact own_pulling h draw hp hleft
  | received context value => exact own_received h draw hp
  | materializing context event => exact own_materializing h draw hp
  | appending context event =>
    rw [hp] at hstep
    exact own_appending h draw hp hstep
  | ended => exact own_ended h draw hp
  | writing write place => exact own_writing h draw hp
  | leaving => exact own_settling h draw (Or.inr hp)
  | catching => exact own_settling h draw (Or.inl hp)
  | handling => exact own_handling h draw hp
  | returned => exact own_returned h draw hp
  | stopping | rejected | crashed =>
    rw [hp] at hs
    exact hs.elim

end Own

theorem other_turn (h : Going t a e) {action : Action} (hsp : a.state.Spares t.server t.i t.run.runId action) :
    ∃ e', Going t (a.act t.server action) e' ∧ e'.phase = e.phase := by
  have hid : e.run.runId = t.run.runId := congrArg AgentRun.runId h.run
  obtain ⟨e', he', hsame⟩ := @execution_spared t.server _ _ _ _ _ h.sound h.execution hid
    (fun hw => h.run ▸ (h.held hw).2) hsp
  obtain ⟨events, hevents, hs⟩ := h.stage
  have hact : (a.act t.server action).state = a.state.step t.server action := rfl
  have hpublished : (a.act t.server action).state.eventsOf t.run.runId = t.before ++ events :=
    (eventsOf_spared h.sound hsp).trans hevents
  rcases hsame with rfl | ⟨rfl, hidle⟩
  · refine ⟨e', h.step hact he' rfl rfl (fun hw => ?_) h.owned ⟨events, hpublished, ?_⟩, rfl⟩
    · obtain ⟨haborted, hrunning⟩ := h.held hw
      exact ⟨haborted, running_spared h.sound hsp hrunning⟩
    · exact hs
  · refine ⟨e.abort, h.step hact he' rfl rfl (fun hw => ?_) h.owned ⟨events, hpublished, ?_⟩, rfl⟩
    · rw [show e.abort.phase = e.phase from rfl, hidle] at hw
      cases hw
    · exact hs

lemma returned_of_rank (h : Going t a e) (hr : rank a.left.length e.phase = 0) : e.phase = .returned := by
  obtain ⟨events, -, hs⟩ := h.stage
  cases hp : e.phase with
  | returned => rfl
  | stopping | rejected | crashed =>
    rw [hp] at hs
    exact hs.elim
  | writing write place =>
    rw [hp] at hr
    cases place <;> cases hr
  | _ =>
    rw [hp] at hr
    simp [rank] at hr

theorem going_exec {turns : List Turn} (h : Going t a e)
    (hu : Transition.Along (Attempt.step t.server t.i t.ending)
      (Attempt.Undisturbed t.server t.i t.run.runId) a turns) :
    ∃ e', Going t (Transition.exec (Attempt.step t.server t.i t.ending) a turns) e' ∧ (e'.phase = .returned ∨
      rank (Transition.exec (Attempt.step t.server t.i t.ending) a turns).left.length e'.phase +
        turns.countP Turn.isOwn ≤ rank a.left.length e.phase) := by
  induction turns generalizing a e with
  | nil => exact ⟨e, h, Or.inr (Nat.le_refl _)⟩
  | cons turn turns ih =>
    cases turn with
    | own draw =>
      obtain ⟨e₁, h₁, hadvances⟩ := own_turn h draw hu.1
      obtain ⟨e₂, h₂, hrank⟩ := ih h₁ hu.2
      refine ⟨e₂, h₂, ?_⟩
      rcases hrank with hreturned | hle
      · exact Or.inl hreturned
      · rcases hadvances with hlt | hover
        · refine Or.inr ?_
          rw [List.countP_cons_of_pos rfl]
          exact Nat.le_trans (Nat.succ_le_succ hle) hlt
        · refine Or.inl (returned_of_rank h₂
            (Nat.le_zero.mp (Nat.le_trans (Nat.le_add_right _ _) (Nat.le_trans hle ?_))))
          rw [hover]
          exact Nat.le_refl _
    | other action =>
      obtain ⟨e₁, h₁, hphase⟩ := other_turn h hu.1
      obtain ⟨e₂, h₂, hrank⟩ := ih h₁ hu.2
      refine ⟨e₂, h₂, hrank.imp_right fun hle => ?_⟩
      rw [hphase] at hle
      exact hle

lemma going_begin {server : Deployment} {s : State} (hs : s.Sound) (hn : Numbered s.db) {process : ℕ}
    {options : RunWorker.Options} {order : Arrangement AgentRun} {now : Timestamp} {run : AgentRun}
    (hc : ((RunWorker.claim options order now).run s.db).1 = .ok (some run)) (values : List ConnectorValue)
    (ending : Ending) : ∃ e, Going ⟨server, s.executions.length, run, now, ending, values, s.eventsOf run.runId⟩
      (Attempt.begin server s process options order now values) e ∧ e.phase = .loading := by
  have hquery : (RunWorker.claim options order now).run s.db = (.ok none, s.db) ∨ _ := run_claim now options order
  rcases hquery with hnone | ⟨r, hm, -, hclaimed⟩
  · rw [hnone] at hc
    cases hc
  rw [hclaimed] at hc
  cases hc
  have hrun : (body server (.claim options order now)).run s.db = _ := Program.run_map _ _ _
  rw [hclaimed] at hrun
  have hstep : s.step server (.claim process options order now true) =
      s.begin process options now true (RunWorker.startAttempt options now r) { s.db with
        agentRuns := s.db.agentRuns.update (RunWorker.isRun r.runId) (RunWorker.startAttempt options now)
          fun _ => rfl } := by
    simp only [State.step, hrun]
    rfl
  have hfind : (s.db.agentRuns.update (RunWorker.isRun r.runId) (RunWorker.startAttempt options now)
    fun _ => rfl).find?
      r.runId = some (RunWorker.startAttempt options now r) := by
    refine (Table.find?_update _ _ _ _ _).trans ?_
    rw [Table.find?_key hm]
    exact congrArg some (if_pos (decide_eq_true rfl))
  have hbegin : (Attempt.begin server s process options order now values).state =
      s.step server (.claim process options order now true) := rfl
  refine ⟨⟨process, options, now, RunWorker.startAttempt options now r, false, .loading⟩, ?_, rfl⟩
  refine ⟨hbegin ▸ hs.step _, hbegin ▸ (leaves_step hs _).numbered hs hn, ?_, rfl, rfl, fun _ => ⟨rfl, ?_⟩,
    fun _ hc => ?_,
    [], ?_, rfl, rfl, rfl, rfl⟩
  · rw [hbegin, hstep]
    exact List.getElem?_concat_length
  · rw [hbegin, hstep]
    exact ⟨_, hfind, rfl, rfl⟩
  · cases hc
  · rw [hbegin, hstep]
    exact (List.append_nil _).symm

end Attempt

section Theorem

variable (server : Deployment) (principals : Table Principal.principalId)
  (browserSessions : Table BrowserSession.sessionId) (bootstraps : Table SessionBootstrapIdempotency.key)

theorem execution_matches_reference (earlier : List Action) (process : ℕ) (options : RunWorker.Options)
    (order : Arrangement AgentRun) (now : Timestamp) (run : AgentRun) (values : List ConnectorValue)
    (ending : Ending)
    (turns : List Turn)
    (hclaim : ((RunWorker.claim options order now).run
      (reach server principals browserSessions bootstraps earlier).db).1 = .ok (some run))
    (hturns : Transition.Along
      (Attempt.step server (reach server principals browserSessions bootstraps earlier).executions.length ending)
      (Attempt.Undisturbed server
        (reach server principals browserSessions bootstraps earlier).executions.length run.runId)
      (Attempt.begin server (reach server principals browserSessions bootstraps earlier) process options
        order now values)
      turns) :
    let s := reach server principals browserSessions bootstraps earlier
    let a := Transition.exec (Attempt.step server s.executions.length ending)
      (Attempt.begin server s process options order now values) turns
    ∃ e, a.state.executions[s.executions.length]? = some e ∧
      (4 * values.length + 5 ≤ turns.countP Turn.isOwn → e.phase = .returned) ∧
      (e.phase = .returned → ∃ context events write r, a.context = some context ∧
        reference server.platform run now context.assistantParticipantId ending values a.seen =
          some (events, write) ∧
        a.state.eventsOf run.runId = s.eventsOf run.runId ++ events ∧ a.written = [some r] ∧ write.Leaves r) := by
  have hsound := sound_reach server principals browserSessions bootstraps earlier
  have hnumbered := numbered_reach server principals browserSessions bootstraps earlier
  obtain ⟨e₀, h₀, hp₀⟩ := @Attempt.going_begin server _ hsound hnumbered process _ _ _ _ hclaim values ending
  obtain ⟨e, h, hrank⟩ := Attempt.going_exec h₀ hturns
  refine ⟨e, h.execution, fun hcount => ?_, fun hp => ?_⟩
  · refine hrank.elim id fun hle => Attempt.returned_of_rank h ?_
    rw [hp₀] at hle
    change _ ≤ 4 * values.length + 5 at hle
    omega
  · obtain ⟨events, hevents, hs⟩ := h.stage
    rw [hp] at hs
    obtain ⟨context, write, r, hcontext, href, hwritten, hleaves⟩ := hs
    exact ⟨context, events, write, r, hcontext, href, hevents, hwritten, hleaves⟩

end Theorem

section Scenario

instance (run : AgentRun) (db : Tables) (draw : Draw) : (phase : Phase) → Decidable (phase.Succeeds run db draw)
  | .loading => inferInstanceAs (Decidable (_ = true))
  | .appending .. => inferInstanceAs (Decidable (db.conversationEvents.find? draw.eventId = none))
  | .pulling _ | .received .. | .stopping | .materializing .. | .ended | .writing
      .. | .leaving | .catching | .handling
  | .returned | .rejected | .crashed => .isTrue trivial

instance (i : ℕ) (a : Attempt) (draw : Draw) : Decidable (a.Ready i draw) :=
  inferInstanceAs (Decidable (∀ e ∈ a.state.executions[i]?, e.phase.Succeeds e.run a.state.db draw))

lemma along_own {server : Deployment} {i : ℕ} {ending : Ending} (runId : Id) {draws : List Draw} {a : Attempt}
    (h : Transition.Along (fun a draw => Attempt.advance server i ending a draw) (Attempt.Ready i) a draws) :
    Transition.Along (Attempt.step server i ending) (Attempt.Undisturbed server i runId) a (draws.map .own) := by
  induction draws generalizing a with
  | nil => trivial
  | cons draw draws ih => exact ⟨h.1, ih h.2⟩

def taken : AgentRun where
  runId := "run"
  tenantId := "tenant"
  siteId := "site"
  conversationId := "conversation"
  triggerMessageId := "message"
  triggerType := .message
  assistantMessageId := "answer"
  agentRef := "agent"
  status := .running
  attempt := 1
  availableAt := 0
  claimedAt := some 0
  leaseExpiresAt := some 1000000
  cancelRequestedAt := none
  errorCode := none
  createdAt := 0
  updatedAt := 0
  completedAt := none

def ofRun (messageId : Option Id) (body : EventBody) : ConnectorEvent :=
  ⟨.public, "conversation", "run", messageId, body, true⟩

def yielded : List ConnectorValue :=
  [.event (ofRun (some "answer") .messageStarted), .event (ofRun none .runCompleted), .other]

def draws : List Draw :=
  (List.range 17).map fun k => ⟨⟨asStored, asStored⟩, if k < 5 then "first" else "second", 0⟩

theorem completed_run_matches : ∃ context events write r,
    reference lone.platform taken 0 context .ends yielded (Transition.exec (Attempt.step lone 0 .ends)
      (Attempt.begin lone (reached sent) 0 patience asStored 0 yielded) (draws.map .own)).seen =
      some (events, write) ∧
    (Transition.exec (Attempt.step lone 0 .ends) (Attempt.begin lone (reached sent) 0 patience asStored 0 yielded)
      (draws.map .own)).written = [some r] ∧ write.Leaves r := by
  have hclaim : ((RunWorker.claim patience asStored 0).run (reached sent).db).1 = .ok (some taken) :=
    by decide +kernel
  have hready : Transition.Along (fun a draw => Attempt.advance lone 0 .ends a draw) (Attempt.Ready 0)
      (Attempt.begin lone (reached sent) 0 patience asStored 0 yielded) draws := by decide +kernel
  obtain ⟨e, -, hover, hmatches⟩ :=
    execution_matches_reference lone visitors ∅ ∅ sent 0 patience asStored 0 taken yielded
    .ends (draws.map .own) hclaim (along_own "run" hready)
  obtain ⟨context, events, write, r, -, href, -, hwritten, hleaves⟩ := hmatches (hover (by decide))
  exact ⟨context.assistantParticipantId, events, write, r, href, hwritten, hleaves⟩

def started : ConnectorEvent := ofRun (some "answer") .messageStarted

def unstorable : ConnectorEvent := ofRun (some "answer") (.messageDelta "\x00")

def finished : ConnectorEvent := ofRun none .runCompleted

/-- All three events are accepted and materialize, but the second cannot be stored. -/
theorem unstorable_delta_fails :
    let a := Transition.exec (Attempt.step lone 0 .ends) (Attempt.begin lone (reached sent) 0 patience asStored 0
      [.event started, .event unstorable, .event finished]) (draws.map .own)
    Transition.Along (Attempt.step lone 0 .ends) (Attempt.Undisturbed lone 0 "run")
      (Attempt.begin lone (reached sent) 0
      patience asStored 0 [.event started, .event unstorable, .event finished]) (draws.map .own) ∧
    (∀ event ∈ [started, unstorable, finished],
      acceptedEvent lone.platform (.event event) (runContext taken) = some event) ∧
    List.Forall₂ (fun event db => materializes taken 0 "assistant" event db = true) [started, unstorable] a.seen ∧
    (∀ db, materializes taken 0 "assistant" finished db = true) ∧
    a.state.eventsOf "run" = [started] ∧
    a.written.map (Option.map fun r => (r.status, r.errorCode)) =
      [some (.failed, some "CONNECTOR_EXECUTION_FAILED")] := by
  have hready : Transition.Along (fun a draw => Attempt.advance lone 0 .ends a draw) (Attempt.Ready 0)
      (Attempt.begin lone (reached sent) 0 patience asStored 0
        [.event started, .event unstorable, .event finished])
      draws := by decide +kernel
  refine ⟨along_own "run" hready, by decide +kernel, ?_, fun _ => rfl, by decide +kernel, by decide +kernel⟩
  decide +kernel

end Scenario

end ChatCore.Runs
