import ChatCore.Runs.Attribution
import ChatCore.Services.ContactValues

namespace ChatCore.Runs

open Protocol Relational Database Services ContactValues

section Hiding

def Phase.hide : Phase → Phase
  | .pulling context => .pulling (hideContext context)
  | .received context value => .received (hideContext context) value
  | .materializing context event => .materializing (hideContext context) event
  | .appending context event => .appending (hideContext context) event
  | phase => phase

lemma Phase.isOver_hide (phase : Phase) : phase.hide.isOver = phase.isOver := by cases phase <;> rfl

lemma Phase.calls_hide (phase : Phase) : phase.hide.calls = phase.calls := by cases phase <;> rfl

lemma Phase.beats_hide (phase : Phase) : phase.hide.beats = phase.beats := by
  cases phase with
  | writing write place => cases place <;> rfl
  | _ => rfl

namespace Execution

/-- The execution without the contact values that its connector has been given. -/
def hide (e : Execution) : Execution := { e with phase := e.phase.hide }

variable (platform : Platform) (e : Execution)

lemma call_hide (draw : Draw) : e.hide.call draw = e.call draw := by
  rcases e with ⟨process, options, now, run, aborted, phase⟩
  cases phase <;> rfl

lemma raise_hide : e.raise.hide = e.hide.raise := by
  rcases e with ⟨process, options, now, run, aborted, phase⟩
  cases phase with
  | writing write place => cases place <;> rfl
  | _ => rfl

lemma examine_hide (context : RunWorker.RunContext) (value : ConnectorValue) (requested : Bool) :
    (e.examine platform context value requested).hide =
      e.hide.examine platform (hideContext context) value requested := by
  rcases e with ⟨process, options, now, run, aborted, phase⟩
  cases aborted with
  | true => rfl
  | false => cases requested with
    | true => rfl
    | false =>
      cases haccepted : acceptedEvent platform value ⟨run.conversationId, run.runId, run.assistantMessageId⟩ <;>
        simp [examine, hide, goto, eventContext, haccepted, Phase.hide]

lemma hide_afterAppend (context : RunWorker.RunContext) (body : EventBody) :
    (afterAppend context body).hide = afterAppend (hideContext context) body := by
  cases body <;> rfl

lemma resume_hide (result : Except ServerError Outcome) :
    (e.resume platform result).hide = e.hide.resume platform (result.map hideOutcome) := by
  cases result with
  | error error => exact e.raise_hide
  | ok outcome =>
    rcases e with ⟨process, options, now, run, aborted, phase⟩
    cases phase with
    | received context value => cases outcome with
      | answer requested => exact examine_hide ..
      | _ => rfl
    | appending context event => cases outcome with
      | appended persisted => exact congrArg (Execution.mk process options now run aborted) (hide_afterAppend ..)
      | _ => rfl
    | writing write place => cases place <;> cases outcome <;> rfl
    | _ => cases outcome <;> rfl

lemma react_hide (signal : Signal) : (e.react signal).hide = e.hide.react signal := by
  cases signal with
  | fault =>
    simp only [react, hide, Phase.calls_hide]
    split
    · exact e.raise_hide
    · rfl
  | crash =>
    simp only [react, hide, Phase.isOver_hide]
    split <;> rfl
  | _ =>
    rcases e with ⟨process, options, now, run, aborted, phase⟩
    cases aborted <;> cases phase <;> rfl

end Execution

namespace State

def hide (s : State) : State := { s with db := veil s.db, executions := s.executions.map Execution.hide }

lemma put_hide (s : State) (i : ℕ) (e : Execution) : (s.put i e).hide = s.hide.put i e.hide := by
  simp only [put, hide, Execution.hide, Phase.isOver_hide, List.map_set]
  rfl

lemma begin_hide (s : State) (process : ℕ) (options : RunWorker.Options) (now : Timestamp) (resolved : Bool)
    (run : AgentRun) (db : Tables) :
    (s.begin process options now resolved run db).hide =
      s.hide.begin process options now resolved run (veil db) := by
  have hphase : ∀ resolved : Bool,
      (if resolved then Phase.loading else .writing (.fail "CONNECTOR_NOT_FOUND") .unresolved).hide =
        if resolved then Phase.loading else .writing (.fail "CONNECTOR_NOT_FOUND") .unresolved := by
    intro resolved
    cases resolved <;> rfl
  simp only [begin, hide, List.map_append, List.map_cons, List.map_nil, List.length_map, Execution.hide, hphase]

lemma appendedBy_hide (result : Except ServerError Outcome) :
    appendedBy (result.map hideOutcome) = appendedBy result := by
  cases result with
  | error error => rfl
  | ok outcome => cases outcome <;> rfl

end State

end Hiding

section Steps

variable {server : Deployment} {s s' : State}

/-- The database breaks ties among the input requests of a run without a look at their values. -/
def Action.Unbiased : Action → Prop
  | .work _ draw => ContactValues.Unbiased draw.orders.inputs
  | _ => True

lemma unread_drawn {call : Call} {ids : List Id} (h : drawnIds call = some ids) (run : AgentRun)
    (orders : RunWorker.Orders) : call ≠ .loadContext run orders := by
  rintro rfl
  cases h

lemma db_alike (h : s.hide = s'.hide) : Alike veil s.db s'.db := congrArg State.db h

lemma fresh_alike (h : s.hide = s'.hide) (ids : List Id) : s.Fresh ids ↔ s'.Fresh ids := by
  change s.hide.Fresh ids ↔ s'.hide.Fresh ids
  rw [h]

lemma appended_alike (h : s.hide = s'.hide) : s.appended = s'.appended := by
  change s.hide.appended = s'.hide.appended
  rw [h]

lemma abort_alike {e e' : Execution} (he : e.hide = e'.hide) : e.abort.hide = e'.abort.hide := by
  change e.hide.abort = e'.hide.abort
  rw [he]

lemma executions_alike (h : s.hide = s'.hide) (i : ℕ) : (s.executions[i]? = none ∧ s'.executions[i]? = none) ∨
    ∃ e e', s.executions[i]? = some e ∧ s'.executions[i]? = some e' ∧ e.hide = e'.hide := by
  have hmap := congrArg (fun s : State => s.executions[i]?) h
  simp only [State.hide, List.getElem?_map] at hmap
  cases he : s.executions[i]? with
  | none =>
    rw [he] at hmap
    exact Or.inl ⟨rfl, Option.map_eq_none_iff.mp hmap.symm⟩
  | some e =>
    rw [he] at hmap
    obtain ⟨e', he', heq⟩ := Option.map_eq_some_iff.mp hmap.symm
    exact Or.inr ⟨e, e', rfl, he', heq.symm⟩

lemma put_alike (h : s.hide = s'.hide) {e e' : Execution} (he : e.hide = e'.hide) (i : ℕ) :
    (s.put i e).hide = (s'.put i e').hide := by
  rw [State.put_hide, State.put_hide, h, he]

lemma rows_alike (h : s.hide = s'.hide) {db db' : Tables} (hdb : Alike veil db db') :
    ({ s with db := db } : State).hide = ({ s' with db := db' } : State).hide := by
  simp only [State.hide, State.mk.injEq] at h ⊢
  exact ⟨hdb, h.2⟩

lemma visit_alike (h : s.hide = s'.hide) (process : ℕ) {call : Call} {ids : List Id}
    (hids : drawnIds call = some ids) :
    (s.visit server process call ids).hide = (s'.visit server process call ids).hide := by
  obtain ⟨hresult, hdb⟩ := (blind_body server (unread_drawn hids)).run (db_alike h)
  simp only [State.hide, State.mk.injEq] at h
  obtain ⟨-, hissued, hexecutions, hactive, hrequests, hclaimed, happended⟩ := h
  simp only [State.visit, State.hide, State.mk.injEq]
  exact ⟨hdb, by rw [hissued], hexecutions, hactive, by rw [hresult, hrequests], hclaimed, happended⟩

lemma begin_alike (h : s.hide = s'.hide) (process : ℕ) (options : RunWorker.Options) (now : Timestamp)
    (resolved : Bool) (run : AgentRun) {db db' : Tables} (hdb : Alike veil db db') :
    (s.begin process options now resolved run db).hide = (s'.begin process options now resolved run db').hide := by
  rw [State.begin_hide, State.begin_hide, h, hdb]

lemma work_alike (h : s.hide = s'.hide) {e e' : Execution} (he : e.hide = e'.hide) (i : ℕ) {call : Call}
    (hc : (Operation.traffic (.task (.call call))).Unbiased) :
    (s.work server i e call).hide = (s'.work server i e' call).hide := by
  obtain ⟨hresult, hdb⟩ := (twins_body server hc).run (db_alike h)
  refine put_alike ?_ ?_ i
  · simp only [State.hide, State.mk.injEq] at h ⊢
    obtain ⟨-, hissued, hexecutions, hactive, hrequests, hclaimed, happended⟩ := h
    refine ⟨hdb, hissued, hexecutions, hactive, hrequests, hclaimed, ?_⟩
    rw [happended, ← State.appendedBy_hide, hresult, State.appendedBy_hide]
  · rw [Execution.resume_hide, Execution.resume_hide, he, hresult]

lemma renew_alike (h : s.hide = s'.hide) {e e' : Execution} (he : e.hide = e'.hide) (i : ℕ)
    (dateNow : Timestamp) : (s.renew server i e dateNow).hide = (s'.renew server i e' dateNow).hide := by
  have hoptions : e.options = e'.options := by
    change e.hide.options = e'.hide.options
    rw [he]
  have hrun : e.run = e'.run := by
    change e.hide.run = e'.hide.run
    rw [he]
  have hblind : (body server (.renewLease e.options e.run dateNow)).Blind (Alike veil) :=
    blind_body server fun _ _ hc => by cases hc
  obtain ⟨hresult, hdb⟩ := hblind.run (db_alike h)
  have hrows := rows_alike h hdb
  simp only [State.renew, ← hoptions, ← hrun, ← hresult]
  split
  · exact hrows
  · exact put_alike hrows (abort_alike he) i

lemma beats_alike {e e' : Execution} (he : e.hide = e'.hide) : e.phase.beats = e'.phase.beats := by
  rw [← Phase.beats_hide, ← Phase.beats_hide e'.phase]
  exact congrArg (fun e : Execution => e.phase.beats) he

lemma call_alike {e e' : Execution} (he : e.hide = e'.hide) (draw : Draw) : e.call draw = e'.call draw := by
  rw [← Execution.call_hide, he, Execution.call_hide]

lemma unbiased_call {e : Execution} {draw : Draw} {call : Call} (hcall : e.call draw = some call)
    (h : ContactValues.Unbiased draw.orders.inputs) : (Operation.traffic (.task (.call call))).Unbiased := by
  rcases e with ⟨process, options, now, run, aborted, phase⟩
  cases phase with
  | loading =>
    obtain rfl := Option.some.inj hcall
    exact h
  | writing write place =>
    obtain rfl := Option.some.inj hcall
    cases write <;> trivial
  | received | ended | handling | materializing | appending =>
    obtain rfl := Option.some.inj hcall
    trivial
  | _ => cases hcall

theorem step_alike (h : s.hide = s'.hide) {a : Action} (ha : a.Unbiased) :
    (s.step server a).hide = (s'.step server a).hide := by
  cases a with
  | visit process call =>
    simp only [State.step]
    cases hids : drawnIds call with
    | none => exact h
    | some ids =>
      have hfresh := fresh_alike h ids
      by_cases hf : s.Fresh ids
      · simp only [if_pos hf, if_pos (hfresh.mp hf)]
        exact visit_alike h process hids
      · simp only [if_neg hf, if_neg (mt hfresh.mpr hf)]
        exact h
  | sweep policy orders now => exact rows_alike h ((blind_sweep server policy orders now).run (db_alike h)).2
  | request process runId =>
    have hrequests : s.requests = s'.requests := by
      change s.hide.requests = s'.hide.requests
      rw [h]
    have hactive : s.active = s'.active := by
      change s.hide.active = s'.hide.active
      rw [h]
    have hdone : ({ s with requests := s.requests.erase (process, runId) } : State).hide =
        ({ s' with requests := s'.requests.erase (process, runId) } : State).hide := by
      simp only [State.hide, State.mk.injEq, hrequests] at h ⊢
      exact ⟨h.1, h.2.1, h.2.2.1, h.2.2.2.1, trivial, h.2.2.2.2.2⟩
    simp only [State.step, ← hrequests]
    rw [← hrequests] at hdone
    split
    · cases hi : s.active process runId with
      | none =>
        rw [hactive] at hi
        simp only [hi, Option.bind_none]
        exact hdone
      | some i =>
        rw [hactive] at hi
        simp only [hi, Option.bind_some]
        rcases executions_alike h i with ⟨hs, hs'⟩ | ⟨e, e', hs, hs', he⟩
        · simp only [hs, hs', Option.map_none]
          exact hdone
        · simp only [hs, hs', Option.map_some]
          exact put_alike hdone (abort_alike he) i
    · exact h
  | claim process options order now resolved =>
    have hblind : (body server (.claim options order now)).Blind (Alike veil) :=
      blind_body server fun _ _ hc => by cases hc
    obtain ⟨hresult, hdb⟩ := hblind.run (db_alike h)
    simp only [State.step]
    generalize (body server (.claim options order now)).run s.db = x at hresult hdb ⊢
    generalize (body server (.claim options order now)).run s'.db = x' at hresult hdb ⊢
    obtain ⟨result, db⟩ := x
    obtain ⟨result', db'⟩ := x'
    obtain rfl : result = result' := hresult
    cases result with
    | error error => exact h
    | ok outcome => cases outcome with
      | claimed run => cases run with
        | none => exact h
        | some run => exact begin_alike h process options now resolved run hdb
      | _ => exact h
  | work i draw =>
    simp only [State.step]
    rcases executions_alike h i with ⟨hs, hs'⟩ | ⟨e, e', hs, hs', he⟩
    · rw [hs, hs']
      exact h
    · simp only [hs, hs', ← call_alike he]
      cases hcall : e.call draw with
      | none => exact h
      | some call => exact work_alike h he i (unbiased_call hcall ha)
  | signal i signal =>
    simp only [State.step]
    rcases executions_alike h i with ⟨hs, hs'⟩ | ⟨e, e', hs, hs', he⟩
    · rw [hs, hs']
      exact h
    · simp only [hs, hs']
      refine put_alike h ?_ i
      rw [Execution.react_hide, Execution.react_hide, he]
  | renew i dateNow =>
    simp only [State.step]
    rcases executions_alike h i with ⟨hs, hs'⟩ | ⟨e, e', hs, hs', he⟩
    · rw [hs, hs']
      exact h
    · simp only [hs, hs', ← beats_alike he]
      split
      · exact renew_alike h he i dateNow
      · exact h
  | loseHeartbeat i =>
    simp only [State.step]
    rcases executions_alike h i with ⟨hs, hs'⟩ | ⟨e, e', hs, hs', he⟩
    · rw [hs, hs']
      exact h
    · simp only [hs, hs', ← beats_alike he]
      split
      · exact put_alike h (abort_alike he) i
      · exact h

end Steps

section Activities

/-- What happens to the server: a step of its runs, or what else its routes ask of the database. -/
inductive Activity
  | act (action : Action)
  | ask (operation : Operation)

def Activity.Unbiased : Activity → Prop
  | .act action => action.Unbiased
  | .ask _ => True

/-- The calls of the visitors' services, of the workers and of the sweeps are actions. -/
def asks : Operation → Bool
  | .traffic (.task _) => false
  | _ => true

variable {W : Type} (server : Deployment) (collation : Collation) (encoding : Encoding)
  (registry : AdminQueryService.Registry W)

def Activity.step (s : State) : Activity → State
  | .act action => s.step server action
  | .ask operation =>
      if asks operation then
        { s with db := ((operationBody server collation encoding registry operation).run s.db).2 }
      else s

/-- What visitors and operators are answered, and what a sweep returns. -/
def Activity.answer (s : State) : Activity → Option (Except ServerError (Answer W))
  | .act (.visit _ call) => match drawnIds call with
    | some ids =>
        if s.Fresh ids then some (((body server call).run s.db).1.map fun outcome => .served (.outcome outcome))
        else none
    | none => none
  | .act (.sweep policy orders now) =>
      some (((taskBody server (.sweep policy orders now)).run s.db).1.map
        fun outcome => .served (.outcome outcome))
  | .act _ => none
  | .ask operation =>
      if asks operation then some ((operationBody server collation encoding registry operation).run s.db).1
      else none

def answers (s : State) : List Activity → List (Except ServerError (Answer W))
  | [] => []
  | a :: rest => (a.answer server collation encoding registry s).toList ++
      answers (a.step server collation encoding registry s) rest

variable {server collation encoding registry} {s s' : State}

lemma activity_alike (h : s.hide = s'.hide) {a : Activity} (ha : a.Unbiased) :
    (a.step server collation encoding registry s).hide = (a.step server collation encoding registry s').hide ∧
      a.answer server collation encoding registry s = a.answer server collation encoding registry s' := by
  cases a with
  | act action =>
    refine ⟨step_alike h ha, ?_⟩
    cases action with
    | visit process call =>
      simp only [Activity.answer]
      cases hids : drawnIds call with
      | none => rfl
      | some ids =>
        obtain ⟨hresult, -⟩ := (blind_body server (unread_drawn hids)).run (db_alike h)
        have hfresh := fresh_alike h ids
        by_cases hf : s.Fresh ids
        · simp only [if_pos hf, if_pos (hfresh.mp hf), hresult]
        · simp only [if_neg hf, if_neg (mt hfresh.mpr hf)]
    | sweep policy orders now =>
      obtain ⟨hresult, -⟩ := (blind_sweep server policy orders now).run (db_alike h)
      simp only [Activity.answer, hresult]
    | _ => rfl
  | ask operation =>
    simp only [Activity.step, Activity.answer]
    split
    · rename_i hasks
      have hother : ∀ task, operation ≠ .traffic (.task task) := by
        rintro task rfl
        cases hasks
      obtain ⟨hresult, hdb⟩ := (blind_operation server collation encoding registry hother).run (db_alike h)
      exact ⟨rows_alike h hdb, congrArg some hresult⟩
    · exact ⟨h, rfl⟩

lemma run_alike (h : s.hide = s'.hide) {activities : List Activity} (hunbiased : ∀ a ∈ activities, a.Unbiased) :
    answers server collation encoding registry s activities =
        answers server collation encoding registry s' activities ∧
      (Transition.exec (Activity.step server collation encoding registry) s activities).hide =
        (Transition.exec (Activity.step server collation encoding registry) s' activities).hide := by
  induction activities generalizing s s' with
  | nil => exact ⟨rfl, h⟩
  | cons a activities ih =>
    obtain ⟨ha, hrest⟩ := List.forall_mem_cons.mp hunbiased
    obtain ⟨hstep, hanswer⟩ := activity_alike h ha
    obtain ⟨hanswers, hlast⟩ := ih hstep hrest
    exact ⟨by rw [answers, answers, hanswer, hanswers], hlast⟩

/-- From databases that differ only in the contents of contact values, the same visits, queries, sweeps and steps
of the workers, whose connectors yield the same, give the same answers, errors and events, and leave databases that
differ only there; but for the values in the requests of their connectors the workers are in the same state. -/
theorem contact_values_never_leak {W : Type} (server : Deployment) (collation : Collation) (encoding : Encoding)
    (registry : AdminQueryService.Registry W) (db db' : Tables) (h : veil db = veil db')
    (activities : List Activity) (hunbiased : ∀ a ∈ activities, a.Unbiased) :
    let s := Transition.exec (Activity.step server collation encoding registry) (State.initial db) activities
    let s' := Transition.exec (Activity.step server collation encoding registry) (State.initial db') activities
    answers server collation encoding registry (State.initial db) activities =
        answers server collation encoding registry (State.initial db') activities ∧
      s.appended = s'.appended ∧ veil s.db = veil s'.db ∧ s.hide = s'.hide := by
  intro s s'
  have hinitial : (State.initial db).hide = (State.initial db').hide := by
    simp only [State.initial, State.hide, h]
  obtain ⟨hanswers, hlast⟩ := @run_alike W server collation encoding registry _ _ hinitial _ hunbiased
  exact ⟨hanswers, appended_alike hlast, db_alike hlast, hlast⟩

end Activities

section Scenario

def awaiting (email : String) : Tables :=
  { emailed email with
    agentRuns := (∅ : Table AgentRun.runId).insert
      (MessageService.newRun ada "conversation" "question" "run" "answer" "agent" .agentEmailHandoff 0) }

def delivering : List Activity := [
  .act (.claim 0 patience asStored 0 true), .act (next 0 ""),
  .ask (.listMessages ada "conversation" ⟨none, 10⟩),
  .act (yields 0 none (.handoffCompleted "handoff")), .act (next 0 ""), .act (next 0 ""), .act (next 0 "event"),
  .act (.visit 1 (.replayEvents ada "conversation" none ⟨"stamp", 0⟩)),
  .ask (.adminHandoffs ⟨"tenant", [.read]⟩ ⟨none, none, none, none, none, none, 10⟩)]

/-- The contact values in the requests that connectors have been given. -/
def given (s : State) : List (Option String) :=
  s.executions.flatMap fun e => match e.phase.context? with
    | some context => context.request.resolvedInputs.map RunWorker.ResolvedInput.value
    | none => []

def delivered (email : String) : State :=
  Transition.exec (Activity.step lone binary burstEncoding noSites) (State.initial (awaiting email)) delivering

theorem delivering_confidential :
    (given (delivered "ada@example.com") = [some "ada@example.com"] ∧
      given (delivered "bob@example.com") = [some "bob@example.com"] ∧
      (delivered "ada@example.com").appended.length = 1) ∧
    answers lone binary burstEncoding noSites (State.initial (awaiting "ada@example.com")) delivering =
      answers lone binary burstEncoding noSites (State.initial (awaiting "bob@example.com")) delivering ∧
    (delivered "ada@example.com").appended = (delivered "bob@example.com").appended ∧
    veil (delivered "ada@example.com").db = veil (delivered "bob@example.com").db ∧
    (delivered "ada@example.com").hide = (delivered "bob@example.com").hide := by
  have halike : veil (awaiting "ada@example.com") = veil (awaiting "bob@example.com") := rfl
  refine ⟨by decide +kernel, contact_values_never_leak lone _ _ _ _ _ halike delivering fun a ha => ?_⟩
  simp only [delivering, List.mem_cons, List.not_mem_nil, or_false] at ha
  rcases ha with rfl | rfl | rfl | rfl | rfl | rfl | rfl | rfl | rfl
  · trivial
  · exact fun rows rows' h => h
  · trivial
  · trivial
  · exact fun rows rows' h => h
  · exact fun rows rows' h => h
  · exact fun rows rows' h => h
  · trivial
  · trivial

end Scenario

end ChatCore.Runs
