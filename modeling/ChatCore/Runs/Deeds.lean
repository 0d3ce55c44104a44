import ChatCore.Runs.Fencing

namespace ChatCore.Runs

open Protocol Relational Database Services

inductive Deed
  | created (handoff : Bool)
  | materialized (body : EventBody)
  | wrote (write : StatusWrite)
  | resumed

namespace Life

variable {s : State} {runId : Id} {a : Action} {l l' : Life} {i : ℕ} {e : Execution} {history : List Deed}

def deed (a : Action) (l l' : Life) : Option Deed := match a with
  | .visit .. => match l.run, l'.run with
    | none, some _ => some (.created !l'.handoffs.isEmpty)
    | some r, some r' => if r.status = .waitingForInput ∧ r'.status = .queued then some .resumed else none
    | _, none => none
  | .work i _ => match l.executions i, l'.executions i with
    | some e, some e' => match e.phase, e'.phase with
      | .materializing _ event, .appending .. => some (.materialized event.body)
      | .writing write _, .leaving | .writing write _, .returned => some (.wrote write)
      | _, _ => none
    | _, _ => none
  | _ => none

def record (a : Action) (l l' : Life) (history : List Deed) : List Deed := match deed a l l' with
  | none => history
  | some (.created handoff) => [.created handoff]
  | some d => d :: history

inductive Does (l l' : Life) : Option Deed → Prop
  | nothing (hr : l.run = none → l'.run = none) (hm : l'.message = l.message)
      (hh : l'.handoffs = l.handoffs) : Does l l' none
  | gone {d : Option Deed} (hr : l'.run = none) : Does l l' d
  | created (hm : l'.message = none) (hu : l'.handoffs.length ≤ 1) : Does l l'
      (some (.created !l'.handoffs.isEmpty))
  | materialized {run : AgentRun} {now : Timestamp} {participantId : Id} {body : EventBody} (l'' : Life)
      (h : Materialized run now participantId body l l'') (hr : l'.run = l.run) (hm : l'.message = l''.message)
      (hh : l'.handoffs = l''.handoffs) : Does l l' (some (.materialized body))
  | wrote {now : Timestamp} (write : StatusWrite) (hr : l.run = none → l'.run = none)
      (hm : l'.message = (l.effect now write).message) (hh : l'.handoffs = (l.effect now write).handoffs) :
      Does l l' (some (.wrote write))
  | resumed (hr : l.run ≠ none) (hm : l'.message = l.message)
      (hh : l'.handoffs = l.handoffs ∨ ∃ now, l'.handoffs = l.handoffs.map (StructuredInputService.deliver now)) :
      Does l l' (some .resumed)

lemma deed_visit {process : ℕ} {call : Call} {r r' : AgentRun} (hr : l.run = some r) (hr' : l'.run = some r')
    (hs : r'.status = .queued → r.status ≠ .waitingForInput) : deed (.visit process call) l l' = none := by
  simp only [deed, hr, hr']
  exact if_neg fun h => hs h.2 h.1

lemma deed_resumed {process : ℕ} {call : Call} {r r' : AgentRun} (hr : l.run = some r) (hr' : l'.run = some r')
    (hw : r.status = .waitingForInput) (hq : r'.status = .queued) : deed (.visit process call) l l' =
    some .resumed := by
  simp only [deed, hr, hr']
  exact if_pos ⟨hw, hq⟩

lemma deed_work {draw : Draw} {e' : Execution} (hi : l.executions i = some e) (hi' : l'.executions i = some e')
    (hm : ∀ context event, e.phase ≠ .materializing context event) (hw : e.phase.writes = false) :
    deed (.work i draw) l l' = none := by
  simp only [deed, hi, hi']
  split
  · next h _ => exact absurd h (hm _ _)
  · next h _ =>
    rw [h] at hw
    cases hw
  · next h _ =>
    rw [h] at hw
    cases hw
  · rfl

lemma deed_same (hr : l'.run = l.run)
    (he : ∀ j, (l'.executions j).map Execution.phase = (l.executions j).map Execution.phase) :
    deed a l l' = none := by
  cases a with
  | visit process call =>
    cases hrun : l.run with
    | none => simp only [deed, hr, hrun]
    | some r =>
      refine deed_visit hrun (hr.trans hrun) fun hq hw => ?_
      rw [hq] at hw
      cases hw
  | work i draw =>
    have hphase := he i
    cases hi : l.executions i with
    | none => simp only [deed, hi]
    | some e =>
      rw [hi, Option.map_some, Option.map_eq_some_iff] at hphase
      obtain ⟨e', hi', hsame⟩ := hphase
      simp only [deed, hi, hi', hsame]
      cases e.phase <;> rfl
  | sweep | request | claim | signal | renew | loseHeartbeat => rfl

lemma deed_materialized {draw : Draw} {context : RunWorker.RunContext} {event : ConnectorEvent}
    (hi : l.executions i = some e) (hp : e.phase = .materializing context event) :
    deed (.work i draw) l (l'.put i (e.goto (.appending context event))) = some (.materialized event.body) := by
  simp only [deed, hi, put_executions_self, hp, Execution.goto]

lemma deed_wrote {draw : Draw} {write : StatusWrite} {place : Place} (hi : l.executions i = some e)
    (hp : e.phase = .writing write place) :
    deed (.work i draw) l (l'.put i (e.goto (if place = .loop then .leaving else .returned))) =
      some (.wrote write) := by
  simp only [deed, hi, put_executions_self, hp, Execution.goto]
  cases place <;> rfl

lemma deed_failed {draw : Draw} {thrown : Bool} (hi : l.executions i = some e) :
    deed (.work i draw) l (l.put i (e.goto (if thrown then .rejected else .catching))) = none := by
  simp only [deed, hi, put_executions_self, Execution.goto]
  cases thrown <;> cases e.phase <;> rfl

lemma decided_status (now : Timestamp) (r : AgentRun) : (Idempotency.decided now r).status = r.status ∨
    (Idempotency.decided now r).status = .cancelRequested ∨
      r.status = .queued ∧ (Idempotency.decided now r).status = .cancelled := by
  cases hs : r.status <;> simp [Idempotency.decided, hs, RunService.requestCancel, RunService.cancelQueued]

lemma not_materializing_of_asks (h : e.phase.asks = true) :
    (∀ context event, e.phase ≠ .materializing context event) ∧ e.phase.writes = false := by
  cases hp : e.phase <;> simp_all [Phase.asks, Phase.writes]

theorem does_step (hstep : Step s runId a l l') : Does l l' (deed a l l') := by
  have hsame : ∀ {l' : Life}, l'.run = l.run → l'.message = l.message → l'.handoffs = l.handoffs →
      deed a l l' = none → Does l l' (deed a l l') := by
    intro l' hr hm hh hd
    rw [hd]
    exact .nothing (fun hnone => hr.trans hnone) hm hh
  cases hstep with
  | idle => exact hsame rfl rfl rfl (deed_same rfl fun _ => rfl)
  | redacted => exact hsame rfl rfl rfl rfl
  | pruned i events hi => exact hsame rfl rfl rfl (by simp only [deed, hi])
  | forgotten => exact .gone rfl
  | created r handoffs inputs hr he ha hn hq h0 hl hi hu =>
    simp only [deed, hr]
    exact .created rfl hu
  | cancelled r now hr hs =>
    rw [deed_visit hr rfl]
    · exact .nothing (fun hnone => by rw [hr] at hnone; cases hnone) rfl rfl
    · intro hq hw
      rcases decided_status now r with h | h | ⟨h, -⟩
      · rw [hq, hw] at h
        cases h
      · rw [hq] at h
        cases h
      · rw [hw] at h
        cases h
  | resumed r i request now hr hw hi hp handoffs hh =>
    rw [deed_resumed hr rfl hw rfl]
    exact .resumed (fun hnone => by rw [hr] at hnone; cases hnone) rfl (hh.imp_right fun h => ⟨now, h⟩)
  | claimed r i e hr hs hc hi he ha hp => exact .nothing (fun hnone => by rw [hr] at hnone; cases hnone) rfl rfl
  | aborted i e hi =>
    refine hsame rfl rfl rfl (deed_same rfl fun j => ?_)
    by_cases hj : j = i
    · subst hj
      rw [put_executions_self, hi]
      rfl
    · rw [put_executions_ne hj]
  | renewed i e r hi hr => exact .nothing (fun hnone => by rw [hr] at hnone; cases hnone) rfl rfl
  | signalled i e hi hr => exact hsame rfl rfl rfl rfl
  | failed i e hi hc hx => exact hsame rfl rfl rfl (deed_failed hi)
  | loaded i e hi hp =>
    refine hsame rfl rfl rfl (deed_work hi put_executions_self ?_ ?_)
    · rw [hp]
      exact fun _ _ he => by cases he
    · rw [hp]
      rfl
  | answered i e e' r hi hp hr ha =>
    obtain ⟨hm, hw⟩ := not_materializing_of_asks hp
    exact hsame rfl rfl rfl (deed_work hi put_executions_self hm hw)
  | materialized i e hi hp hm =>
    rw [deed_materialized hi hp]
    exact .materialized _ hm hm.same.1 rfl rfl
  | appended i e r events p hi hp =>
    refine hsame rfl rfl rfl (deed_work hi put_executions_self ?_ ?_)
    · rw [hp]
      exact fun _ _ he => by cases he
    · rw [hp]
      rfl
  | @wrote draw write place _ i e hi hp hw =>
    rw [deed_wrote hi hp]
    refine .wrote write (fun hnone => ?_) rfl rfl
    cases write <;> exact congrArg (Option.map _) hnone

end Life

section Recorded

variable (server : Deployment) (runId : Id)

/-- A step, with what it does to the run. -/
def State.recorded (p : State × List Deed) (a : Action) : State × List Deed :=
  (p.1.step server a, Life.record a (p.1.life runId) ((p.1.step server a).life runId) p.2)

variable {server runId}

lemma exec_recorded (p : State × List Deed) (actions : List Action) :
    (Transition.exec (State.recorded server runId) p actions).1 = Transition.exec (State.step server)
      p.1 actions := by
  induction actions generalizing p with
  | nil => rfl
  | cons a actions ih => exact ih _

theorem recorded_invariant {P : State × List Deed → Action → Prop} {q : List Deed → Life → Prop}
    (hstep : ∀ s history a l', (s.life runId).Sound → P (s, history) a → q history (s.life runId) →
      Life.Step s runId a (s.life runId) l' → q (Life.record a (s.life runId) l' history) l')
    {s : State} (h : s.Sound) {history : List Deed} (hi : q history (s.life runId)) {actions : List Action}
    (ha : Transition.Along (State.recorded server runId) P (s, history) actions) :
    q (Transition.exec (State.recorded server runId) (s, history) actions).2
      ((Transition.exec (State.step server) s actions).life runId) := by
  have hboth : ∀ p a, p.1.Sound ∧ q p.2 (p.1.life runId) → P p a → (State.recorded server runId p a).1.Sound ∧
      q (State.recorded server runId p a).2 ((State.recorded server runId p a).1.life runId) := fun p a hp hP =>
    ⟨hp.1.step a, hstep p.1 p.2 a _ (hp.1.life runId) hP hp.2 (life_step hp.1 server a runId)⟩
  have hinv := ha.invariant (fun p => p.1.Sound ∧ q p.2 (p.1.life runId)) ⟨h, hi⟩ hboth
  rw [← exec_recorded (s, history) actions]
  exact hinv.2

end Recorded

end ChatCore.Runs
