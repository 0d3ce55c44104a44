import ChatCore.Runs.Exclusive

namespace ChatCore.Runs

open Protocol Relational Database Services

def Phase.tries : Phase → Bool
  | .writing _ .unresolved | .writing _ .handler | .returned | .rejected | .crashed => false
  | _ => true

inductive State.Processed (server : Deployment) (s : State) : Except Unit Bool → Prop
  | idle (options : RunWorker.Options) (order : Arrangement AgentRun) (now : Timestamp)
      (h : ((RunWorker.claim options order now).run s.db).1 = .ok none) : Processed server s (.ok false)
  | refused (options : RunWorker.Options) (order : Arrangement AgentRun) (now : Timestamp) (e : ServerError)
      (h : ((RunWorker.claim options order now).run s.db).1 = .error e) : Processed server s (.error ())
  | returned (e : Execution) (he : e ∈ s.executions) (hp : e.phase = .returned) : Processed server s (.ok true)
  | rejected (e : Execution) (he : e ∈ s.executions) (hp : e.phase = .rejected) : Processed server s (.error ())

namespace RunWorker

/-- One turn of the loop of `RunWorker.run`: whether the signal is aborted before it, what `processNext` comes
to, and whether the signal is aborted during the delay. -/
structure Turn where
  aborted : Bool
  processed : Except Unit Bool
  woken : Bool

inductive Stopped
  | aborted
  | rejected
  deriving DecidableEq, Repr

def run : List Turn → Option Stopped
  | [] => none
  | turn :: turns =>
      if turn.aborted then some .aborted
      else match turn.processed with
        | .error _ => some .rejected
        | .ok true => run turns
        | .ok false => if turn.woken then some .aborted else run turns

lemma run_goes_on {turns : List Turn} (h : ∀ t ∈ turns, t.processed ≠ .error ()) :
    run turns ≠ some .rejected ∧ (run turns = some .aborted → ∃ t ∈ turns, t.aborted = true ∨ t.woken = true) := by
  induction turns with
  | nil => exact ⟨by simp [run], by simp [run]⟩
  | cons t turns ih =>
    obtain ⟨ht, hrest⟩ := List.forall_mem_cons.mp h
    obtain ⟨hrejected, haborted⟩ := ih hrest
    have hlater : run turns = some .aborted → ∃ u ∈ t :: turns, u.aborted = true ∨ u.woken = true := fun hr => by
      obtain ⟨u, hu, hstop⟩ := haborted hr
      exact ⟨u, List.mem_cons_of_mem _ hu, hstop⟩
    rw [run]
    split
    · exact ⟨by decide, fun _ => ⟨t, List.mem_cons_self .., Or.inl ‹_›⟩⟩
    · split
      · rename_i e he
        exact absurd he ht
      · exact ⟨hrejected, hlater⟩
      · split
        · exact ⟨by decide, fun _ => ⟨t, List.mem_cons_self .., Or.inr ‹_›⟩⟩
        · exact ⟨hrejected, hlater⟩

end RunWorker

namespace State

variable (server : Deployment) (s : State)

/-- No statement fails for a reason of its own, and no sweep deletes the run of an execution that may come to its
handler. -/
def Spared : Action → Prop
  | .signal _ .fault => False
  | .sweep policy orders now => ∀ e ∈ s.executions, e.phase.tries = true →
      ((s.step server (.sweep policy orders now)).db.agentRuns.find? e.run.runId).isSome = true
  | _ => True

instance : (a : Action) → Decidable (s.Spared server a)
  | .signal _ .fault => .isFalse id
  | .signal _ (.yields _) | .signal _ .ends | .signal _ .throws | .signal _ .settles | .signal _ .crash =>
    .isTrue trivial
  | .sweep policy orders now => inferInstanceAs (Decidable (∀ e ∈ s.executions, _ →
      ((s.step server (.sweep policy orders now)).db.agentRuns.find? e.run.runId).isSome = true))
  | .visit .. | .request .. | .claim .. | .work .. | .renew .. | .loseHeartbeat _ => .isTrue trivial

structure Surviving : Prop where
  rooted : ∀ e ∈ s.executions, e.phase.tries = true → (s.db.agentRuns.find? e.run.runId).isSome = true
  quiet : ∀ e ∈ s.executions, e.phase ≠ .rejected

end State

namespace Life

variable {s : State} {runId : Id} {a : Action} {l l' : Life}

lemma run_stays (h : Step s runId a l l') (hr : l.run.isSome = true)
    (ha : ∀ policy orders now, a ≠ .sweep policy orders now) : l'.run.isSome = true := by
  cases h with
  | idle | signalled | failed | loaded | answered | appended | pruned | aborted => exact hr
  | created | cancelled | resumed | claimed | renewed => rfl
  | redacted | forgotten => exact absurd rfl (ha _ _ _)
  | materialized i e hi hp hm => exact hm.same.1 ▸ hr
  | @wrote draw write place _ i e hi hp hw =>
    cases write <;> exact (Option.isSome_map ..).trans hr

end Life

section Survive

variable {server : Deployment} {s s' : State} {a : Action} {e e' : Execution} {i : ℕ}

def Outlives (s s' : State) : Prop := ∀ e' ∈ s'.executions, e'.phase ≠ .rejected ∧ (e'.phase.tries = true →
  (∃ e ∈ s.executions, e.run = e'.run ∧ e.phase.tries = true) ∨ (s'.db.agentRuns.find? e'.run.runId).isSome = true)

lemma State.Surviving.same (h : s.Surviving) (he : s'.executions = s.executions) : Outlives s s' := by
  intro e hm
  rw [he] at hm
  exact ⟨h.quiet e hm, fun ht => Or.inl ⟨e, hm, rfl, ht⟩⟩

lemma State.Surviving.put (h : s.Surviving) (he : s.executions[i]? = some e)
    (hs : s'.executions = s.executions.set i e')
    (hr : e'.run = e.run) (hq : e'.phase ≠ .rejected) (ht : e'.phase.tries = true → e.phase.tries = true) :
    Outlives s s' := by
  intro x hx
  rw [hs] at hx
  rcases List.mem_or_eq_of_mem_set hx with hx | rfl
  · exact ⟨h.quiet x hx, fun ht => Or.inl ⟨x, hx, rfl, ht⟩⟩
  · exact ⟨hq, fun htries => Or.inl ⟨e, List.mem_of_getElem? he, hr.symm, ht htries⟩⟩

lemma tries_reaction {signal : Signal} {phase : Phase} (h : e.Reaction signal phase) (hf : signal ≠ .fault)
    (hq : e.phase ≠ .rejected) : phase ≠ .rejected ∧ (phase.tries = true → e.phase.tries = true) := by
  cases h with
  | same => exact ⟨hq, id⟩
  | faults => exact absurd rfl hf
  | returned | crashes => exact ⟨by simp, fun ht => by cases ht⟩
  | received h | ended h | thrown h | cancelThrows h | cleanUpThrows h | cancelled h | handles h | cancelsAtEnd h
  | cancelsInHandler h =>
    refine ⟨by simp, fun _ => ?_⟩
    rw [h]
    rfl

lemma tries_of_asks {phase : Phase} (h : phase.asks = true) : phase.tries = true := by
  cases phase <;> first | rfl | cases h

lemma not_rejected_of_answered {answer : Bool} (h : e.Answered answer e') : e'.phase ≠ .rejected := by
  cases h <;> simp [Execution.goto]

lemma not_rejected_afterAppend (context : RunWorker.RunContext) (body : EventBody) :
    Execution.afterAppend context body ≠ .rejected := by
  cases body <;> simp [Execution.afterAppend]

lemma not_exposed (hs : s.Sound) (h : s.Surviving) (he : s.executions[i]? = some e) (hf : e.MayFail s.db) :
    e.phase.exposed = false ∧ e.phase.tries = true := by
  have hm := List.mem_of_getElem? he
  have hproper := hs.proper e hm
  have hrow := h.rooted e hm
  cases hp : e.phase with
  | writing write place =>
    rw [Execution.MayFail, hp] at hf
    rw [Execution.Proper, hp] at hproper
    cases write with
    | waitForInput =>
      subst hproper
      exact ⟨rfl, rfl⟩
    | complete | fail | cancel => exact absurd trivial hf
  | handling =>
    rw [Execution.MayFail, hp] at hf
    rw [hp, hf] at hrow
    exact absurd (hrow rfl) (by simp)
  | loading | pulling | received | stopping | materializing | appending | ended | leaving | catching =>
    exact ⟨rfl, rfl⟩
  | returned | rejected | crashed =>
    rw [Execution.MayFail, hp] at hf
    exact hf.elim

lemma State.Surviving.change (h : s.Surviving) (hs : s.Sound) (ha : s.Spared server a)
    (hc : Change server s a s') :
    Outlives s s' := by
  cases hc with
  | idle | visited | swept | dismissed | renewed => exact h.same rfl
  | @requested process runId i e hr hactive he =>
    exact h.put he rfl rfl (show e.phase ≠ .rejected from h.quiet e (List.mem_of_getElem? he)) id
  | @lapsed i e now he | @lost i e he =>
    exact h.put he rfl rfl (show e.phase ≠ .rejected from h.quiet e (List.mem_of_getElem? he)) id
  | @claimed process options order now resolved r hr =>
    intro x hx
    rcases List.mem_append.mp hx with hx | hx
    · exact ⟨h.quiet x hx, fun ht => Or.inl ⟨x, hx, rfl, ht⟩⟩
    · rw [List.mem_singleton.mp hx]
      refine ⟨by cases resolved <;> simp, fun _ => Or.inr ?_⟩
      have hfind := s.db.agentRuns.find?_update (RunWorker.isRun r.runId) _
        (RunWorker.startAttempt_runId options now)
        r.runId
      rw [Table.find?_key hr] at hfind
      exact (congrArg Option.isSome hfind).trans rfl
  | @signalled i e signal phase he hr =>
    have hfault : signal ≠ .fault := by
      rintro rfl
      exact ha
    obtain ⟨hq, ht⟩ := tries_reaction hr hfault (h.quiet e (List.mem_of_getElem? he))
    exact h.put he rfl rfl hq ht
  | failed he hf =>
    obtain ⟨hexposed, htries⟩ := not_exposed hs h he hf
    refine h.put he rfl rfl ?_ fun _ => htries
    simp [hexposed, Execution.goto]
  | loaded he hp => exact h.put he rfl rfl (by simp [Execution.goto]) fun _ => by rw [hp]; rfl
  | answered he hp hr hanswered =>
    exact h.put he rfl hanswered.run (not_rejected_of_answered hanswered) fun _ => tries_of_asks hp
  | materialized he hp => exact h.put he rfl rfl (by simp [Execution.goto]) fun _ => by rw [hp]; rfl
  | appended he hp => exact h.put he rfl rfl (not_rejected_afterAppend _ _) fun _ => by rw [hp]; rfl
  | @wrote i e draw write place he hp =>
    refine h.put he rfl rfl (by cases place <;> simp [Execution.goto]) fun ht => ?_
    cases place with
    | loop => rw [hp]; rfl
    | unresolved | afterLoop | handler => cases ht

theorem State.Surviving.step (h : s.Surviving) (hs : s.Sound) (ha : s.Spared server a) :
    (s.step server a).Surviving := by
  have hc : Change server s a (s.step server a) :=
    step_change (sequenced_of_sound hs.skeleton) (rooted_of_sound hs.skeleton) a
  have hout := h.change hs ha hc
  refine ⟨fun x hx ht => ?_, fun x hx => (hout x hx).1⟩
  rcases (hout x hx).2 ht with ⟨y, hy, hrun, htries⟩ | hrow
  · rw [← hrun]
    by_cases hsweep : ∃ policy orders now, a = .sweep policy orders now
    · obtain ⟨policy, orders, now, rfl⟩ := hsweep
      exact ha y hy htries
    · have hrow : (s.life y.run.runId).run.isSome = true := h.rooted y hy htries
      exact Life.run_stays (life_step hs server a y.run.runId) hrow fun policy orders now he =>
        hsweep ⟨policy, orders, now, he⟩
  · exact hrow

end Survive

section Reach

variable (server : Deployment) (principals : Table Principal.principalId)
  (browserSessions : Table BrowserSession.sessionId) (bootstraps : Table SessionBootstrapIdempotency.key)

lemma surviving_initial : (State.initial (unused principals browserSessions bootstraps)).Surviving :=
  ⟨fun _ he => absurd he List.not_mem_nil, fun _ he => absurd he List.not_mem_nil⟩

lemma not_error_of_surviving {s : State} (h : s.Surviving) {result : Except Unit Bool}
    (hp : s.Processed server result) :
    result ≠ .error () := by
  cases hp with
  | idle | returned => simp
  | rejected e he hp => exact absurd hp (h.quiet e he)
  | refused options order now e he =>
    have hclaim : (RunWorker.claim options order now).run s.db = (.ok none, s.db) ∨ _ :=
      run_claim now options order
    rcases hclaim with hrun | ⟨r, -, -, hrun⟩ <;> rw [hrun] at he <;> cases he

/-- As long as no sweep deletes the run of an execution that may come to its handler, no call of `processNext`
rejects, so that the loop of the worker stops only when its signal is aborted. -/
theorem worker_survives (actions : List Action)
    (hc : Transition.Along (State.step server) (fun s a => s.Spared server a)
      (State.initial (unused principals browserSessions bootstraps)) actions) :
    (∀ e ∈ (reach server principals browserSessions bootstraps actions).executions, e.phase ≠ .rejected) ∧
    ∀ turns : List RunWorker.Turn, (∀ turn ∈ turns, ∃ earlier later, actions = earlier ++ later ∧
        (reach server principals browserSessions bootstraps earlier).Processed server turn.processed) →
      RunWorker.run turns ≠ some .rejected ∧
      (RunWorker.run turns = some .aborted → ∃ turn ∈ turns, turn.aborted = true ∨ turn.woken = true) := by
  have hreach : ∀ earlier later, actions = earlier ++ later →
      (reach server principals browserSessions bootstraps earlier).Surviving := by
    rintro earlier later rfl
    have hinv := (Transition.along_append.mp hc).1.invariant (fun s => s.Sound ∧ s.Surviving)
      ⟨State.sound_initial principals browserSessions bootstraps,
        surviving_initial principals browserSessions bootstraps⟩
      fun s a hs ha => ⟨hs.1.step a, hs.2.step hs.1 ha⟩
    exact hinv.2
  refine ⟨(hreach actions [] (List.append_nil _).symm).quiet, fun turns hturns => ?_⟩
  refine RunWorker.run_goes_on fun turn ht => ?_
  obtain ⟨earlier, later, heq, hp⟩ := hturns turn ht
  exact not_error_of_surviving server (hreach earlier later heq) hp

end Reach

section Scenario

def swept : Action := .sweep ⟨1, 1⟩ ⟨asStored, asStored⟩ 100000000000

/-- The conversation is deleted while the connector works, and the connector throws. -/
theorem swept_run_rejects :
    ∃ e ∈ (reached (executing ++ [swept, .signal 0 .throws, .signal 0 .settles, next 0 ""])).executions,
    e.phase = .rejected := by
  decide +kernel

def survived : List Action := executing ++ [.signal 0 .throws, .signal 0 .settles, next 0 "", next 0 "", swept]

theorem throwing_connector_survived : (reached survived).executions.length = 1 ∧
    ∀ e ∈ (reached survived).executions, e.phase ≠ .rejected :=
  ⟨by decide +kernel, (worker_survives lone visitors ∅ ∅ _ (by decide +kernel)).1⟩

end Scenario

end ChatCore.Runs
