import ChatCore.Runs.Pausing

namespace ChatCore.Runs

open Protocol Relational Database Services

namespace Life

variable {s : State} {runId : Id} {a : Action} {l l' : Life} {i : ℕ} {e e' : Execution}

def Attended (l : Life) (p : ℕ → Bool) : Prop :=
  ∃ i e, p i = false ∧ l.executions i = some e ∧ e.phase.works = true

instance (s : State) (runId : Id) (p : ℕ → Bool) : Decidable ((s.life runId).Attended p) :=
  decidable_of_iff (∃ i ∈ List.range s.executions.length, p i = false ∧
    ∃ e ∈ (s.life runId).executions i, e.phase.works = true) <| by
    constructor
    · rintro ⟨i, -, hp, e, he, hw⟩
      exact ⟨i, e, hp, he, hw⟩
    · rintro ⟨i, e, hp, he, hw⟩
      have hlt := (List.getElem?_eq_some_iff.mp (life_executions.mp he).1).1
      exact ⟨i, List.mem_range.mpr hlt, hp, e, he, hw⟩

/-- Nobody cancels a run that is running while no execution works on it, and the last execution that works on a
run to be cancelled neither crashes nor fails where there is no handler left. -/
def Attends (s : State) (runId : Id) (l : Life) : Action → Prop
  | .visit process call => s.Selects runId (.visit process call) → ∀ r ∈ l.run, r.status = .running →
      l.Attended fun _ => false
  | .signal i .crash => ∀ r ∈ l.run, r.status = .cancelRequested → l.Attended fun j => decide (j = i)
  | .signal i .fault => ∀ e ∈ l.executions i, e.phase.exposed = true → ∀ r ∈ l.run, r.status = .cancelRequested →
      l.Attended fun j => decide (j = i)
  | _ => True

instance (s : State) (runId : Id) : (a : Action) → Decidable ((s.life runId).Attends s runId a)
  | .visit process call => inferInstanceAs (Decidable (s.Selects runId (.visit process call) →
      ∀ r ∈ (s.life runId).run, _ → (s.life runId).Attended fun _ => false))
  | .signal i .crash => inferInstanceAs (Decidable (∀ r ∈ (s.life runId).run, _ →
      (s.life runId).Attended fun j => decide (j = i)))
  | .signal i .fault => inferInstanceAs (Decidable (∀ e ∈ (s.life runId).executions i, _ →
      ∀ r ∈ (s.life runId).run, _ → (s.life runId).Attended fun j => decide (j = i)))
  | .signal _ (.yields _) | .signal _ .ends | .signal _ .throws | .signal _ .settles => .isTrue trivial
  | .sweep .. | .request .. | .claim .. | .work .. | .renew .. | .loseHeartbeat _ => .isTrue trivial

structure Watched (l : Life) : Prop where
  leased : ∀ r, l.run = some r → r.status = .running → r.leaseExpiresAt.isSome = true
  attended : ∀ r, l.run = some r → r.status = .cancelRequested → l.Attended fun _ => false

lemma Attended.put (h : l.Attended fun _ => false) (hi : l.executions i = some e)
    (hw : e.phase.works = true → e'.phase.works = true) : (l.put i e').Attended fun _ => false := by
  obtain ⟨j, x, -, hx, hworks⟩ := h
  by_cases hj : j = i
  · subst hj
    cases hi.symm.trans hx
    exact ⟨j, e', rfl, put_executions_self, hw hworks⟩
  · exact ⟨j, x, rfl, (put_executions_ne hj).trans hx, hworks⟩

lemma Attended.others (h : l.Attended fun j => decide (j = i)) : (l.put i e').Attended fun _ => false := by
  obtain ⟨j, x, hj, hx, hworks⟩ := h
  exact ⟨j, x, rfl, (put_executions_ne (of_decide_eq_false hj)).trans hx, hworks⟩

lemma Watched.put (h : l.Watched)
    (ha : ∀ r, l.run = some r → r.status = .cancelRequested → (l.put i e').Attended fun _ => false) :
    (l.put i e').Watched := ⟨h.leased, ha⟩

lemma Watched.go (h : l.Watched) (hi : l.executions i = some e)
    (hw : e.phase.works = true → e'.phase.works = true) : (l.put i e').Watched :=
  h.put fun r hr hs => (h.attended r hr hs).put hi hw

lemma watched_of_left (h : ∀ r, l.run = some r → r.status ≠ .running ∧ r.status ≠ .cancelRequested) : l.Watched :=
  ⟨fun r hr hs => absurd hs (h r hr).1, fun r hr hs => absurd hs (h r hr).2⟩

lemma works_stays {signal : Signal} {phase : Phase} (h : e.Reaction signal phase) (hc : signal ≠ .crash)
    (hf : signal = .fault → e.phase.exposed = false) (hw : e.phase.works = true) : phase.works = true := by
  cases h with
  | same => exact hw
  | faults => rw [hf rfl]; rfl
  | crashes => exact absurd rfl hc
  | returned h =>
    rw [h] at hw
    cases hw
  | received | ended | cancelsAtEnd | thrown | cancelThrows | cleanUpThrows | cancelled | cancelsInHandler
  | handles => rfl

lemma works_answered {answer : Bool} (h : e.Answered answer e') : e'.phase.works = true := by
  cases h <;> rfl

lemma works_afterAppend (context : RunWorker.RunContext) (body : EventBody) :
    (Execution.afterAppend context body).works = true := by
  cases body <;> rfl

lemma cancelling_of_decided {now : Timestamp} {r : AgentRun}
    (h : (Idempotency.decided now r).status = .cancelRequested) :
    r.status = .running ∨ r.status = .cancelRequested := by
  cases hs : r.status <;> simp_all [Idempotency.decided, RunService.cancelQueued]

theorem Watched.step (hc : l.Attends s runId a) (h : l.Watched) (hstep : Step s runId a l l') : l'.Watched := by
  cases hstep with
  | idle => exact h
  | pruned | redacted => exact { h with }
  | created r handoffs inputs hr he ha hn hq =>
    refine watched_of_left fun r' hr' => ?_
    cases hr'
    rw [hq]
    exact ⟨by decide, by decide⟩
  | forgotten => exact watched_of_left fun r hr => absurd hr (Option.some_ne_none r).symm
  | cancelled r now hr hs =>
    refine ⟨fun r' hr' hrunning => ?_, fun r' hr' hrequested => ?_⟩
    · cases hr'
      have hbefore := status_decided (Or.inl rfl) hrunning
      rw [Idempotency.decided, hbefore] at hrunning
      cases hrunning
    · cases hr'
      rcases cancelling_of_decided hrequested with hbefore | hbefore
      · exact hc hs r hr hbefore
      · exact h.attended r hr hbefore
  | resumed r i request now hr =>
    refine watched_of_left fun r' hr' => ?_
    cases hr'
    exact ⟨fun hs => (by cases hs), fun hs => (by cases hs)⟩
  | claimed r i e hr =>
    refine ⟨fun r' hr' _ => ?_, fun r' hr' hs => ?_⟩
    · cases hr'
      rfl
    · cases hr'
      cases hs
  | renewed i e r hi hr hs =>
    refine ⟨fun r' hr' _ => ?_, fun r' hr' hs' => ?_⟩
    · cases hr'
      rfl
    · cases hr'
      exact absurd (hs.symm.trans hs') (by decide)
  | aborted i e hi => exact h.go hi id
  | @signalled signal phase _ i e hi hr =>
    by_cases hcrash : signal = .crash
    · subst hcrash
      exact h.put fun r hrun hs => (hc r hrun hs).others
    · by_cases hfault : signal = .fault ∧ e.phase.exposed = true
      · obtain ⟨rfl, hexposed⟩ := hfault
        exact h.put fun r hrun hs => (hc e hi hexposed r hrun hs).others
      · exact h.go hi (works_stays hr hcrash fun hf => Bool.eq_false_of_not_eq_true fun hx => hfault ⟨hf, hx⟩)
  | failed i e hi hcalls hx =>
    refine h.put fun r hrun hs => (h.attended r hrun hs).put hi fun _ => ?_
    have hexposed : e.phase.exposed = false := Bool.eq_false_of_not_eq_true fun hexposed =>
      absurd ((hx hexposed).symm.trans hrun) (Option.some_ne_none r).symm
    rw [hexposed]
    rfl
  | loaded i e hi => exact h.go hi fun _ => rfl
  | answered i e e' r hi hp hr ha => exact h.go hi fun _ => works_answered ha
  | materialized i e hi hp hm =>
    obtain ⟨hrun, hexecutions, -, -⟩ := hm.same
    have hwatched : Watched _ :=
      ⟨fun r hr => h.leased r (hrun ▸ hr), fun r hr hs => by
        obtain ⟨j, x, hj, hx, hw⟩ := h.attended r (hrun ▸ hr) hs
        exact ⟨j, x, hj, hexecutions ▸ hx, hw⟩⟩
    rw [← hexecutions] at hi
    exact Watched.go hwatched hi fun _ => rfl
  | @appended draw context event _ i e r events p hi =>
    exact Watched.go (l := { l with events := events, appended := l.appended ++ [p] }) { h with } hi fun _ =>
      works_afterAppend context event.body
  | @wrote draw write place _ i e hi hp hw =>
    refine watched_of_left fun r' hr' => ?_
    cases write with
    | waitForInput =>
      obtain ⟨r, hr, rfl⟩ := Option.map_eq_some_iff.mp hr'
      obtain ⟨r₀, hr₀, hs⟩ := hw rfl
      cases hr.symm.trans hr₀
      rw [if_pos (decide_eq_true hs)]
      exact ⟨fun hs => (by cases hs), fun hs => (by cases hs)⟩
    | complete | fail | cancel =>
      obtain ⟨r, hr, rfl⟩ := Option.map_eq_some_iff.mp hr'
      exact ⟨fun hs => (by cases hs), fun hs => (by cases hs)⟩

end Life

lemma claimable_queued {options : RunWorker.Options} {now : Timestamp} {r : AgentRun} (hs : r.status = .queued)
    (ha : r.availableAt ≤ now) (hm : r.attempt < options.maxAttempts) :
    RunWorker.claimable options now r = true := by
  simp [RunWorker.claimable, hs, ha, hm]

lemma claimable_expired {options : RunWorker.Options} {now t : Timestamp} {r : AgentRun} (hs : r.status = .running)
    (hl : r.leaseExpiresAt = some t) (ht : t ≤ now) (ha : r.availableAt ≤ now)
    (hm : r.attempt < options.maxAttempts) :
    RunWorker.claimable options now r = true := by
  simp [RunWorker.claimable, hs, hl, ht, ha, hm]

section Reach

variable (server : Deployment)

/-- As long as runs to be cancelled are attended, a run that is not over is executed, waits for input, or can be
claimed later. -/
theorem unfinished_run_claimable (principals : Table Principal.principalId)
    (browserSessions : Table BrowserSession.sessionId) (bootstraps : Table SessionBootstrapIdempotency.key)
    (actions : List Action) (runId : Id)
    (hc : Transition.Along (State.step server) (fun s a => (s.life runId).Attends s runId a)
      (State.initial (unused principals browserSessions bootstraps)) actions)
    (r : AgentRun)
    (hr : (reach server principals browserSessions bootstraps actions).db.agentRuns.find? runId = some r)
    (hs : RunStatus.terminal r.status = false) (options : RunWorker.Options) (hm : r.attempt < options.maxAttempts)
    (clock : Timestamp) :
    (∃ e ∈ (reach server principals browserSessions bootstraps actions).executions,
      e.run.runId = runId ∧ e.phase.isOver = false) ∨
    r.status = .waitingForInput ∨ ∃ now, clock ≤ now ∧ RunWorker.claimable options now r = true := by
  have hinv : Life.Watched _ :=
    life_invariant (q := fun _ l => l.Watched) (fun s a l' _ _ hp h hstep => h.step hp hstep)
    (State.sound_initial principals browserSessions bootstraps)
    (Life.watched_of_left fun r hr => absurd hr (Option.some_ne_none r).symm) hc
  cases hstatus : r.status with
  | completed | failed | cancelled =>
    rw [hstatus] at hs
    cases hs
  | waitingForInput => exact Or.inr (Or.inl rfl)
  | queued =>
    exact Or.inr (Or.inr
      ⟨max clock r.availableAt, le_max_left _ _, claimable_queued hstatus (le_max_right _ _) hm⟩)
  | running =>
    obtain ⟨t, ht⟩ := Option.isSome_iff_exists.mp (hinv.leased r hr hstatus)
    refine Or.inr (Or.inr ⟨max clock (max t r.availableAt), le_max_left _ _, ?_⟩)
    have hlater := le_max_right clock (max t r.availableAt)
    exact claimable_expired hstatus ht ((le_max_left _ _).trans hlater) ((le_max_right _ _).trans hlater) hm
  | cancelRequested =>
    obtain ⟨i, e, -, hi, hw⟩ := hinv.attended r hr hstatus
    obtain ⟨he, hid⟩ := life_executions.mp hi
    refine Or.inl ⟨e, List.mem_of_getElem? he, hid, ?_⟩
    cases hphase : e.phase <;> rw [hphase] at hw <;> first | rfl | cases hw

variable (s : State) (process : ℕ) (scope : Scope) (conversationId requestId : Id)
  (request : StructuredInputService.SubmitStructuredInputRequest) (key : String) (now time : Timestamp)

/-- A submission that resolves a request queues its run, and a worker will claim it exactly if it has been
claimed less often than the worker allows. -/
theorem resolved_run_claimable (hs : Reachable server s) (i i' : StructuredInputRequest)
    (hi : s.db.structuredInputRequests.find? requestId = some i) (hp : i.status = .pending)
    (hi' : (s.step server (.visit process (.submitStructuredInput scope conversationId requestId request key now
      time))).db.structuredInputRequests.find? requestId = some i')
    (hp' : i'.status ≠ .pending) (options : RunWorker.Options) :
    ∃ r, (s.step server (.visit process (.submitStructuredInput scope conversationId requestId request key now
        time))).db.agentRuns.find? i.runId = some r ∧ r.status = .queued ∧
      ((∀ clock, r.availableAt ≤ clock → RunWorker.claimable options clock r = true) ↔
        s.claimed.count i.runId < options.maxAttempts) := by
  have hsound := hs.sound
  have hdrawn : drawnIds (.submitStructuredInput scope conversationId requestId request key now time) =
    some [] := rfl
  have hvisited := run_visit server hdrawn s.db
  have hstep : (s.step server
    (.visit process (.submitStructuredInput scope conversationId requestId request key now
      time))).db = ((body server
        (.submitStructuredInput scope conversationId requestId request key now time)).run s.db).2 :=
    congrArg State.db (if_pos ⟨List.nodup_nil, fun id hid => absurd hid List.not_mem_nil⟩)
  rw [hstep] at hi' ⊢
  generalize
    ((body server (.submitStructuredInput scope conversationId requestId request key now time)).run s.db).2 = b
    at hvisited hi' ⊢
  cases hvisited with
  | beside hb =>
    rw [hb.inputs] at hi'
    cases hi.symm.trans hi'
    exact absurd hp hp'
  | resumed hb =>
    obtain ⟨x, hx, -, -, ⟨r, hr, hwaiting⟩, hruns, -⟩ := hb.input
    cases hi.symm.trans hx
    obtain ⟨hmem, hid⟩ := Table.find?_eq_some.mp hr
    refine ⟨StructuredInputService.requeue now r, ?_, rfl, ?_⟩
    · rw [hruns]
      refine (s.db.agentRuns.find?_update _ (StructuredInputService.requeue now) (fun _ => rfl) i.runId).trans ?_
      rw [hr, Option.map_some, if_pos (by simp [hid, hwaiting])]
    · have hattempt : (StructuredInputService.requeue now r).attempt = s.claimed.count i.runId :=
        hid ▸ hsound.attempt r hmem
      constructor
      · intro hclaimable
        have hclaim := hclaimable _ (le_refl _)
        simp only [RunWorker.claimable, Bool.and_eq_true, decide_eq_true_eq] at hclaim
        exact hattempt ▸ hclaim.1.2
      · exact fun hm clock hclock => claimable_queued rfl hclock (hattempt ▸ hm)

end Reach

section Scenario

def abandoned : List Action := executing ++ [.signal 0 .crash, .visit 0 (cancelling "")]

theorem crashed_run_abandoned : ∃ r, (reached abandoned).db.agentRuns.find? "run" = some r ∧
    r.status = .cancelRequested ∧ r.attempt < patience.maxAttempts ∧
    (∀ e ∈ (reached abandoned).executions, e.phase.isOver = true) ∧
    ∀ (options : RunWorker.Options) (now : Timestamp), RunWorker.claimable options now r = false := by
  have hrun : ((reached abandoned).db.agentRuns.find? "run").map (fun r => (r.status, r.attempt)) =
      some (.cancelRequested, 1) := by decide +kernel
  obtain ⟨r, hr, heq⟩ := Option.map_eq_some_iff.mp hrun
  injection heq with hs ha
  refine ⟨r, hr, hs, by rw [ha]; decide, by decide +kernel, fun options now => ?_⟩
  simp [RunWorker.claimable, hs]

def interrupted : List Action := executing ++ [.visit 0 (cancelling "")]

theorem attended_run_executed : ∃ r, (reached interrupted).db.agentRuns.find? "run" = some r ∧
    ((∃ e ∈ (reached interrupted).executions, e.run.runId = "run" ∧ e.phase.isOver = false) ∨
      r.status = .waitingForInput ∨ ∃ now, 0 ≤ now ∧ RunWorker.claimable patience now r = true) := by
  have hrun : ((reached interrupted).db.agentRuns.find? "run").map (fun r => (r.status, r.attempt)) =
      some (.cancelRequested, 1) := by decide +kernel
  obtain ⟨r, hr, heq⟩ := Option.map_eq_some_iff.mp hrun
  injection heq with hs ha
  exact ⟨r, hr, unfinished_run_claimable lone visitors ∅ ∅ interrupted "run" (by decide +kernel) r hr
    (by rw [hs]; rfl)
    patience (by rw [ha]; decide) 0⟩

def refusing (requestId : Id) :
    Action := .visit 0 (.submitStructuredInput visitor "conversation" requestId .declined
  requestId 0 0)

/-- The run has been paused twice by workers that claim a run at most twice. -/
theorem answered_run_stuck :
    ((reached (asking "again")).db.structuredInputRequests.find? "again").map StructuredInputRequest.status =
      some .pending ∧
    ((reached (asking "again" ++ [refusing "again"])).db.structuredInputRequests.find? "again").map
      StructuredInputRequest.status = some .declined ∧
    ∃ r, (reached (asking "again" ++ [refusing "again"])).db.agentRuns.find? "run" = some r ∧ r.status = .queued ∧
      ∀ now, RunWorker.claimable patience now r = false := by
  refine ⟨by decide +kernel, by decide +kernel, ?_⟩
  have hrun : ((reached (asking "again" ++ [refusing "again"])).db.agentRuns.find? "run").map
      (fun r => (r.status, r.attempt)) = some (.queued, 2) := by decide +kernel
  obtain ⟨r, hr, heq⟩ := Option.map_eq_some_iff.mp hrun
  injection heq with hs ha
  refine ⟨r, hr, hs, fun now => ?_⟩
  simp [RunWorker.claimable, ha, patience]

theorem declined_run_claimable : ∃ r, ((reached waiting).step lone declining).db.agentRuns.find? "run" = some r ∧
    r.status = .queued ∧ ((∀ clock, r.availableAt ≤ clock → RunWorker.claimable patience clock r = true) ↔
      (reached waiting).claimed.count "run" < patience.maxAttempts) := by
  have hbefore : ((reached waiting).db.structuredInputRequests.find? "request").map
    (fun i => (i.status, i.runId)) =
      some (.pending, "run") := by decide +kernel
  have hafter : (((reached waiting).step lone declining).db.structuredInputRequests.find? "request").map
      StructuredInputRequest.status = some .declined := by decide +kernel
  obtain ⟨i, hi, heq⟩ := Option.map_eq_some_iff.mp hbefore
  obtain ⟨i', hi', hs'⟩ := Option.map_eq_some_iff.mp hafter
  injection heq with hs hrun
  rw [← hrun]
  exact resolved_run_claimable lone (reached waiting) 0 visitor "conversation" "request" .declined "" 0 0
    ⟨visitors, ∅, ∅, waiting, rfl⟩ i i' hi hs hi' (by rw [hs']; decide) patience

end Scenario

end ChatCore.Runs
