import ChatCore.Runs.EventLog

namespace ChatCore.Runs

open Protocol Relational Database Services

namespace Phase

def pauses : Phase → Bool
  | .appending _ event => match event.body with
    | .contactRequested .. => true
    | _ => false
  | .writing .waitForInput _ => true
  | _ => false

end Phase

namespace Life

variable {s : State} {runId : Id} {a : Action} {l l' : Life} {i : ℕ} {e e' : Execution}

/-- The run is paused only by the execution of its latest claim, and the request that a connector makes is new or
still pending. -/
def Pauses (l : Life) : Action → Prop
  | .work i _ => ∀ e ∈ l.executions i, match e.phase with
      | .writing .waitForInput _ => ∀ r ∈ l.run, e.run.attempt = r.attempt
      | .materializing _ event => match event.body with
        | .contactRequested requestId _ _ => ∀ x ∈ l.inputs, x.requestId = requestId → x.status = .pending
        | _ => True
      | _ => True
  | _ => True

instance (l : Life) : (a : Action) → Decidable (l.Pauses a)
  | .work i _ => @Option.decidableForallMem _ _ (fun e => match e.phase with
      | .writing .waitForInput _ => inferInstanceAs (Decidable (∀ r ∈ l.run, e.run.attempt = r.attempt))
      | .materializing _ ⟨_, _, _, _, .contactRequested requestId .., _⟩ =>
          inferInstanceAs (Decidable (∀ x ∈ l.inputs, x.requestId = requestId → _))
      | .materializing _ ⟨_, _, _, _, .runStarted _, _⟩ | .materializing _ ⟨_, _, _, _, .runCompleted, _⟩
      | .materializing _ ⟨_, _, _, _, .runFailed _, _⟩ | .materializing _ ⟨_, _, _, _, .messageStarted, _⟩
      | .materializing _ ⟨_, _, _, _, .messageDelta _, _⟩ | .materializing _ ⟨_, _, _, _, .messageCompleted _, _⟩
      | .materializing _ ⟨_, _, _, _, .toolStarted .., _⟩ | .materializing _ ⟨_, _, _, _, .toolCompleted _, _⟩
      | .materializing _ ⟨_, _, _, _, .toolFailed _, _⟩ | .materializing _ ⟨_, _, _, _, .citationAdded .., _⟩
      | .materializing _ ⟨_, _, _, _, .handoffRequested _, _⟩ | .materializing _
          ⟨_, _, _, _, .handoffCompleted _, _⟩
      | .writing .complete _ | .writing (.fail _) _ | .writing .cancel _ | .loading | .pulling _ | .received ..
      | .stopping | .appending .. | .ended | .leaving | .catching | .handling | .returned | .rejected
      | .crashed => .isTrue trivial) (l.executions i)
  | .visit .. | .sweep .. | .request .. | .claim .. | .signal .. | .renew .. | .loseHeartbeat _ => .isTrue trivial

def Asked (l : Life) : Prop := ∃ x ∈ l.inputs, x.status = .pending

structure Paused (l : Life) : Prop where
  waiting : ∀ r, l.run = some r → r.status = .waitingForInput → l.Asked
  asked : ∀ (i : ℕ) (e : Execution) (r : AgentRun), l.executions i = some e → l.run = some r →
    e.run.attempt = r.attempt → r.status = .running → e.phase.pauses = true → l.Asked
  values : ∀ x ∈ l.inputs, x.status = .pending → x.value = none

lemma Paused.put (h : l.Paused) (hi : l.executions i = some e) (hr : e'.run = e.run)
    (hp : e'.phase.pauses = true → e.phase.pauses = true ∨ l.Asked) : (l.put i e').Paused where
  waiting := h.waiting
  asked := by
    intro j x r hx hrun hattempt hs hpauses
    by_cases hj : j = i
    · subst hj
      rw [put_executions_self, Option.some.injEq] at hx
      subst hx
      rcases hp hpauses with hbefore | hasked
      · exact h.asked j e r hi hrun (hr ▸ hattempt) hs hbefore
      · exact hasked
    · exact h.asked j x r ((put_executions_ne hj).symm.trans hx) hrun hattempt hs hpauses
  values := h.values

lemma paused_of_left (hr : ∀ r, l'.run = some r → r.status ≠ .running ∧ r.status ≠ .waitingForInput)
    (hv : ∀ x ∈ l'.inputs, x.status = .pending → x.value = none) : l'.Paused where
  waiting := fun r hrun hs => absurd hs (hr r hrun).2
  asked := fun _ _ r _ hrun _ hs => absurd hs (hr r hrun).1
  values := hv

lemma asked_materialized {run : AgentRun} {now : Timestamp} {participantId : Id} {body : EventBody}
    (h : l.Asked) (hm : Materialized run now participantId body l l') : l'.Asked := by
  obtain ⟨x, hx, hs⟩ := h
  cases hm with
  | asked requestId prompt required y => exact ⟨x, List.mem_append_left _ hx, hs⟩
  | resumed | started | completed | requestedAgain | requested | askedAgain | finished | orphan | nothing =>
    exact ⟨x, hx, hs⟩

lemma values_materialized {run : AgentRun} {now : Timestamp} {participantId : Id} {body : EventBody}
    (h : l.Paused) (hm : Materialized run now participantId body l l') :
    ∀ x ∈ l'.inputs, x.status = .pending → x.value = none := by
  cases hm with
  | asked requestId prompt required y =>
    intro x hx hs
    rcases List.mem_append.mp hx with hx | hx
    · exact h.values x hx hs
    · rw [List.mem_singleton.mp hx]
      rfl
  | resumed | started | completed | requestedAgain | requested | askedAgain | finished | orphan | nothing =>
    exact h.values

lemma asked_of_contact {run : AgentRun} {now : Timestamp} {participantId : Id} {requestId : Id} {prompt : String}
    {required : Bool} (hr : l.run ≠ none) (hc : ∀ x ∈ l.inputs, x.requestId = requestId → x.status = .pending)
    (hm : Materialized run now participantId (.contactRequested requestId prompt required) l l') : l'.Asked := by
  cases hm with
  | askedAgain x prompt required y hx => exact ⟨x, hx, hc x hx rfl⟩
  | asked requestId prompt required y =>
    exact ⟨RunWorker.newInput run now requestId prompt required, List.mem_append_right _
      (List.mem_singleton_self _), rfl⟩
  | orphan _ hnone => exact absurd hnone hr
  | nothing _ _ _ _ hi => exact absurd rfl (hi requestId prompt required)

lemma pauses_reaction {signal : Signal} {phase : Phase} (h : e.Reaction signal phase) (hp : phase.pauses = true) :
    e.phase.pauses = true := by
  cases h with
  | same => exact hp
  | faults => split at hp <;> cases hp
  | received | ended | cancelsAtEnd | thrown | cancelThrows | cleanUpThrows | cancelled | returned
  | cancelsInHandler | handles | crashes => cases hp

lemma status_decided {now : Timestamp} {r : AgentRun} {status : RunStatus}
    (hs : status = .running ∨ status = .waitingForInput) (h : (Idempotency.decided now r).status = status) :
    r.status = status := by
  rcases decided_status now r with hsame | hrequested | ⟨-, hcancelled⟩
  · exact hsame.symm.trans h
  · rw [hrequested] at h
    rcases hs with rfl | rfl <;> cases h
  · rw [hcancelled] at h
    rcases hs with rfl | rfl <;> cases h

theorem Paused.step (hl : l.Sound) (hc : l.Pauses a) (h : l.Paused) (hstep : Step s runId a l l') : l'.Paused := by
  cases hstep with
  | idle => exact h
  | pruned => exact { h with }
  | created r handoffs inputs hr he ha hn hq h0 hlease hi =>
    refine paused_of_left (fun r' hr' => ?_) fun x hx hs => absurd hs (hi x hx)
    cases hr'
    rw [hq]
    exact ⟨by decide, by decide⟩
  | forgotten =>
    exact paused_of_left (fun r hr => absurd hr (Option.some_ne_none r).symm) fun x hx =>
      absurd hx List.not_mem_nil
  | cancelled r now hr =>
    refine ⟨fun r' hr' hs => ?_, fun j x r' hx hr' hattempt hs => ?_, h.values⟩
    · cases hr'
      exact h.waiting r hr (status_decided (Or.inr rfl) hs)
    · cases hr'
      exact h.asked j x r hx hr (hattempt.trans (attempt_decided now r)) (status_decided (Or.inl rfl) hs)
  | resumed r i request now hr hw hi hp handoffs hh =>
    refine paused_of_left (fun r' hr' => ?_) fun x hx hs => ?_
    · cases hr'
      exact ⟨fun hs => (by cases hs), fun hs => (by cases hs)⟩
    · obtain ⟨x', hx', rfl | rfl⟩ := of_mem_amend hx
      · cases request <;> cases hs
      · exact h.values x hx' hs
  | redacted q hq =>
    have hkeeps : l.Asked → Asked { l with inputs := amend q RetentionService.redact l.inputs } := by
      rintro ⟨x, hx, hs⟩
      refine ⟨x, List.mem_map.mpr ⟨x, hx, if_neg fun hqx => ?_⟩, hs⟩
      have hvalue := hq x hqx
      rw [h.values x hx hs] at hvalue
      cases hvalue
    refine ⟨fun r hr hs => hkeeps (h.waiting r hr hs), fun j x r hx hr hattempt hs hp => ?_, fun x hx hs => ?_⟩
    · exact hkeeps (h.asked j x r hx hr hattempt hs hp)
    · obtain ⟨x', hx', rfl | rfl⟩ := of_mem_amend hx
      · cases hs
      · exact h.values x hx' hs
  | claimed r i e hr hs' hclaim hi he ha hp =>
    refine ⟨fun r' hr' hs => ?_, fun j x r' hx hr' hattempt hs hpauses => ?_, h.values⟩
    · cases hr'
      cases hs
    · cases hr'
      by_cases hj : j = i
      · subst hj
        rw [put_executions_self, Option.some.injEq] at hx
        subst hx
        rcases hp with hp | hp <;> rw [hp] at hpauses <;> cases hpauses
      · rw [put_executions_ne hj] at hx
        have hle := hl.attempt j x r hx hr
        rw [hattempt] at hle
        exact absurd hle (Nat.not_succ_le_self _)
  | renewed i e r hi hr hs' ha =>
    refine ⟨fun r' hr' hs => ?_, fun j x r' hx hr' hattempt hs hp => ?_, h.values⟩
    · cases hr'
      exact h.waiting r hr hs
    · cases hr'
      exact h.asked j x r hx hr hattempt hs hp
  | aborted i e hi => exact h.put hi rfl Or.inl
  | signalled i e hi hr => exact h.put hi rfl fun hp => Or.inl (pauses_reaction hr hp)
  | failed i e hi hcalls =>
    refine h.put hi rfl fun hp => ?_
    change Phase.pauses (if _ then _ else _) = true at hp
    split at hp <;> cases hp
  | loaded i e hi hphase => exact h.put hi rfl fun hp => (by cases hp)
  | answered i e e' r hi hp hr ha =>
    refine h.put hi ha.run fun hpauses => ?_
    cases ha <;> cases hpauses
  | @materialized draw context event _ l' i e hi hp hm =>
    obtain ⟨hrun, hexecutions, -, -⟩ := hm.same
    have hmaterialized : l'.Paused := by
      refine ⟨fun r hr hs => ?_, fun j x r hx hr hattempt hs hpauses => ?_, values_materialized h hm⟩
      · exact asked_materialized (h.waiting r (hrun ▸ hr) hs) hm
      · exact asked_materialized (h.asked j x r (hexecutions ▸ hx) (hrun ▸ hr) hattempt hs hpauses) hm
    have hphase := hc e hi
    rw [hp] at hphase
    rw [← hexecutions] at hi
    by_cases hnone : l.run = none
    · have hvalues : ∀ x ∈ l'.inputs, x.status = .pending → x.value = none := hmaterialized.values
      refine paused_of_left (fun r hr => ?_) hvalues
      exact absurd ((hnone.symm.trans hrun.symm).trans hr) (Option.some_ne_none r).symm
    · refine Paused.put hmaterialized hi rfl fun hpauses => Or.inr ?_
      change Phase.pauses (.appending context event) = true at hpauses
      generalize hbody : event.body = body at hm
      simp only [hbody] at hphase
      simp only [Phase.pauses, hbody] at hpauses
      cases body
      case contactRequested requestId prompt required => exact asked_of_contact hnone hphase hm
      all_goals cases hpauses
  | @appended draw context event _ i e r events p hi hp =>
    refine Paused.put (l := { l with events := events, appended := l.appended ++ [p] }) { h with } hi rfl
      fun hpauses =>
      Or.inl ?_
    change Phase.pauses (Execution.afterAppend context event.body) = true at hpauses
    rw [hp]
    cases hbody : event.body
    case contactRequested => simp only [Phase.pauses, hbody]
    all_goals
      rw [hbody] at hpauses
      cases hpauses
  | @wrote draw write place _ i e hi hp hw =>
    have hphase := hc e hi
    rw [hp] at hphase
    have hafter : ∀ {phase : Phase}, phase = (if place = .loop then .leaving else .returned) →
      phase.pauses = false := by
      rintro phase rfl
      split <;> rfl
    cases write with
    | waitForInput =>
      obtain ⟨r, hr, hs⟩ := hw rfl
      have hasked := h.asked i e r hi hr (hphase r hr) hs (by rw [hp]; rfl)
      refine ⟨fun _ _ _ => hasked, fun _ _ _ _ _ _ _ _ => hasked, h.values⟩
    | complete | fail | cancel =>
      refine paused_of_left (fun r' hr' => ?_) h.values
      obtain ⟨r, hr, rfl⟩ := Option.map_eq_some_iff.mp hr'
      exact ⟨fun hs => (by cases hs), fun hs => (by cases hs)⟩

end Life

section Reach

variable (server : Deployment) (principals : Table Principal.principalId)
  (browserSessions : Table BrowserSession.sessionId) (bootstraps : Table SessionBootstrapIdempotency.key)
  (actions : List Action) (runId : Id)

/-- A run that waits for input has a pending request, if only the execution of its latest claim pauses it and its
connectors only ask for what is new or still pending. -/
theorem paused_run_resumable
    (hc : Transition.Along (State.step server) (fun s a => (s.life runId).Pauses a)
      (State.initial (unused principals browserSessions bootstraps)) actions)
    (r : AgentRun)
    (hr : (reach server principals browserSessions bootstraps actions).db.agentRuns.find? runId = some r)
    (hs : r.status = .waitingForInput) :
    ∃ x ∈ (reach server principals browserSessions bootstraps actions).db.structuredInputRequests,
      x.runId = runId ∧ x.status = .pending := by
  have hinitial : ((State.initial (unused principals browserSessions bootstraps)).life runId).Paused :=
    ⟨fun r hr => absurd hr (Option.some_ne_none r).symm, fun _ e _ hi => absurd hi (Option.some_ne_none e).symm,
      fun x hx => absurd hx List.not_mem_nil⟩
  have hinv : Life.Paused _ :=
    life_invariant (q := fun _ l => l.Paused) (fun s a l' _ hl hp h hstep => h.step hl hp hstep)
    (State.sound_initial principals browserSessions bootstraps) hinitial hc
  obtain ⟨x, hx, hpending⟩ := hinv.waiting r hr hs
  exact ⟨x, (List.mem_filter.mp hx).1, of_decide_eq_true (List.mem_filter.mp hx).2, hpending⟩

end Reach

section Scenario

def asking (requestId : Id) : List Action := waiting ++ [declining, .claim 0 patience asStored 0 true, next 1 "",
  yields 1 none (.contactRequested requestId "Which address?" true)] ++ handles 1 "third" ++ [next 1 ""]

/-- The request is already resolved, and the run waits for it. -/
theorem resolved_request_awaited : statusOf (asking "request") = some .waitingForInput ∧
    ∀ x ∈ (reached (asking "request")).db.structuredInputRequests.rows, x.status ≠ .pending := by
  decide +kernel

theorem waiting_run_resumable : ∃ x ∈ (reached waiting).db.structuredInputRequests,
    x.runId = "run" ∧ x.status = .pending := by
  have hwaiting : statusOf waiting = some .waitingForInput := by decide +kernel
  obtain ⟨r, hr, hs⟩ := Option.map_eq_some_iff.mp hwaiting
  exact paused_run_resumable lone visitors ∅ ∅ waiting "run" (by decide +kernel) r hr hs

end Scenario

end ChatCore.Runs
