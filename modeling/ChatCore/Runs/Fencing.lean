import ChatCore.Runs.Projection

namespace ChatCore.Runs

open Protocol Relational Database Services

def RunStatus.terminal : RunStatus → Bool
  | .completed | .failed | .cancelled => true
  | _ => false

namespace Phase

/-- The execution has still to write the status of its run. -/
def works : Phase → Bool
  | .leaving | .returned | .rejected | .crashed => false
  | _ => true

def writes : Phase → Bool
  | .writing .. => true
  | _ => false

lemma works_of_calls {phase : Phase} (h : phase.calls = true) : phase.works = true := by
  cases phase <;> first | rfl | cases h

lemma works_of_asks {phase : Phase} (h : phase.asks = true) : phase.works = true := by
  cases phase <;> first | rfl | cases h

end Phase

namespace Life

/-- Only the execution of the latest claim writes the status of the run, and no stream that the loop has left
throws when it is cleaned up. -/
def Fenced (l : Life) : Action → Prop
  | .work i _ => ∀ e ∈ l.executions i, e.phase.writes = true → ∀ r ∈ l.run, e.run.attempt = r.attempt
  | .signal i .throws => ∀ e ∈ l.executions i, e.phase ≠ .leaving
  | _ => True

instance (l : Life) : (a : Action) → Decidable (l.Fenced a)
  | .work i _ => inferInstanceAs (Decidable (∀ e ∈ l.executions i, _ → ∀ r ∈ l.run, e.run.attempt = r.attempt))
  | .signal i .throws => inferInstanceAs (Decidable (∀ e ∈ l.executions i, e.phase ≠ .leaving))
  | .signal _ (.yields _) | .signal _ .ends | .signal _ .settles | .signal _ .fault | .signal _ .crash =>
    .isTrue trivial
  | .visit .. | .sweep .. | .request .. | .claim .. | .renew .. | .loseHeartbeat _ => .isTrue trivial

/-- No stream that the loop has left throws when it is cleaned up. -/
def CleansUp (l : Life) : Action → Prop
  | .signal i .throws => ∀ e ∈ l.executions i, e.phase ≠ .leaving
  | _ => True

instance (l : Life) : (a : Action) → Decidable (l.CleansUp a)
  | .signal i .throws => inferInstanceAs (Decidable (∀ e ∈ l.executions i, e.phase ≠ .leaving))
  | .signal _ (.yields _) | .signal _ .ends | .signal _ .settles | .signal _ .fault | .signal _ .crash =>
    .isTrue trivial
  | .visit .. | .sweep .. | .request .. | .claim .. | .work .. | .renew .. | .loseHeartbeat _ => .isTrue trivial

def Held (l : Life) : Prop := ∀ (i : ℕ) (e : Execution) (r : AgentRun), l.executions i = some e →
  e.phase.works = true → l.run = some r → e.run.attempt = r.attempt → r.status = .running ∨
    r.status = .cancelRequested

section Step

variable {s : State} {runId : Id} {a : Action} {l l' : Life} {i j : ℕ} {e e' : Execution}

lemma works_reaction {signal : Signal} {phase : Phase} (h : e.Reaction signal phase)
    (hc : signal = .throws → e.phase ≠ .leaving) (hw : phase.works = true) : e.phase.works = true := by
  cases h with
  | same => exact hw
  | cleanUpThrows h => exact absurd h (hc rfl)
  | returned | crashes => cases hw
  | faults h => exact Phase.works_of_calls h
  | received h | ended h | thrown h | cancelThrows h | cancelled h | handles h | cancelsAtEnd h
  | cancelsInHandler h =>
    rw [h]
    rfl

lemma Held.put (h : l.Held) (hi : l.executions i = some e) (hr : e'.run = e.run)
    (hw : e'.phase.works = true → e.phase.works = true) : (l.put i e').Held := by
  intro j x r hx hworks hrun hattempt
  by_cases hj : j = i
  · subst hj
    rw [put_executions_self, Option.some.injEq] at hx
    subst hx
    exact h j e r hi (hw hworks) hrun (hr ▸ hattempt)
  · rw [put_executions_ne hj] at hx
    exact h j x r hx hworks hrun hattempt

lemma attempt_decided (now : Timestamp) (r : AgentRun) : (Idempotency.decided now r).attempt = r.attempt :=
  State.attempt_decided now r

lemma decided_of_held {now : Timestamp} {r : AgentRun} (h : r.status = .running ∨ r.status = .cancelRequested) :
    (Idempotency.decided now r).status = .cancelRequested := by
  rcases h with h | h <;> rw [Idempotency.decided, h] <;> rfl

lemma effect_run {now : Timestamp} (write : StatusWrite) {r' : AgentRun} (h : (l.effect now write).run = some r') :
    ∃ r, l.run = some r ∧ r'.attempt = r.attempt := by
  cases write <;> obtain ⟨r, hr, rfl⟩ := Option.map_eq_some_iff.mp h <;> refine ⟨r, hr, ?_⟩
  case waitForInput => split <;> rfl
  all_goals rfl

lemma effect_executions {now : Timestamp} (write : StatusWrite) :
    (l.effect now write).executions = l.executions := by
  cases write <;> rfl

lemma Materialized.same {run : AgentRun} {now : Timestamp} {participantId : Id} {body : EventBody}
    (h : Materialized run now participantId body l l') :
    l'.run = l.run ∧ l'.executions = l.executions ∧ l'.appended = l.appended ∧ l'.events = l.events := by
  cases h <;> exact ⟨rfl, rfl, rfl, rfl⟩

theorem Held.step (hs : l.Sound) (hf : l.Fenced a) (h : l.Held) (hstep : Step s runId a l l') : l'.Held := by
  cases hstep with
  | idle | redacted | pruned => exact h
  | created r handoffs inputs hr he =>
    exact fun i e r hi => absurd ((he i).symm.trans hi) (Option.some_ne_none e).symm
  | forgotten => exact fun i e r hi hw hr => absurd hr.symm (Option.some_ne_none r)
  | cancelled r now hr =>
    intro i e r' hi hw hr' ha
    cases hr'
    rw [attempt_decided] at ha
    exact Or.inr (decided_of_held (h i e r hi hw hr ha))
  | resumed r i request now hr hwaiting =>
    intro j e r' hj hw hr' ha
    cases hr'
    have hheld := h j e r hj hw hr ha
    rw [hwaiting] at hheld
    exact absurd hheld (by decide)
  | claimed r i e hr hs' hc hi he ha hp =>
    intro j x r' hj hw hr' hattempt
    cases hr'
    exact Or.inl rfl
  | renewed i e r hi hr hs' ha =>
    intro j x r' hj hw hr' hattempt
    cases hr'
    exact Or.inl hs'
  | aborted i e hi => exact h.put hi rfl id
  | signalled i e hi hr =>
    refine h.put hi rfl (works_reaction hr ?_)
    rintro rfl
    exact hf e hi
  | failed i e hi hc => exact h.put hi rfl fun _ => Phase.works_of_calls hc
  | loaded i e hi hp => exact h.put hi rfl fun _ => by rw [hp]; rfl
  | answered i e e' r hi hp hr ha => exact h.put hi ha.run fun _ => Phase.works_of_asks hp
  | materialized i e hi hp hm =>
    obtain ⟨hrun, hexecutions, -, -⟩ := hm.same
    have hheld : Held _ := h
    rw [Held, ← hrun, ← hexecutions] at hheld
    rw [← hexecutions] at hi
    exact Held.put hheld hi rfl fun _ => by rw [hp]; rfl
  | appended i e r events p hi hp =>
    exact Held.put (l := { l with events := events, appended := l.appended ++ [p] }) h hi rfl fun _ =>
      by rw [hp]; rfl
  | @wrote draw write place _ i e hi hp hw =>
    intro j x r' hj hworks hr' hattempt
    obtain ⟨r, hr, hsame⟩ := effect_run (l := l) write hr'
    by_cases hij : j = i
    · subst hij
      rw [put_executions_self, Option.some.injEq] at hj
      subst hj
      cases place <;> cases hworks
    · rw [put_executions_ne hij, effect_executions] at hj
      have hown : e.run.attempt = r.attempt := hf e hi (by rw [hp]; rfl) r hr
      exact absurd (hs.apart j i x e hj hi (hattempt.trans (hsame.trans hown.symm))) hij

def Settled (r₀ : AgentRun) (l : Life) : Prop := ∀ r, l.run = some r →
  r.status = r₀.status ∧ r.errorCode = r₀.errorCode ∧ r.completedAt = r₀.completedAt

lemma status_of_claimable {options : RunWorker.Options} {now : Timestamp} {r : AgentRun}
    (h : RunWorker.claimable options now r = true) : r.status = .queued ∨ r.status = .running := by
  simp only [RunWorker.claimable, Bool.and_eq_true, Bool.or_eq_true, decide_eq_true_eq] at h
  exact h.2.imp_right And.left

lemma decided_of_terminal {now : Timestamp} {r : AgentRun} (h : RunStatus.terminal r.status = true) :
    Idempotency.decided now r = r := by
  unfold Idempotency.decided
  split <;> rename_i hs <;> first | rfl | (rw [hs] at h; cases h)

lemma ne_terminal_of_claimable {options : RunWorker.Options} {now : Timestamp} {r : AgentRun}
    (h : RunWorker.claimable options now r = true) : RunStatus.terminal r.status = false := by
  rcases status_of_claimable h with h | h <;> rw [h] <;> rfl

variable {r₀ : AgentRun}

theorem Settled.step (ht : RunStatus.terminal r₀.status = true) (hi : runId ∈ s.issued)
    (hf : l.Fenced a) (hh : l.Held)
    (h : l.Settled r₀) (hstep : Step s runId a l l') : l'.Settled r₀ := by
  have hterminal : ∀ r, l.run = some r → RunStatus.terminal r.status = true := fun r hr => by rw [(h r hr).1, ht]
  cases hstep with
  | idle | redacted | pruned | aborted | signalled | failed | loaded | answered | appended => exact h
  | created r handoffs inputs hr he ha hn => exact absurd hi hn
  | forgotten => exact fun r hr => absurd hr.symm (Option.some_ne_none r)
  | cancelled r now hr =>
    intro r' hr'
    cases hr'
    rw [decided_of_terminal (hterminal r hr)]
    exact h r hr
  | resumed r i request now hr hw =>
    have hfalse := hterminal r hr
    rw [hw] at hfalse
    cases hfalse
  | claimed r i e hr hs hc =>
    have hfalse := hterminal r hr
    rw [ne_terminal_of_claimable hc] at hfalse
    cases hfalse
  | renewed i e r hi hr hs ha =>
    have hfalse := hterminal r hr
    rw [hs] at hfalse
    cases hfalse
  | materialized i e hi hp hm =>
    intro r hr
    exact h r (hm.same.1.symm.trans hr)
  | @wrote draw write place _ i e hi hp hw =>
    intro r' hr'
    obtain ⟨r, hr, -⟩ := effect_run (l := l) write hr'
    have hrunning := hh i e r hi (by rw [hp]; rfl) hr (hf e hi (by rw [hp]; rfl) r hr)
    have hfalse := hterminal r hr
    rcases hrunning with hs | hs <;> rw [hs] at hfalse <;> cases hfalse

end Step

end Life

section Absorbing

variable (server : Deployment) (principals : Table Principal.principalId)
  (browserSessions : Table BrowserSession.sessionId) (bootstraps : Table SessionBootstrapIdempotency.key)
  (actions later : List Action) (runId : Id)

lemma held_reach (hf : Transition.Along (State.step server) (fun s a => (s.life runId).Fenced a)
    (State.initial (unused principals browserSessions bootstraps)) actions) :
    ((reach server principals browserSessions bootstraps actions).life runId).Held :=
  life_invariant (q := fun _ l => l.Held) (fun _ _ _ _ hl hp h hstep => h.step hl hp hstep)
    (State.sound_initial principals browserSessions bootstraps)
    (fun _ e _ hi => absurd (life_executions.mp hi).1 (Option.some_ne_none e).symm) hf

/-- If the status of a run is only written by the execution of its latest claim, and no stream throws when it is
cleaned up, then a run that is completed, failed or cancelled stays so, with its error code and its time. -/
theorem terminal_status_absorbing
    (hf : Transition.Along (State.step server) (fun s a => (s.life runId).Fenced a)
      (State.initial (unused principals browserSessions bootstraps)) (actions ++ later))
    (r r' : AgentRun)
    (hr : (reach server principals browserSessions bootstraps actions).db.agentRuns.find? runId = some r)
    (ht : RunStatus.terminal r.status = true)
    (hr' : (reach server principals browserSessions bootstraps (actions ++ later)).db.agentRuns.find?
      runId = some r') :
    r'.status = r.status ∧ r'.errorCode = r.errorCode ∧ r'.completedAt = r.completedAt := by
  obtain ⟨hbefore, hafter⟩ := Transition.along_append.mp hf
  have hsound := sound_reach server principals browserSessions bootstraps actions
  have hissued : runId ∈ (reach server principals browserSessions bootstraps actions).issued := by
    obtain ⟨hm, hid⟩ := Table.find?_eq_some.mp hr
    exact hid ▸ (hsound.skeleton.issued _ (Or.inl (Table.mem_image hm))).1
  have hsettled : ((reach server principals browserSessions bootstraps actions).life runId).Settled r := by
    intro x hx
    cases hr.symm.trans hx
    exact ⟨rfl, rfl, rfl⟩
  have hinv := life_invariant (q := fun s l => runId ∈ s.issued ∧ l.Held ∧ l.Settled r)
    (fun s a l' hs hl hp h hstep => ⟨issued_step hs h.1, h.2.1.step hl hp hstep, h.2.2.step ht h.1 hp h.2.1 hstep⟩)
    hsound ⟨hissued, held_reach server principals browserSessions bootstraps actions runId hbefore,
      hsettled⟩ hafter
  refine hinv.2.2 r' ?_
  rw [reach, Transition.exec_append] at hr'
  exact hr'

end Absorbing

section Scenario

def lone : Deployment where
  platform := ⟨fun _ => "", fun _ => 0, fun _ => true⟩
  retentionMaxEvents := 100
  retentionPositive := by decide

def visitor : Scope := ⟨"tenant", "site", "visitor"⟩

def visitors : Table Principal.principalId :=
  (∅ : Table Principal.principalId).insert ⟨"visitor", "tenant", "site", "", 0⟩

def asStored {ρ : Type} : Arrangement ρ := ⟨id, fun _ => .refl _⟩

def patience : RunWorker.Options := ⟨1000, 2, by decide, by decide⟩

def next (i : ℕ) (eventId : Id) : Action := .work i ⟨⟨asStored, asStored⟩, eventId, 0⟩

def yields (i : ℕ) (messageId : Option Id) (body : EventBody) : Action :=
  .signal i (.yields (.event ⟨.public, "conversation", "run", messageId, body, true⟩))

lemma greeting_ne_nil : ["Hello"] ≠ [] := by simp

def sent : List Action := [
  .visit 0 (.createConversation visitor "agent" "" ⟨"conversation", "user", "assistant"⟩ 0),
  .visit 0 (.submitMessage visitor "conversation" ⟨["Hello"], greeting_ne_nil⟩ ""
    ⟨"message", "run", "answer"⟩ 0 0)]

def executing : List Action := sent ++ [.claim 0 patience asStored 0 true, next 0 ""]

def handles (i : ℕ) (eventId : Id) : List Action := [next i eventId, next i eventId, next i eventId]

def reached (actions : List Action) : State := reach lone visitors ∅ ∅ actions

def statusOf (actions : List Action) : Option RunStatus :=
  ((reached actions).db.agentRuns.find? "run").map AgentRun.status

def completing : List Action := executing ++ [yields 0 none .runCompleted] ++ handles 0 "event" ++ [next 0 ""]

/-- The stream throws when the loop leaves it, and the worker writes a second status. -/
theorem completed_run_fails : statusOf completing = some .completed ∧
    statusOf (completing ++ [.signal 0 .throws, .signal 0 .settles, next 0 "", next 0 ""]) = some .failed := by
  decide +kernel

theorem completed_run_stays : ∃ r r' : AgentRun, (reached completing).db.agentRuns.find? "run" = some r ∧
    (reached (completing ++ [.signal 0 .settles])).db.agentRuns.find? "run" = some r' ∧
    r.status = .completed ∧ r'.status = r.status ∧ r'.errorCode = r.errorCode ∧
      r'.completedAt = r.completedAt := by
  have hcompleted : statusOf completing = some .completed := by decide +kernel
  have hreturned : (statusOf (completing ++ [.signal 0 .settles])).isSome = true := by decide +kernel
  obtain ⟨r, hr, hs⟩ := Option.map_eq_some_iff.mp hcompleted
  obtain ⟨r', hr'⟩ := Option.isSome_iff_exists.mp (Option.isSome_map.symm.trans hreturned)
  refine ⟨r, r', hr, hr', hs, ?_⟩
  exact terminal_status_absorbing lone visitors ∅ ∅ completing [.signal 0 .settles] "run"
    (by decide +kernel) r r' hr
    (by rw [hs]; rfl) hr'

end Scenario

end ChatCore.Runs
