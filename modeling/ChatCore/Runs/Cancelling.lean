import ChatCore.Runs.Fencing

namespace ChatCore.Runs

open Protocol Relational Database Services

namespace Phase

def pulls : Phase → Bool
  | .pulling _ => true
  | _ => false

def cancels : Phase → Bool
  | .stopping | .writing .cancel _ => true
  | _ => false

end Phase

instance (s : State) (runId : Id) (a : Action) : Decidable (s.Selects runId a) := by
  unfold State.Selects
  split <;> infer_instance

namespace Life

variable {s : State} {runId : Id} {a : Action} {l l' : Life} {i : ℕ} {e e' : Execution}

section Uncancelled

/-- No execution finds its signal aborted where it looks at it: in the loop, after the stream, in the handler. -/
def Unaborted (l : Life) : Action → Prop
  | .work i _ => ∀ e ∈ l.executions i, e.phase.receives = true → e.aborted = false
  | .signal i .ends => ∀ e ∈ l.executions i, e.phase.pulls = true → e.aborted = false
  | .signal i .settles => ∀ e ∈ l.executions i, e.phase = .catching → e.aborted = false
  | _ => True

instance (l : Life) : (a : Action) → Decidable (l.Unaborted a)
  | .work i _ => inferInstanceAs (Decidable (∀ e ∈ l.executions i, e.phase.receives = true → e.aborted = false))
  | .signal i .ends => inferInstanceAs (Decidable (∀ e ∈ l.executions i, e.phase.pulls = true → e.aborted = false))
  | .signal i .settles =>
    inferInstanceAs (Decidable (∀ e ∈ l.executions i, e.phase = .catching → e.aborted = false))
  | .signal _ (.yields _) | .signal _ .throws | .signal _ .fault | .signal _ .crash => .isTrue trivial
  | .visit .. | .sweep .. | .request .. | .claim .. | .renew .. | .loseHeartbeat _ => .isTrue trivial

structure Uncancelled (l : Life) : Prop where
  run : ∀ r, l.run = some r → RunStatus.cancelling r.status = false
  message : ∀ m, l.message = some m → m.status ≠ .cancelled
  executions : ∀ (i : ℕ) (e : Execution), l.executions i = some e → e.phase.cancels = false

lemma Uncancelled.put (h : l.Uncancelled) (he : e'.phase.cancels = false) : (l.put i e').Uncancelled where
  run := h.run
  message := h.message
  executions := by
    intro j x hx
    by_cases hj : j = i
    · subst hj
      rw [put_executions_self, Option.some.injEq] at hx
      exact hx ▸ he
    · exact h.executions j x ((put_executions_ne hj).symm.trans hx)

lemma uncancelled_message {run : AgentRun} {now : Timestamp} {participantId : Id} {body : EventBody}
    (h : l.Uncancelled) (hm : Materialized run now participantId body l l') : l'.Uncancelled := by
  obtain ⟨hrun, hexecutions, -, -⟩ := hm.same
  refine ⟨hrun ▸ h.run, ?_, hexecutions ▸ h.executions⟩
  cases hm with
  | started sequence habsent =>
    intro m hm
    cases hm
    nofun
  | completed parts m hfind =>
    intro m' hm'
    cases hm'
    nofun
  | resumed | requestedAgain | requested | askedAgain | asked | finished | orphan | nothing => exact h.message

theorem Uncancelled.step (hs : ¬ s.Selects runId a) (hu : l.Unaborted a) (h : l.Uncancelled)
    (hstep : Step s runId a l l') : l'.Uncancelled := by
  cases hstep with
  | idle => exact h
  | redacted | pruned => exact { h with }
  | created r handoffs inputs hr he ha hn hq =>
    refine ⟨?_, fun m hm => absurd hm (Option.some_ne_none m).symm, h.executions⟩
    intro r' hr'
    cases hr'
    rw [hq]
    rfl
  | forgotten =>
    exact ⟨fun r hr => absurd hr (Option.some_ne_none r).symm, fun m hm => absurd hm (Option.some_ne_none m).symm,
      h.executions⟩
  | cancelled r now hr hsel => exact absurd hsel hs
  | resumed r i request now hr hw hi hp handoffs hh =>
    refine ⟨?_, h.message, h.executions⟩
    intro r' hr'
    cases hr'
    rfl
  | claimed r i e hr hs' hc hi he ha hp =>
    refine Uncancelled.put (l := { l with run := some _ }) ⟨?_, h.message, h.executions⟩ ?_
    · intro r' hr'
      cases hr'
      rfl
    · rcases hp with hp | hp <;> rw [hp] <;> rfl
  | aborted i e hi => exact h.put (h.executions i e hi)
  | renewed i e r hi hr hs' ha =>
    refine ⟨?_, h.message, h.executions⟩
    intro r' hr'
    cases hr'
    exact h.run r hr
  | signalled i e hi hr =>
    refine h.put ?_
    have hbefore := h.executions i e hi
    cases hr with
    | same => exact hbefore
    | cancelsAtEnd hp ha =>
      have hfalse := hu e hi (by rw [hp]; rfl)
      rw [ha] at hfalse
      cases hfalse
    | cancelsInHandler hp ha =>
      have hfalse := hu e hi hp
      rw [ha] at hfalse
      cases hfalse
    | cancelled hp =>
      rw [hp] at hbefore
      cases hbefore
    | faults =>
      change Phase.cancels (if _ then _ else _) = false
      split <;> rfl
    | received | ended | thrown | cancelThrows | cleanUpThrows | returned | handles | crashes => rfl
  | failed i e hi hc hx =>
    refine h.put ?_
    change Phase.cancels (if _ then _ else _) = false
    split <;> rfl
  | loaded i e hi hp => exact h.put rfl
  | answered i e e' r hi hp hr ha =>
    have hno := h.run r hr
    cases ha with
    | cancels place hcause =>
      rcases hcause with ⟨hreceives, haborted⟩ | hanswer
      · have hfalse := hu e hi hreceives
        rw [haborted] at hfalse
        cases hfalse
      · rw [hno] at hanswer
        cases hanswer
    | stops hanswer =>
      rw [hno] at hanswer
      cases hanswer
    | fails code place => exact h.put rfl
    | accepts context value event hp' ha' hv => exact h.put rfl
  | materialized i e hi hp hm => exact (uncancelled_message h hm).put rfl
  | appended i e r events p hi hp hr hv he hn hs' =>
    refine Uncancelled.put (l := { l with events := _, appended := _ }) { h with } ?_
    unfold Execution.afterAppend
    split <;> rfl
  | @wrote draw write place _ i e hi hp hw =>
    have hbefore := h.executions i e hi
    rw [hp] at hbefore
    refine Uncancelled.put ⟨?_, ?_, ?_⟩ (by split <;> rfl)
    · intro r' hr'
      cases write <;> obtain ⟨r, hr, rfl⟩ := Option.map_eq_some_iff.mp hr'
      case complete | fail => rfl
      case cancel => cases hbefore
      case waitForInput =>
        split
        · rfl
        · exact h.run r hr
    · cases write with
      | complete | fail code | waitForInput => exact h.message
      | cancel => cases hbefore
    · rw [effect_executions]
      exact h.executions

end Uncancelled

section Final

def Idle (l : Life) : Prop := ∀ (i : ℕ) (e : Execution), l.executions i = some e → e.phase.works = false

lemma Idle.put (h : l.Idle) (he : e'.phase.works = false) : (l.put i e').Idle := by
  intro j x hx
  by_cases hj : j = i
  · subst hj
    rw [put_executions_self, Option.some.injEq] at hx
    exact hx ▸ he
  · exact h j x ((put_executions_ne hj).symm.trans hx)

lemma Idle.not_works (h : l.Idle) (hi : l.executions i = some e) (hw : e.phase.works = true) : False := by
  rw [h i e hi] at hw
  cases hw

structure Final (r₀ : AgentRun) (appended : List EventStore.PersistedEvent) (l : Life) : Prop where
  idle : l.Idle
  status : ∀ r, l.run = some r → r.status = r₀.status
  appended : l.appended = appended

variable {r₀ : AgentRun} {appended : List EventStore.PersistedEvent}

theorem Final.step (ht : RunStatus.terminal r₀.status = true) (hi : runId ∈ s.issued) (hc : l.CleansUp a)
    (h : l.Final r₀ appended) (hstep : Step s runId a l l') : l'.Final r₀ appended := by
  have hterminal : ∀ r, l.run = some r → RunStatus.terminal r.status = true :=
    fun r hr => by rw [h.status r hr, ht]
  cases hstep with
  | idle => exact h
  | redacted | pruned => exact { h with }
  | created r handoffs inputs hr he ha hn => exact absurd hi hn
  | forgotten => exact ⟨h.idle, fun r hr => absurd hr (Option.some_ne_none r).symm, h.appended⟩
  | cancelled r now hr =>
    refine ⟨h.idle, ?_, h.appended⟩
    intro r' hr'
    cases hr'
    rw [decided_of_terminal (hterminal r hr)]
    exact h.status r hr
  | resumed r i request now hr hw =>
    have hfalse := hterminal r hr
    rw [hw] at hfalse
    cases hfalse
  | claimed r i e hr hs hclaim =>
    have hfalse := hterminal r hr
    rw [ne_terminal_of_claimable hclaim] at hfalse
    cases hfalse
  | renewed i e r hi hr hs ha =>
    have hfalse := hterminal r hr
    rw [hs] at hfalse
    cases hfalse
  | aborted i e hi => exact ⟨h.idle.put (h.idle i e hi), h.status, h.appended⟩
  | signalled i e hi hr =>
    refine ⟨h.idle.put ?_, h.status, h.appended⟩
    refine Bool.eq_false_of_not_eq_true fun hw => h.idle.not_works hi (works_reaction hr ?_ hw)
    rintro rfl
    exact hc e hi
  | failed i e hi hcalls => exact (h.idle.not_works hi (Phase.works_of_calls hcalls)).elim
  | loaded i e hi hp => exact (h.idle.not_works hi (by rw [hp]; rfl)).elim
  | answered i e e' r hi hp => exact (h.idle.not_works hi (Phase.works_of_asks hp)).elim
  | materialized i e hi hp | appended i e r events p hi hp | wrote i e hi hp =>
    exact (h.idle.not_works hi (by rw [hp]; rfl)).elim

end Final

end Life

section Reach

variable (server : Deployment) (principals : Table Principal.principalId)
  (browserSessions : Table BrowserSession.sessionId) (bootstraps : Table SessionBootstrapIdempotency.key)

/-- As long as no execution of a run finds its signal aborted, the run and its answer are cancelled only by a
call that selects the run. -/
theorem cancelled_by_selection (actions : List Action) (runId : Id)
    (hs : Transition.Along (State.step server) (fun s a => ¬ s.Selects runId a)
      (State.initial (unused principals browserSessions bootstraps)) actions)
    (hu : Transition.Along (State.step server) (fun s a => (s.life runId).Unaborted a)
      (State.initial (unused principals browserSessions bootstraps)) actions)
    (r : AgentRun)
    (hr : (reach server principals browserSessions bootstraps actions).db.agentRuns.find? runId = some r) :
    r.status ≠ .cancelRequested ∧ r.status ≠ .cancelled ∧
      ∀ m, (reach server principals browserSessions bootstraps actions).db.messages.find?
      r.assistantMessageId = some m →
        m.status ≠ .cancelled := by
  have hinitial : ((State.initial (unused principals browserSessions bootstraps)).life runId).Uncancelled := by
    refine ⟨fun r hr => ?_, fun m hm => ?_, fun i e hi =>
      absurd (life_executions.mp hi).1 (Option.some_ne_none e).symm⟩
    · exact absurd (run_eq_some.mp hr).1 (Table.notMem_empty r)
    · exact absurd hm (Option.some_ne_none m).symm
  have hinv : Life.Uncancelled _ := life_invariant (q := fun _ l => l.Uncancelled)
    (fun s a l' _ _ hp h hstep => h.step hp.1 hp.2 hstep)
    (State.sound_initial principals browserSessions bootstraps) hinitial (hs.and hu)
  have hstatus := hinv.run r hr
  simp only [RunStatus.cancelling, Bool.or_eq_false_iff, decide_eq_false_iff_not] at hstatus
  refine ⟨hstatus.1, hstatus.2, fun m hm => hinv.message m ?_⟩
  exact (rows_message hr).trans hm

/-- The execution loses its lease, and its run is cancelled although nobody has asked for it. -/
theorem stalled_run_cancelled :
    Transition.Along (State.step lone) (fun s a => ¬ s.Selects "run" a) (State.initial (unused visitors ∅ ∅))
      (executing ++ [.loseHeartbeat 0, yields 0 none (.runStarted "agent"), next 0 "", next 0 ""]) ∧
    statusOf (executing ++ [.loseHeartbeat 0, yields 0 none (.runStarted "agent"), next 0 "", next 0 ""]) =
      some .cancelled := by
  decide +kernel

theorem completed_run_uncancelled : ∃ r : AgentRun, (reached completing).db.agentRuns.find? "run" = some r ∧
    r.status ≠ .cancelRequested ∧ r.status ≠ .cancelled := by
  have hcompleted : statusOf completing = some .completed := by decide +kernel
  obtain ⟨r, hr, -⟩ := Option.map_eq_some_iff.mp hcompleted
  obtain ⟨hrequested, hcancelled, -⟩ :=
    cancelled_by_selection lone visitors ∅ ∅ completing "run" (by decide +kernel)
    (by decide +kernel) r hr
  exact ⟨r, hr, hrequested, hcancelled⟩

end Reach

section Outcome

variable (server : Deployment) (s : State) (process : ℕ) (scope : Scope) (conversationId : Id) (key : String)
  (order : Arrangement AgentRun) (now time : Timestamp)

lemma terminal_decided {r : AgentRun} (hd : Idempotency.decision r.status ≠ .cancelRequested)
    (hw : r.status ≠ .waitingForInput) : RunStatus.terminal (Idempotency.decided now r).status = true := by
  unfold Idempotency.decided
  split <;> rename_i hs
  · rfl
  · exact absurd (by rw [hs]; rfl) hd
  · exact absurd (by rw [hs]; rfl) hd
  · exact absurd hs hw
  all_goals rw [hs]; rfl

/-- A cancellation that says cancelled or already finished stays true if the run was not waiting for input,
nobody was at work on it, and no stream throws later when it is cleaned up. -/
theorem cancellation_outcome_final (hs : Reachable server s) (response : RunService.CancelRunResponse)
    (hn : s.db.commandIdempotency.find? (commandKey scope (RunService.operation conversationId) key) = none)
    (hret : ((RunService.cancel server.platform scope conversationId key order now time).run s.db).1 =
      .ok response)
    (ho : response.cancellationStatus = .cancelled ∨ response.cancellationStatus = .alreadyFinished)
    (hw : ∀ r, selectedRun scope conversationId key order s.db = some r → r.status ≠ .waitingForInput ∧
      ∀ e ∈ s.executions, e.run.runId = r.runId → e.phase.works = false)
    (later : List Action)
    (hl : Transition.Along (State.step server) (fun s a => (s.life response.runId).CleansUp a)
      (s.step server (.visit process (.cancelRun scope conversationId key order now time))) later) :
    let decided := s.step server (.visit process (.cancelRun scope conversationId key order now time))
    let final := Transition.exec (State.step server) decided later
    (∀ r r', decided.db.agentRuns.find? response.runId = some r →
      final.db.agentRuns.find? response.runId = some r' →
      r'.status = r.status) ∧
    final.appended.filter (fun p => decide (p.event.runId = response.runId)) =
      s.appended.filter (fun p => decide (p.event.runId = response.runId)) := by
  intro decided final
  have hsound := hs.sound
  obtain ⟨r, hr⟩ : ∃ r, selectedRun scope conversationId key order s.db = some r := by
    cases hr : selectedRun scope conversationId key order s.db with
    | some r => exact ⟨r, rfl⟩
    | none =>
      obtain ⟨-, hreplay⟩ := run_cancelRun_none scope conversationId key order now time server.platform hr
      obtain ⟨previous, hp, -⟩ := hreplay response hret
      exact absurd (hn.symm.trans hp) (Option.some_ne_none previous).symm
  have hresult := run_cancelRun scope conversationId key order now time server.platform hr
  obtain ⟨hnot, hidle⟩ := hw r hr
  have hresponse : response = ⟨conversationId, r.runId, Idempotency.decision r.status⟩ := by
    rw [hresult] at hret
    injection hret with hret
    exact hret.symm
  subst hresponse
  have hdecision : Idempotency.decision r.status = .cancelled ∨ Idempotency.decision r.status =
    .alreadyFinished := ho
  have hd : Idempotency.decision r.status ≠ .cancelRequested := by
    rcases hdecision with hd | hd <;> rw [hd] <;> decide
  have hm := (mem_of_selectedRun scope conversationId key order hr).1
  have hdb : decided.db = cancelled scope conversationId key now time server.platform r s.db := by
    have hrun : ((body server (.cancelRun scope conversationId key order now time)).run s.db).2 =
        ((RunService.cancel server.platform scope conversationId key order now time).run s.db).2 :=
      congrArg Prod.snd (Program.run_map _ _ _)
    exact hrun.trans (congrArg Prod.snd hresult)
  have hrow : decided.db.agentRuns.find? r.runId = some (Idempotency.decided now r) := by
    rw [hdb]
    refine (s.db.agentRuns.find?_update _ (Idempotency.decided now) (runId_decided now) r.runId).trans ?_
    rw [Table.find?_key hm]
    exact congrArg some (if_pos (decide_eq_true rfl))
  have hterminal := terminal_decided now hd hnot
  have hfinal : (decided.life r.runId).Final (Idempotency.decided now r) (s.life r.runId).appended := by
    refine ⟨fun i e hi => ?_, fun x hx => ?_, rfl⟩
    · obtain ⟨he, hid⟩ := life_executions.mp hi
      exact hidle e (List.mem_of_getElem? he) hid
    · cases hrow.symm.trans hx
      rfl
  have hissued : r.runId ∈ decided.issued :=
    issued_step hsound (hsound.skeleton.issued _ (Or.inl (Table.mem_image hm))).1
  have hinv := life_invariant (q := fun t l => r.runId ∈ t.issued ∧
      l.Final (Idempotency.decided now r) (s.life r.runId).appended)
    (fun t a l' ht hl hp h hstep => ⟨issued_step ht h.1, h.2.step hterminal h.1 hp hstep⟩)
    (hsound.step _) ⟨hissued, hfinal⟩ hl
  refine ⟨fun x y hx hy => ?_, hinv.2.appended⟩
  cases hrow.symm.trans hx
  exact hinv.2.status y hy

end Outcome

section Scenario

def waiting : List Action := executing ++ [yields 0 none (.handoffRequested "handoff")] ++ handles 0 "first" ++
  [yields 0 none (.contactRequested "request" "Which address?" true)] ++ handles 0 "second" ++ [next 0 ""]

def cancelling (key : String) : Call := .cancelRun visitor "conversation" key asStored 0 0

def declining : Action := .visit 0 (.submitStructuredInput visitor "conversation" "request" .declined "" 0 0)

def outcomeAfter (actions : List Action) : Option RunService.CancellationStatus :=
  match ((body lone (cancelling "")).run (reached actions).db).1 with
  | .ok (.cancellation response) => some response.cancellationStatus
  | _ => none

/-- The run is already finished, and then it goes on. -/
theorem finished_run_resumes : outcomeAfter waiting = some .alreadyFinished ∧
    statusOf (waiting ++ [.visit 0 (cancelling "")]) = some .waitingForInput ∧
    statusOf (waiting ++ [.visit 0 (cancelling ""), declining]) = some .queued := by
  decide +kernel

theorem queued_run_stays_cancelled :
    let decided := (reached sent).step lone (.visit 0 (cancelling ""))
    let final := Transition.exec (State.step lone) decided [.claim 0 patience asStored 0 true]
    (∀ r r', decided.db.agentRuns.find? "run" = some r → final.db.agentRuns.find? "run" = some r' →
      r'.status = r.status) ∧
    final.appended.filter (fun p => decide (p.event.runId = "run")) =
      (reached sent).appended.filter (fun p => decide (p.event.runId = "run")) := by
  have hnot : ∀ r ∈ selectedRun visitor "conversation" "" asStored (reached sent).db, r.status ≠ .waitingForInput ∧
      ∀ e ∈ (reached sent).executions, e.run.runId = r.runId → e.phase.works = false := by decide +kernel
  exact cancellation_outcome_final lone (reached sent) 0 visitor "conversation" "" asStored 0 0
    ⟨visitors, ∅, ∅, sent, rfl⟩ ⟨"conversation", "run", .cancelled⟩ (by decide +kernel)
      (by decide +kernel) (Or.inl rfl)
    (fun r hr => hnot r hr) [.claim 0 patience asStored 0 true] (by decide +kernel)

end Scenario

end ChatCore.Runs
