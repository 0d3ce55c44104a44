import ChatCore.Runs.System
import ChatCore.Services.Expiry
import ChatCore.Services.Visits

namespace ChatCore.Runs

open Protocol Relational Database Services

inductive Visited : Call → Tables → Tables → Prop
  | beside {call : Call} {a b : Tables} (h : Beside a b) : Visited call a b
  | submitted {scope : Scope} {conversationId : Id} {request : MessageService.SubmitMessageRequest} {key : String}
      {ids : MessageService.SubmitIds} {now time : Timestamp} {a b : Tables}
      (h : Submitted scope conversationId request ids now time a b) :
      Visited (.submitMessage scope conversationId request key ids now time) a b
  | handedOff {scope : Scope} {conversationId : Id} {request : EmailHandoffService.CreateEmailHandoffRequest}
      {key : String} {ids : EmailHandoffService.CreateIds} {now time : Timestamp} {a b : Tables}
      (h : HandedOff scope conversationId request ids now time a b) :
      Visited (.createEmailHandoff scope conversationId request key ids now time) a b
  | cancelled {scope : Scope} {conversationId : Id} {key : String} {order : Arrangement AgentRun}
      {now time : Timestamp}
      {platform : Platform} {r : AgentRun} {a : Tables}
        (h : selectedRun scope conversationId key order a = some r) :
      Visited (.cancelRun scope conversationId key order now time) a
        (Services.cancelled scope conversationId key now time platform r a)
  | resumed {scope : Scope} {conversationId requestId : Id}
      {request : StructuredInputService.SubmitStructuredInputRequest} {key : String} {now time : Timestamp}
      {a b : Tables} (h : Resumed scope conversationId requestId request now a b) :
      Visited (.submitStructuredInput scope conversationId requestId request key now time) a b

lemma run_visit (server : Deployment) {call : Call} {ids : List Id} (h : drawnIds call = some ids) (a : Tables) :
    Visited call a ((body server call).run a).2 := by
  cases call <;> simp only [drawnIds, reduceCtorEq] at h <;> rw [body, Program.run_map]
  case createConversation scope agentRef key ids time =>
    exact .beside (run_createConversation _ scope agentRef key ids time)
  case submitMessage scope conversationId request key ids now time =>
    rcases run_submitMessage scope conversationId request ids now time server.platform key with h | h
    · exact .beside h
    · exact .submitted h
  case createEmailHandoff scope conversationId request key ids now time =>
    rcases run_createEmailHandoff scope conversationId request ids now time server.platform key with h | h
    · exact .beside h
    · exact .handedOff h
  case cancelRun scope conversationId key order now time =>
    cases hs : selectedRun scope conversationId key order a with
    | none =>
      exact .beside (beside_of_eq
        (run_cancelRun_none scope conversationId key order now time server.platform hs).1)
    | some r =>
      rw [run_cancelRun scope conversationId key order now time server.platform hs]
      exact .cancelled hs
  case submitStructuredInput scope conversationId requestId request key now time =>
    rcases run_submitStructuredInput scope conversationId requestId request now time server.platform key with h | h
    · exact .beside h
    · exact .resumed h
  case replayEvents scope conversationId after stamp =>
    exact .beside (beside_of_eq (run_replay scope conversationId after stamp))

namespace StatusWrite

def effect (run : AgentRun) (now : Timestamp) (db : Tables) : StatusWrite → Tables
  | .complete => { db with
      agentRuns := db.agentRuns.update (RunWorker.isRun run.runId) (RunWorker.markCompleted now)
          (RunWorker.markCompleted_runId now) }
  | .fail code => { db with
      agentRuns := db.agentRuns.update (RunWorker.isRun run.runId) (RunWorker.markFailed code now)
          (RunWorker.markFailed_runId code now)
      handoffs := db.handoffs.update (fun h => decide (h.runId = run.runId) &&
        !(decide (h.status = .completed) || decide (h.status = .failed))) (RunWorker.failHandoff now)
            (RunWorker.failHandoff_handoffId now) }
  | .cancel => { db with
      agentRuns := db.agentRuns.update (RunWorker.isRun run.runId) (RunWorker.markCancelled now)
          (RunWorker.markCancelled_runId now)
      messages := db.messages.update (fun m => decide (m.messageId = run.assistantMessageId) &&
        (decide (m.status = .pending) || decide (m.status = .streaming))) (RunWorker.cancelMessage now)
            (RunWorker.cancelMessage_messageId now) }
  | .waitForInput => { db with
      agentRuns := db.agentRuns.update (fun r => RunWorker.isRun run.runId r && decide (r.status = .running))
        (RunWorker.markWaiting now) (RunWorker.markWaiting_runId now) }

def Succeeds (run : AgentRun) (db : Tables) : StatusWrite → Prop
  | .waitForInput => ∃ r, db.agentRuns.find? run.runId = some r ∧ r.status = .running
  | _ => True

lemma run_call (server : Deployment) {write : StatusWrite} {run : AgentRun} {db : Tables} (hs : Sequenced db)
    (h : write.Succeeds run db) (now : Timestamp) :
    (body server (write.call run now)).run db = (.ok (.done ()), write.effect run now db) := by
  cases write with
  | complete => rw [call, body, Program.run_map, run_complete]; rfl
  | fail code => rw [call, body, Program.run_map, run_fail]; rfl
  | cancel => rw [call, body, Program.run_map, run_cancel _ _ hs]; rfl
  | waitForInput =>
    obtain ⟨r, hr, hrunning⟩ := h
    rw [call, body, Program.run_map, run_waitForInput_running _ hr hrunning]
    rfl

lemma run_call_error (server : Deployment) {write : StatusWrite} {run : AgentRun} {db : Tables}
    (h : ¬ write.Succeeds run db) (now : Timestamp) :
    ∃ e, (body server (write.call run now)).run db = (.error e, db) := by
  cases write with
  | complete | fail code | cancel => exact absurd trivial h
  | waitForInput =>
    have hrunning : ∀ r, db.agentRuns.find? run.runId = some r → r.status ≠ .running :=
      fun r hr hs => h ⟨r, hr, hs⟩
    obtain ⟨e, he⟩ := run_waitForInput_error now hrunning
    refine ⟨e, ?_⟩
    rw [call, body, Program.run_map, he]
    rfl

end StatusWrite

def Phase.asks : Phase → Bool
  | .received .. | .ended | .handling => true
  | _ => false

def Phase.receives : Phase → Bool
  | .received .. => true
  | _ => false

def Phase.exposed : Phase → Bool
  | .writing _ .unresolved | .writing _ .handler | .handling => true
  | _ => false

def RunStatus.cancelling (status : RunStatus) : Bool :=
  decide (status = .cancelRequested) || decide (status = .cancelled)

namespace Execution

variable (platform : Platform) (e : Execution)

def MayFail (db : Tables) : Prop := match e.phase with
  | .loading | .materializing .. | .appending .. => True
  | .received .. | .ended | .handling => db.agentRuns.find? e.run.runId = none
  | .writing write _ => ¬ write.Succeeds e.run db
  | _ => False

lemma raise_eq : e.raise = e.goto (if e.phase.exposed then .rejected else .catching) := by
  cases hp : e.phase
  case writing write place => cases place <;> simp [raise, hp, Phase.exposed]
  all_goals simp [raise, hp, Phase.exposed]

inductive Answered (answer : Bool) : Execution → Prop
  | cancels (place : Place) (h : e.phase.receives = true ∧ e.aborted = true ∨ answer = true) :
      Answered answer (e.goto (.writing .cancel place))
  | stops (h : answer = true) : Answered answer { e with aborted := true, phase := .stopping }
  | fails (code : String) (place : Place) : Answered answer (e.goto (.writing (.fail code) place))
  | accepts (context : RunWorker.RunContext) (value : ConnectorValue) (event : ConnectorEvent)
      (hp : e.phase = .received context value) (ha : e.aborted = false) (h : EventOf event e.eventContext) :
      Answered answer (e.goto (.materializing context event))

lemma answered {answer : Bool} (h : e.phase.asks = true) :
    e.Answered answer (e.resume platform (.ok (.answer answer))) := by
  cases hp : e.phase <;> rw [hp] at h <;> simp only [Phase.asks, Bool.false_eq_true] at h <;>
    simp only [resume, hp]
  case received context value =>
    unfold examine
    split
    · exact .cancels _ (Or.inl ⟨by rw [hp]; rfl, ‹_›⟩)
    · rename_i ha
      split
      · exact .stops ‹_›
      · split
        · exact .fails _ _
        · exact .accepts context value _ hp (Bool.eq_false_iff.mpr ha) (acceptedEvent_eventOf platform ‹_›)
  case ended | handling =>
    cases answer with
    | true => exact .cancels _ (Or.inr rfl)
    | false => exact .fails _ _

inductive Reaction : Signal → Phase → Prop
  | same {signal : Signal} : Reaction signal e.phase
  | received {context : RunWorker.RunContext} {value : ConnectorValue} (h : e.phase = .pulling context) :
      Reaction (.yields value) (.received context value)
  | ended {context : RunWorker.RunContext} (h : e.phase = .pulling context) : Reaction .ends .ended
  | cancelsAtEnd {context : RunWorker.RunContext} (h : e.phase = .pulling context) (ha : e.aborted = true) :
      Reaction .ends (.writing .cancel .afterLoop)
  | thrown {context : RunWorker.RunContext} (h : e.phase = .pulling context) : Reaction .throws .catching
  | cancelThrows (h : e.phase = .stopping) : Reaction .throws .catching
  | cleanUpThrows (h : e.phase = .leaving) : Reaction .throws .catching
  | cancelled (h : e.phase = .stopping) : Reaction .settles (.writing .cancel .loop)
  | returned (h : e.phase = .leaving) : Reaction .settles .returned
  | cancelsInHandler (h : e.phase = .catching) (ha : e.aborted = true) : Reaction .settles
      (.writing .cancel .handler)
  | handles (h : e.phase = .catching) : Reaction .settles .handling
  | faults (h : e.phase.calls = true) : Reaction .fault (if e.phase.exposed then .rejected else .catching)
  | crashes : Reaction .crash .crashed

lemma reaction (signal : Signal) : ∃ phase, e.Reaction signal phase ∧ e.react signal = e.goto phase := by
  cases signal <;> simp only [react]
  case yields value =>
    split
    · exact ⟨_, .received ‹_›, rfl⟩
    · exact ⟨_, .same, rfl⟩
  case ends =>
    split
    · cases ha : e.aborted with
      | true => exact ⟨_, .cancelsAtEnd ‹_› ha, rfl⟩
      | false => exact ⟨_, .ended ‹_›, rfl⟩
    · exact ⟨_, .same, rfl⟩
  case throws =>
    split
    · exact ⟨_, .thrown ‹_›, rfl⟩
    · exact ⟨_, .cancelThrows ‹_›, rfl⟩
    · exact ⟨_, .cleanUpThrows ‹_›, rfl⟩
    · exact ⟨_, .same, rfl⟩
  case settles =>
    split
    · exact ⟨_, .cancelled ‹_›, rfl⟩
    · exact ⟨_, .returned ‹_›, rfl⟩
    · cases ha : e.aborted with
      | true => exact ⟨_, .cancelsInHandler ‹_› ha, rfl⟩
      | false => exact ⟨_, .handles ‹_›, rfl⟩
    · exact ⟨_, .same, rfl⟩
  case fault =>
    split
    · exact ⟨_, .faults ‹_›, e.raise_eq⟩
    · exact ⟨_, .same, rfl⟩
  case crash =>
    split
    · exact ⟨_, .same, rfl⟩
    · exact ⟨_, .crashes, rfl⟩

end Execution

inductive Change (server : Deployment) (s : State) : Action → State → Prop
  | idle (a : Action) : Change server s a s
  | visited {process : ℕ} {call : Call} {ids : List Id} (hd : drawnIds call = some ids) (hf : s.Fresh ids)
      (h : Visited call s.db ((body server call).run s.db).2) :
      Change server s (.visit process call) (s.visit server process call ids)
  | swept {policy : RetentionService.RetentionPolicy} {orders : RetentionService.Orders}
      {now : Timestamp} {b : Tables}
      (h : SweptAway s.db b) : Change server s (.sweep policy orders now) { s with db := b }
  | dismissed {process : ℕ} {runId : Id} :
      Change server s (.request process runId) { s with requests := s.requests.erase (process, runId) }
  | requested {process : ℕ} {runId : Id} {i : ℕ} {e : Execution} (hr : (process, runId) ∈ s.requests)
      (ha : s.active process runId = some i) (he : s.executions[i]? = some e) : Change server s
        (.request process runId)
        (State.put { s with requests := s.requests.erase (process, runId) } i e.abort)
  | claimed {process : ℕ} {options : RunWorker.Options} {order : Arrangement AgentRun} {now : Timestamp}
      {resolved : Bool} {r : AgentRun} (hr : r ∈ s.db.agentRuns) (hc : RunWorker.claimable options now r = true)
      (hq : ((RunWorker.claim options order now).run s.db).1 = .ok (some (RunWorker.startAttempt options now r))) :
      Change server s (.claim process options order now resolved)
        (s.begin process options now resolved (RunWorker.startAttempt options now r) { s.db with
          agentRuns := s.db.agentRuns.update (RunWorker.isRun r.runId) (RunWorker.startAttempt options now)
            fun _ => rfl })
  | signalled {i : ℕ} {e : Execution} {signal : Signal} {phase : Phase} (he : s.executions[i]? = some e)
      (hr : e.Reaction signal phase) : Change server s (.signal i signal) (s.put i (e.goto phase))
  | renewed {i : ℕ} {e : Execution} {now : Timestamp} {r : AgentRun} (he : s.executions[i]? = some e)
      (hb : e.phase.beats = true) (hr : s.db.agentRuns.find? e.run.runId = some r) (hs : r.status = .running)
      (ha : r.attempt = e.run.attempt) : Change server s (.renew i now) { s with db := { s.db with
        agentRuns := s.db.agentRuns.update (fun r => RunWorker.isRun e.run.runId r &&
          (decide (r.status = .running) && decide (r.attempt = e.run.attempt)))
          (RunWorker.extendLease e.options now) fun _ => rfl } }
  | lapsed {i : ℕ} {e : Execution} {now : Timestamp} (he : s.executions[i]? = some e) (hb : e.phase.beats = true)
      (hr : ∀ r, s.db.agentRuns.find? e.run.runId = some r → ¬ (r.status = .running ∧ r.attempt = e.run.attempt)) :
      Change server s (.renew i now) (s.put i e.abort)
  | lost {i : ℕ} {e : Execution} (he : s.executions[i]? = some e) (hb : e.phase.beats = true) :
      Change server s (.loseHeartbeat i) (s.put i e.abort)
  | failed {i : ℕ} {e : Execution} {draw : Draw} (he : s.executions[i]? = some e) (hf : e.MayFail s.db) :
      Change server s (.work i draw) (s.put i (e.goto (if e.phase.exposed then .rejected else .catching)))
  | loaded {i : ℕ} {e : Execution} {draw : Draw} {context : RunWorker.RunContext} (he : s.executions[i]? = some e)
      (hp : e.phase = .loading) (ht : context.scope.tenantId = e.run.tenantId)
      (hs : context.scope.siteId = e.run.siteId) : Change server s (.work i draw)
        (s.put i (e.goto (.pulling context)))
  | answered {i : ℕ} {e e' : Execution} {draw : Draw} {r : AgentRun} (he : s.executions[i]? = some e)
      (hp : e.phase.asks = true) (hr : s.db.agentRuns.find? e.run.runId = some r)
      (ha : e.Answered (RunStatus.cancelling r.status) e') : Change server s (.work i draw) (s.put i e')
  | materialized {i : ℕ} {e : Execution} {draw : Draw} {context : RunWorker.RunContext} {event : ConnectorEvent}
      {b : Tables} (he : s.executions[i]? = some e) (hp : e.phase = .materializing context event)
      (h : Materialized e.run e.now context.assistantParticipantId event.body s.db b) :
      Change server s (.work i draw) (State.put { s with db := b } i (e.goto (.appending context event)))
  | appended {i : ℕ} {e : Execution} {draw : Draw} {context : RunWorker.RunContext} {event : ConnectorEvent}
      {c : Conversation} (he : s.executions[i]? = some e) (hp : e.phase = .appending context event)
      (hm : c ∈ s.db.conversations) (hc : inConversation context.scope event.conversationId c = true)
      (hi : s.db.conversationEvents.find? draw.eventId = none) : Change server s (.work i draw) (State.put { s with
        db := appendTo context.scope event draw.eventId draw.occurredAt server.retentionMaxEvents
          c.nextEventSequence s.db
        appended := s.appended ++ [⟨event, draw.eventId, c.nextEventSequence, toISOString draw.occurredAt⟩] } i
          (e.goto (Execution.afterAppend context event.body)))
  | wrote {i : ℕ} {e : Execution} {draw : Draw} {write : StatusWrite} {place : Place}
      (he : s.executions[i]? = some e)
      (hp : e.phase = .writing write place) (hw : write.Succeeds e.run s.db) :
      Change server s (.work i draw) (State.put { s with db := write.effect e.run e.now s.db } i
        (e.goto (if place = .loop then .leaving else .returned)))

section Step

variable {server : Deployment} {s : State} (hs : Sequenced s.db)

lemma appended_nil (s : State) (b : Tables) : { s with db := b, appended := s.appended ++ [] } =
  { s with db := b } := by
  rw [List.append_nil]

lemma returns_loadContext (run : AgentRun) (orders : RunWorker.Orders) : (RunWorker.loadContext run orders).Returns
    fun context => context.scope.tenantId = run.tenantId ∧ context.scope.siteId = run.siteId := by
  unfold RunWorker.loadContext
  refine (Program.returns_true _).bind fun currentMessage _ =>
    (Program.returns_true _).bind fun conversation _ => ?_
  refine (Program.returns_true _).bind fun history _ => (Program.returns_true _).bind fun participants _ => ?_
  refine (Program.returns_true _).bind fun principal _ => (Program.returns_true _).bind fun inputs _ => ?_
  dsimp only
  split
  · refine (Program.returns_true _).bind fun resolvedInputs _ => ?_
    split
    · exact ⟨rfl, rfl⟩
    · trivial
  · trivial

lemma work_error {i : ℕ} {e : Execution} {call : Call} {error : ServerError}
    (h : (body server call).run s.db = (.error error, s.db)) :
    s.work server i e call = s.put i (e.goto (if e.phase.exposed then .rejected else .catching)) := by
  rw [State.work, h, ← e.raise_eq]
  exact congrArg (fun s : State => s.put i e.raise) (appended_nil s s.db)

lemma work_ok {i : ℕ} {e : Execution} {call : Call} {outcome : Outcome} {b : Tables}
    (h : (body server call).run s.db = (.ok outcome, b)) (ha : State.appendedBy (.ok outcome) = []) :
    s.work server i e call = State.put { s with db := b } i (e.resume server.platform (.ok outcome)) := by
  rw [State.work, h]
  change State.put { s with db := b, appended := s.appended ++ State.appendedBy (.ok outcome) } i _ = _
  rw [ha, List.append_nil]

include hs in
lemma change_work {i : ℕ} {draw : Draw} {e : Execution} {call : Call} (he : s.executions[i]? = some e)
    (hc : e.call draw = some call) : Change server s (.work i draw) (s.work server i e call) := by
  have hasks : e.phase.asks = true → call = .isCancellationRequested e.run.runId →
      Change server s (.work i draw) (s.work server i e call) := by
    rintro hp rfl
    have hrun : (body server (.isCancellationRequested e.run.runId)).run s.db =
        (((RunWorker.isCancellationRequested e.run.runId).run s.db).1.map .answer,
          ((RunWorker.isCancellationRequested e.run.runId).run s.db).2) := Program.run_map _ _ _
    rw [run_isCancellationRequested] at hrun
    cases hr : s.db.agentRuns.find? e.run.runId with
    | none =>
      rw [hr] at hrun
      rw [work_error hrun]
      refine .failed he ?_
      unfold Execution.MayFail
      cases hph : e.phase <;> rw [hph] at hp <;> simp [Phase.asks] at hp <;> exact hr
    | some r =>
      rw [hr] at hrun
      rw [work_ok hrun rfl]
      exact .answered he hp hr (e.answered server.platform hp)
  cases hp : e.phase <;> rw [Execution.call, hp] at hc <;> simp only [reduceCtorEq, Option.some.injEq] at hc
  case received | ended | handling => exact hasks (by rw [hp]; rfl) hc.symm
  case loading =>
    subst hc
    have hsame : ((RunWorker.loadContext e.run draw.orders).run s.db).2 = s.db :=
      (keeps_loadContext (fun _ => rfl) e.run draw.orders).run_eq s.db
    have hrun : (body server (.loadContext e.run draw.orders)).run s.db =
        (((RunWorker.loadContext e.run draw.orders).run s.db).1.map .context, s.db) :=
      (Program.run_map _ _ _).trans (by rw [hsame])
    cases hr : ((RunWorker.loadContext e.run draw.orders).run s.db).1 with
    | error error =>
      rw [hr] at hrun
      rw [work_error hrun]
      refine .failed he ?_
      rw [Execution.MayFail, hp]
      trivial
    | ok context =>
      rw [hr] at hrun
      obtain ⟨ht, hsite⟩ := (returns_loadContext e.run draw.orders).run s.db context hr
      have hresume : e.resume server.platform (.ok (.context context)) = e.goto (.pulling context) := by
        simp only [Execution.resume, hp]
      rw [work_ok hrun rfl, hresume]
      exact .loaded he hp ht hsite
  case materializing context event =>
    subst hc
    have hrun : (body server (.materialize e.run e.now context.assistantParticipantId event)).run s.db = _ :=
      Program.run_map _ _ _
    rcases run_materialize hs event with ⟨error, h⟩ | ⟨b, hb, h⟩
    · rw [h] at hrun
      rw [work_error hrun]
      refine .failed he ?_
      rw [Execution.MayFail, hp]
      trivial
    · rw [h] at hrun
      have hresume : e.resume server.platform (.ok (.done ())) = e.goto (.appending context event) := by
        simp only [Execution.resume, hp]
      rw [work_ok hrun rfl, hresume]
      exact .materialized he hp hb
  case appending context event =>
    subst hc
    have hrun : (body server (.appendEvent context.scope event draw.eventId draw.occurredAt)).run s.db = _ :=
      Program.run_map _ _ _
    rcases run_append context.scope event draw.eventId draw.occurredAt server.retentionMaxEvents s.db with
      ⟨error, h⟩ | ⟨c, hm, hc, hb, h⟩
    · rw [h] at hrun
      rw [work_error hrun]
      refine .failed he ?_
      rw [Execution.MayFail, hp]
      trivial
    · rw [h] at hrun
      rw [State.work, hrun]
      simp only [Execution.resume, hp]
      exact .appended he hp hm hc (conversationEvents.broken_eq_none.mp hb).2.1
  case writing write place =>
    subst hc
    by_cases hw : write.Succeeds e.run s.db
    · rw [work_ok (write.run_call server hs hw e.now) rfl]
      have hresume : e.resume server.platform (.ok (.done ())) =
        e.goto (if place = .loop then .leaving else .returned) := by
        simp only [Execution.resume, hp]
        cases place <;> rfl
      rw [hresume]
      exact .wrote he hp hw
    · obtain ⟨error, h⟩ := write.run_call_error server hw e.now
      rw [work_error h]
      refine .failed he ?_
      rw [Execution.MayFail, hp]
      exact hw

include hs in
theorem step_change (hr : Rooted s.db) (a : Action) : Change server s a (s.step server a) := by
  cases a with
  | visit process call =>
    cases hd : drawnIds call with
    | none => simp only [State.step, hd]; exact .idle _
    | some ids =>
      simp only [State.step, hd]
      split
      · exact .visited hd ‹_› (run_visit server hd s.db)
      · exact .idle _
  | sweep policy orders now =>
    rcases run_runOnce policy orders now hr with h | h
    · have hstep : s.step server (.sweep policy orders now) = s := by
        simp only [State.step, taskBody, Program.run_map, h]
      rw [hstep]
      exact .idle _
    · have hstep : s.step server (.sweep policy orders now) =
          { s with db := ((RetentionService.runOnce policy orders now).run s.db).2 } := by
        simp only [State.step, taskBody, Program.run_map]
      rw [hstep]
      exact .swept h
  | request process runId =>
    simp only [State.step]
    split
    · rename_i hreq
      cases ha : s.active process runId with
      | none => exact .dismissed
      | some i =>
        cases he : s.executions[i]? with
        | none =>
          simp only [Option.bind_some, he, Option.map_none]
          exact .dismissed
        | some e =>
          simp only [Option.bind_some, he, Option.map_some]
          exact .requested hreq ha he
    · exact .idle _
  | claim process options order now resolved =>
    have hrun : (body server (.claim options order now)).run s.db = _ := Program.run_map _ _ _
    have hclaim : (RunWorker.claim options order now).run s.db = (.ok none, s.db) ∨ _ :=
      run_claim now options order
    rcases hclaim with h | ⟨r, hm, hc, h⟩
    · rw [h] at hrun
      simp only [State.step, hrun]
      exact .idle _
    · rw [h] at hrun
      simp only [State.step, hrun]
      exact .claimed hm hc (congrArg Prod.fst h)
  | work i draw =>
    simp only [State.step]
    split
    · rename_i e he
      split
      · exact change_work hs he ‹_›
      · exact .idle _
    · exact .idle _
  | signal i signal =>
    simp only [State.step]
    split
    · rename_i e he
      obtain ⟨phase, hr, heq⟩ := e.reaction signal
      rw [heq]
      exact .signalled he hr
    · exact .idle _
  | renew i dateNow =>
    simp only [State.step]
    split
    · rename_i e he
      split
      · rename_i hb
        have hrun : (body server (.renewLease e.options e.run dateNow)).run s.db = _ := Program.run_map _ _ _
        by_cases hheld : ∃ r, s.db.agentRuns.find? e.run.runId = some r ∧ r.status = .running ∧
          r.attempt = e.run.attempt
        · obtain ⟨r, hfind, hrunning, ha⟩ := hheld
          rw [run_renewLease_held e.run dateNow e.options hfind hrunning ha] at hrun
          simp only [State.renew, hrun]
          exact .renewed he hb hfind hrunning ha
        · have hlost : ∀ r, s.db.agentRuns.find? e.run.runId = some r →
            ¬ (r.status = .running ∧ r.attempt = e.run.attempt) :=
            fun r hfind h => hheld ⟨r, hfind, h⟩
          rw [run_renewLease_lost e.run dateNow e.options hlost] at hrun
          simp only [State.renew, hrun]
          exact .lapsed he hb hlost
      · exact .idle _
    · exact .idle _
  | loseHeartbeat i =>
    simp only [State.step]
    split
    · split
      · exact .lost ‹_› ‹_›
      · exact .idle _
    · exact .idle _

end Step

end ChatCore.Runs
