import ChatCore.Relational.Rules
import ChatCore.Services.Server

namespace ChatCore.Services

open Protocol Relational Database

variable {platform : Platform} {K : Tables → Tables → Prop} (hK : ∀ db, K db db)

def Answers (K : Tables → Tables → Prop) (k : CommandKey) : Prop :=
  ∀ r, r.key = k → commandIdempotency.Inserts K r

include hK in
lemma keeps_requireConversation (scope : Scope) (conversationId : Id) :
    (requireConversation scope conversationId).Keeps K := by
  refine (Relation.keeps_selectFirst _ hK _).bind fun c => ?_
  cases c <;> trivial

include hK in
lemma keeps_withIdempotency {α : Type} {k : CommandKey} {replay : CommandIdempotency → Query α} {fresh : Query α}
    (hreplay : ∀ previous, (replay previous).Keeps K) (hfresh : fresh.Keeps K) :
    (withIdempotency platform k replay fresh).Keeps K := by
  unfold withIdempotency lockIdempotency findIdempotency
  refine (keeps_lock hK _).bind fun _ => (Relation.keeps_selectFirst _ hK _).bind fun previous => ?_
  cases previous with
  | none => exact hfresh
  | some previous => exact hreplay previous

lemma keeps_sameRequest (requestHash : String) (previous : CommandIdempotency) :
    (sameRequest requestHash previous).Keeps K := by
  unfold sameRequest
  split <;> trivial

lemma keeps_commitNow : (Program.commitNow : Query Unit).Keeps K := trivial

section Commands

include hK

lemma keeps_conversationGet (scope : Scope) (conversationId : Id) :
    (ConversationService.get scope conversationId).Keeps K := by
  unfold ConversationService.get
  refine (keeps_requireConversation hK _ _).bind fun _ => ?_
  exact (Relation.keeps_selectFrom _ hK _).bind fun _ => trivial

lemma keeps_messageGet (scope : Scope) (conversationId messageId : Id) :
    (MessageService.get scope conversationId messageId).Keeps K := by
  unfold MessageService.get
  refine (keeps_requireConversation hK _ _).bind fun _ => (Relation.keeps_selectFirst _ hK _).bind fun m => ?_
  cases m <;> trivial

lemma keeps_inputGet (scope : Scope) (conversationId requestId : Id) :
    (StructuredInputService.get scope conversationId requestId).Keeps K := by
  unfold StructuredInputService.get
  refine (keeps_select hK _).bind fun row => ?_
  cases row with
  | none => trivial
  | some row =>
    dsimp only [StructuredInputService.mapInput]
    split <;> trivial

lemma keeps_createConversation (scope : Scope) (agentRef : Id) (idempotencyKey : String)
    (ids : ConversationService.CreateIds) (time : Timestamp)
    (hcommand : Answers K (commandKey scope ConversationService.operation idempotencyKey))
    (hconversation : conversations.Inserts K
      (ConversationService.newConversation scope agentRef ids.id time))
    (huser : conversationParticipants.Inserts K (ConversationService.userParticipant scope ids))
    (hagent : conversationParticipants.Inserts K (ConversationService.agentParticipant scope agentRef ids)) :
    (ConversationService.create platform scope agentRef idempotencyKey ids time).Keeps K := by
  unfold ConversationService.create
  refine Program.Keeps.bind (Program.Keeps.transaction ?_) fun id =>
    keeps_conversationGet hK scope id
  · refine keeps_withIdempotency hK (keeps_sameRequest _) ?_
    unfold ConversationService.insertConversation
    refine Program.Keeps.bind (Relation.keeps_insertInto hconversation) fun _ => ?_
    refine Program.Keeps.bind (Relation.keeps_insertInto huser) fun _ => ?_
    refine Program.Keeps.bind (Relation.keeps_insertInto hagent) fun _ => ?_
    exact Program.Keeps.bind (Relation.keeps_insertInto (hcommand _ rfl)) fun _ => trivial

lemma keeps_submitMessage (scope : Scope) (conversationId : Id) (request : MessageService.SubmitMessageRequest)
    (idempotencyKey : String) (ids : MessageService.SubmitIds) (now time : Timestamp)
    (hcommand : Answers K (commandKey scope (MessageService.operation conversationId) idempotencyKey))
    (hconversation : conversations.Updates K (MessageService.takeMessageSequence now) (fun _ => rfl))
    (hmessage : ∀ m, messages.Inserts K m)
    (hrun : ∀ r, agentRuns.Inserts K r) :
    (MessageService.submit platform scope conversationId request idempotencyKey ids now time).Keeps K := by
  unfold MessageService.submit
  refine Program.Keeps.bind (Program.Keeps.transaction ?_) fun id =>
    keeps_messageGet hK scope conversationId id
  · refine keeps_withIdempotency hK (keeps_sameRequest _) ?_
    unfold MessageService.insertMessage
    refine (keeps_requireConversation hK _ _).bind fun c => ?_
    refine (Relation.keeps_selectFirstOrThrow _ hK _).bind fun p => ?_
    refine Program.Keeps.bind (Relation.keeps_updateTable hconversation) fun rows => ?_
    refine Program.Keeps.bind (Relation.keeps_orThrow _) fun updated => ?_
    refine Program.Keeps.bind (Relation.keeps_insertInto (hmessage _)) fun _ => ?_
    refine Program.Keeps.bind (Relation.keeps_insertInto (hrun _)) fun _ => ?_
    exact Program.Keeps.bind (Relation.keeps_insertInto (hcommand _ rfl)) fun _ => trivial

lemma keeps_createEmailHandoff (scope : Scope) (conversationId : Id)
    (request : EmailHandoffService.CreateEmailHandoffRequest) (idempotencyKey : String)
    (ids : EmailHandoffService.CreateIds) (now time : Timestamp)
    (hcommand : Answers K (commandKey scope (EmailHandoffService.operation conversationId) idempotencyKey))
    (hrun : ∀ r, agentRuns.Inserts K r)
    (hhandoff : ∀ h, handoffs.Inserts K h)
    (hinput : structuredInputRequests.Inserts K
      (EmailHandoffService.newInput scope conversationId (EmailHandoffService.normalize request.email) ids now)) :
    (EmailHandoffService.create platform scope conversationId request idempotencyKey ids now time).Keeps K := by
  unfold EmailHandoffService.create
  refine Program.Keeps.bind (Program.Keeps.transaction ?_) fun id =>
    (Relation.keeps_selectFirstOrThrow _ hK _).bind fun _ => trivial
  refine keeps_withIdempotency hK (keeps_sameRequest _) ?_
  unfold EmailHandoffService.insertHandoff
  refine (keeps_requireConversation hK _ _).bind fun c => ?_
  refine (Relation.keeps_selectFrom _ hK _).bind fun ms => ?_
  cases (ms.mergeSort EmailHandoffService.laterFirst).head? with
  | none => trivial
  | some trigger =>
    refine Program.Keeps.bind (Relation.keeps_insertInto (hrun _)) fun _ => ?_
    refine Program.Keeps.bind (Relation.keeps_insertInto (hhandoff _)) fun _ => ?_
    refine Program.Keeps.bind (Relation.keeps_insertInto hinput) fun _ => ?_
    exact Program.Keeps.bind (Relation.keeps_insertInto (hcommand _ rfl)) fun _ => trivial

lemma keeps_cancelCommand (scope : Scope) (conversationId : Id) (idempotencyKey : String)
    (order : Arrangement AgentRun) (now time : Timestamp)
    (hcommand : Answers K (commandKey scope (RunService.operation conversationId) idempotencyKey))
    (hqueued : agentRuns.Updates K (RunService.cancelQueued now) (fun _ => rfl))
    (hrunning : agentRuns.Updates K (RunService.requestCancel now) (fun _ => rfl)) :
    (RunService.cancel platform scope conversationId idempotencyKey order now time).Keeps K := by
  unfold RunService.cancel
  refine Program.Keeps.transaction (keeps_withIdempotency hK (fun previous => ?_) ?_)
  · unfold RunService.decodeOutcome
    dsimp only
    split
    · split <;> trivial
    · trivial
  · unfold RunService.cancelLatest
    refine (keeps_requireConversation hK _ _).bind fun c => ?_
    refine (Relation.keeps_forUpdate _ hK _).bind fun runs => ?_
    cases (order.sorted RunService.latestFirst runs).head? with
    | none => trivial
    | some run =>
      refine Program.Keeps.bind ?_ fun status =>
        Program.Keeps.bind (Relation.keeps_insertInto (hcommand _ rfl)) fun _ => trivial
      unfold RunService.cancelRun RunService.updateRun
      cases run.status with
      | queued =>
        exact Program.Keeps.bind ((Relation.keeps_updateTable hqueued).bind fun _ => trivial) fun _ => trivial
      | running | cancelRequested =>
        exact Program.Keeps.bind ((Relation.keeps_updateTable hrunning).bind fun _ => trivial) fun _ => trivial
      | waitingForInput | completed | failed | cancelled => trivial

lemma keeps_submitStructuredInput (scope : Scope) (conversationId requestId : Id)
    (request : StructuredInputService.SubmitStructuredInputRequest) (idempotencyKey : String)
    (now time : Timestamp)
    (hcommand : Answers K
      (commandKey scope (StructuredInputService.operation conversationId requestId) idempotencyKey))
    (hinput : structuredInputRequests.Updates K (StructuredInputService.resolve request now) (fun _ => rfl))
    (hrun : agentRuns.Updates K (StructuredInputService.requeue now) (fun _ => rfl))
    (hhandoff : handoffs.Updates K (StructuredInputService.deliver now) (fun _ => rfl)) :
    (StructuredInputService.submit platform scope conversationId requestId request idempotencyKey now
      time).Keeps K := by
  unfold StructuredInputService.submit
  refine Program.Keeps.bind (Program.Keeps.transaction ?_) fun _ =>
    keeps_inputGet hK scope conversationId requestId
  · refine keeps_withIdempotency hK (fun previous => (keeps_sameRequest _ previous).bind fun _ => trivial) ?_
    unfold StructuredInputService.resolveInput
    refine (keeps_requireConversation hK _ _).bind fun c => ?_
    refine (Relation.keeps_forUpdate _ hK _).bind fun inputs => ?_
    cases inputs.head? with
    | none => trivial
    | some input =>
      dsimp only
      split
      · trivial
      refine Program.Keeps.bind (Relation.keeps_updateTable hinput) fun updated => ?_
      split
      · trivial
      refine Program.Keeps.bind (Relation.keeps_updateTable hrun) fun requeued => ?_
      split
      · trivial
      refine Program.Keeps.bind ?_ fun _ => Relation.keeps_insertInto (hcommand _ rfl)
      cases request with
      | submitted value => exact (Relation.keeps_updateTable hhandoff).bind fun _ => trivial
      | declined => trivial

end Commands

section Events

include hK

omit hK in
lemma keeps_storing (taken : Bool) : (storing taken).Keeps K := by cases taken <;> trivial

omit hK in
lemma keeps_append (retentionMaxEvents : ℕ) (scope : Scope) (event : ConnectorEvent) (eventId : Id)
    (time : Timestamp)
    (hconversation : conversations.Updates K EventStore.takeEventSequence (fun _ => rfl))
    (hinsert : ∀ e, conversationEvents.Inserts K e)
    (hdelete : conversationEvents.Deletes K) :
    (EventStore.append retentionMaxEvents scope event eventId time).Keeps K := by
  unfold EventStore.append
  refine Program.Keeps.transaction (Program.Keeps.bind (Relation.keeps_updateTable hconversation) fun rows => ?_)
  cases rows.head? with
  | none => trivial
  | some allocation =>
    refine (keeps_storing _).bind fun _ => Program.Keeps.bind (Relation.keeps_insertInto (hinsert _)) fun _ => ?_
    exact Program.Keeps.bind (Relation.keeps_deleteFrom hdelete) fun _ => trivial

lemma keeps_replay (scope : Scope) (conversationId : Id) (afterEventId : Option Id)
    (stamp : EventStore.SyncStamp) :
    (EventStore.replay scope conversationId afterEventId stamp).Keeps K := by
  have hrows : ∀ n, (EventStore.replayRows scope conversationId n).Keeps K :=
    fun n => (Relation.keeps_selectFrom _ hK _).bind fun _ => trivial
  unfold EventStore.replay
  refine (keeps_requireConversation hK _ _).bind fun c => ?_
  unfold EventStore.replayAfter
  cases afterEventId.bind present with
  | none => exact hrows 0
  | some eventId =>
    refine (Relation.keeps_selectFirst _ hK _).bind fun cursor => ?_
    cases cursor with
    | none => trivial
    | some cursor => exact hrows _

end Events

section Worker

include hK

lemma keeps_claim (options : RunWorker.Options) (order : Arrangement AgentRun) (now : Timestamp)
    (hrun : agentRuns.Updates K (RunWorker.startAttempt options now) (fun _ => rfl)) :
    (RunWorker.claim options order now).Keeps K := by
  unfold RunWorker.claim
  refine Program.Keeps.transaction ((Relation.keeps_skipLocked _ hK _).bind fun candidates => ?_)
  cases (order.sorted RunWorker.claimOrder candidates).head? with
  | none => trivial
  | some candidate =>
    refine Program.Keeps.bind (Relation.keeps_updateTable hrun) fun rows => ?_
    exact Program.Keeps.bind (Relation.keeps_orThrow _) fun _ => trivial

lemma keeps_loadContext (run : AgentRun) (orders : RunWorker.Orders) :
    (RunWorker.loadContext run orders).Keeps K := by
  unfold RunWorker.loadContext
  refine (Relation.keeps_selectFirstOrThrow _ hK _).bind fun currentMessage => ?_
  refine (Relation.keeps_selectFirstOrThrow _ hK _).bind fun conversation => ?_
  refine (Relation.keeps_selectFrom _ hK _).bind fun history => ?_
  refine (Relation.keeps_selectFrom _ hK _).bind fun participants => ?_
  refine (Relation.keeps_selectFirstOrThrow _ hK _).bind fun principal => ?_
  refine (Relation.keeps_selectFrom _ hK _).bind fun inputs => ?_
  dsimp only
  split
  · refine Program.Keeps.bind ?_ fun resolvedInputs => ?_
    · cases (orders.inputs.sorted RunWorker.createdFirst inputs).mapM RunWorker.resolvedInput <;> trivial
    · split <;> trivial
  · trivial

lemma keeps_startMessage (run : AgentRun) (now : Timestamp) (participantId : Id)
    (hconversation : conversations.Updates K (MessageService.takeMessageSequence now) (fun _ => rfl))
    (hmessage : ∀ m, messages.Inserts K m) :
    (RunWorker.startMessage run now participantId).Keeps K := by
  unfold RunWorker.startMessage
  refine Program.Keeps.transaction ((Relation.keeps_selectFirst _ hK _).bind fun exists? => ?_)
  cases exists? with
  | some m => trivial
  | none =>
    refine Program.Keeps.bind (Relation.keeps_updateTable hconversation) fun rows => ?_
    refine Program.Keeps.bind (Relation.keeps_orThrow _) fun sequence => ?_
    exact Relation.keeps_insertInto (hmessage _)

omit hK in
lemma keeps_completeMessage (run : AgentRun) (now : Timestamp) (parts : List ContentPart)
    (hmessage : messages.Updates K (RunWorker.finishMessage now parts) (fun _ => rfl)) :
    (RunWorker.completeMessage run now parts).Keeps K := by
  unfold RunWorker.completeMessage
  refine Program.Keeps.bind (Program.Keeps.transaction (Relation.keeps_updateTable hmessage)) fun result => ?_
  split <;> trivial

lemma keeps_requestHandoff (run : AgentRun) (now : Timestamp) (handoffId : Id)
    (hhandoff : handoffs.Inserts K
      (RunWorker.newHandoff run now handoffId)) :
    (RunWorker.requestHandoff run now handoffId).Keeps K := by
  unfold RunWorker.requestHandoff
  refine Program.Keeps.bind (Program.Keeps.transaction (Relation.keeps_insertOrIgnore hK hhandoff)) fun _ => ?_
  refine (Relation.keeps_selectFirstOrThrow _ hK _).bind fun handoff => ?_
  split <;> trivial

lemma keeps_requestContact (run : AgentRun) (now : Timestamp) (requestId : Id) (prompt : String) (required : Bool)
    (hinput : structuredInputRequests.Inserts K
      (RunWorker.newInput run now requestId prompt required))
    (hhandoff : handoffs.Updates K (RunWorker.awaitContact now) (fun _ => rfl)) :
    (RunWorker.requestContact run now requestId prompt required).Keeps K := by
  unfold RunWorker.requestContact
  refine Program.Keeps.transaction ?_
  refine (Relation.keeps_selectFirstOrThrow _ hK _).bind fun handoff => ?_
  refine Program.Keeps.bind (Relation.keeps_insertOrIgnore hK hinput) fun _ => ?_
  refine (Relation.keeps_selectFirstOrThrow _ hK _).bind fun input => ?_
  split
  · trivial
  · exact Program.Keeps.bind (Relation.keeps_updateTable hhandoff) fun _ => trivial

omit hK in
lemma keeps_completeHandoff (run : AgentRun) (now : Timestamp) (handoffId : Id)
    (hhandoff : handoffs.Updates K (RunWorker.finishHandoff now) (fun _ => rfl)) :
    (RunWorker.completeHandoff run now handoffId).Keeps K := by
  unfold RunWorker.completeHandoff
  refine Program.Keeps.bind (Program.Keeps.transaction (Relation.keeps_updateTable hhandoff)) fun result => ?_
  split <;> trivial

omit hK in
lemma keeps_complete (runId : Id) (now : Timestamp)
    (hrun : agentRuns.Updates K (RunWorker.markCompleted now) (fun _ => rfl)) :
    (RunWorker.complete runId now).Keeps K := by
  unfold RunWorker.complete
  exact Program.Keeps.transaction ((Relation.keeps_updateTable hrun).bind fun _ => trivial)

omit hK in
lemma keeps_waitForInput (runId : Id) (now : Timestamp)
    (hrun : agentRuns.Updates K (RunWorker.markWaiting now) (fun _ => rfl)) :
    (RunWorker.waitForInput runId now).Keeps K := by
  unfold RunWorker.waitForInput
  refine Program.Keeps.bind (Program.Keeps.transaction (Relation.keeps_updateTable hrun)) fun result => ?_
  split <;> trivial

lemma keeps_isCancellationRequested (runId : Id) : (RunWorker.isCancellationRequested runId).Keeps K := by
  unfold RunWorker.isCancellationRequested
  exact (Relation.keeps_selectFirstOrThrow _ hK _).bind fun _ => trivial

omit hK in
lemma keeps_renewLease (options : RunWorker.Options) (run : AgentRun) (dateNow : Timestamp)
    (hrun : agentRuns.Updates K (RunWorker.extendLease options dateNow) (fun _ => rfl)) :
    (RunWorker.renewLease options run dateNow).Keeps K := by
  unfold RunWorker.renewLease
  exact Program.Keeps.bind (Program.Keeps.transaction (Relation.keeps_updateTable hrun)) fun _ => trivial

omit hK in
lemma keeps_workerCancel (run : AgentRun) (now : Timestamp)
    (hrun : agentRuns.Updates K (RunWorker.markCancelled now) (fun _ => rfl))
    (hmessage : messages.Updates K (RunWorker.cancelMessage now) (fun _ => rfl)) :
    (RunWorker.cancel run now).Keeps K := by
  unfold RunWorker.cancel
  refine Program.Keeps.transaction ((Relation.keeps_updateTable hrun).bind fun _ => ?_)
  exact Program.Keeps.bind (Relation.keeps_updateTable hmessage) fun _ => trivial

omit hK in
lemma keeps_fail (runId : Id) (code : String) (now : Timestamp)
    (hrun : agentRuns.Updates K (RunWorker.markFailed code now) (fun _ => rfl))
    (hhandoff : handoffs.Updates K (RunWorker.failHandoff now) (fun _ => rfl)) :
    (RunWorker.fail runId code now).Keeps K := by
  unfold RunWorker.fail
  refine Program.Keeps.transaction ((Relation.keeps_updateTable hrun).bind fun _ => ?_)
  exact Program.Keeps.bind (Relation.keeps_updateTable hhandoff) fun _ => trivial

end Worker

def MaterialWrites (K : Tables → Tables → Prop) (run : AgentRun) (now : Timestamp) : EventBody → Prop
  | .messageStarted => conversations.Updates K (MessageService.takeMessageSequence now)
      (MessageService.takeMessageSequence_conversationId now) ∧
      ∀ m, messages.Inserts K m
  | .messageCompleted parts => messages.Updates K (RunWorker.finishMessage now parts)
      (RunWorker.finishMessage_messageId now parts)
  | .handoffRequested handoffId => handoffs.Inserts K (RunWorker.newHandoff run now handoffId)
  | .contactRequested requestId prompt required =>
      structuredInputRequests.Inserts K (RunWorker.newInput run now requestId prompt required) ∧
        handoffs.Updates K (RunWorker.awaitContact now) (RunWorker.awaitContact_handoffId now)
  | .handoffCompleted _ => handoffs.Updates K (RunWorker.finishHandoff now) (RunWorker.finishHandoff_handoffId now)
  | _ => True

def Writes (K : Tables → Tables → Prop) : Call → Prop
  | .createConversation scope agentRef idempotencyKey ids time =>
      Answers K (commandKey scope ConversationService.operation idempotencyKey) ∧
        conversations.Inserts K (ConversationService.newConversation scope agentRef ids.id time) ∧
        ∀ p, conversationParticipants.Inserts K p
  | .submitMessage scope conversationId _ idempotencyKey _ now _ =>
      Answers K (commandKey scope (MessageService.operation conversationId) idempotencyKey) ∧
        conversations.Updates K (MessageService.takeMessageSequence now)
            (MessageService.takeMessageSequence_conversationId now) ∧
        (∀ m, messages.Inserts K m) ∧ ∀ r, agentRuns.Inserts K r
  | .createEmailHandoff scope conversationId request idempotencyKey ids now _ =>
      Answers K (commandKey scope (EmailHandoffService.operation conversationId) idempotencyKey) ∧
        (∀ r, agentRuns.Inserts K r) ∧ (∀ h, handoffs.Inserts K h) ∧ structuredInputRequests.Inserts K
          (EmailHandoffService.newInput scope conversationId (EmailHandoffService.normalize request.email) ids now)
  | .cancelRun scope conversationId idempotencyKey _ now _ =>
      Answers K (commandKey scope (RunService.operation conversationId) idempotencyKey) ∧
        agentRuns.Updates K (RunService.cancelQueued now) (RunService.cancelQueued_runId now) ∧
        agentRuns.Updates K (RunService.requestCancel now) (RunService.requestCancel_runId now)
  | .submitStructuredInput scope conversationId requestId request idempotencyKey now _ =>
      Answers K (commandKey scope (StructuredInputService.operation conversationId requestId) idempotencyKey) ∧
        structuredInputRequests.Updates K (StructuredInputService.resolve request now)
            (StructuredInputService.resolve_requestId request now) ∧
        agentRuns.Updates K (StructuredInputService.requeue now) (StructuredInputService.requeue_runId now) ∧
        handoffs.Updates K (StructuredInputService.deliver now) (StructuredInputService.deliver_handoffId now)
  | .appendEvent .. =>
    conversations.Updates K EventStore.takeEventSequence EventStore.takeEventSequence_conversationId ∧
      (∀ e, conversationEvents.Inserts K e) ∧ conversationEvents.Deletes K
  | .claim options _ now => agentRuns.Updates K (RunWorker.startAttempt options now)
      (RunWorker.startAttempt_runId options now)
  | .materialize run now _ event => MaterialWrites K run now event.body
  | .complete _ now => agentRuns.Updates K (RunWorker.markCompleted now) (RunWorker.markCompleted_runId now)
  | .waitForInput _ now => agentRuns.Updates K (RunWorker.markWaiting now) (RunWorker.markWaiting_runId now)
  | .renewLease options _ dateNow => agentRuns.Updates K (RunWorker.extendLease options dateNow)
      (RunWorker.extendLease_runId options dateNow)
  | .cancel _ now => agentRuns.Updates K (RunWorker.markCancelled now) (RunWorker.markCancelled_runId now) ∧
      messages.Updates K (RunWorker.cancelMessage now) (RunWorker.cancelMessage_messageId now)
  | .fail _ code now => agentRuns.Updates K (RunWorker.markFailed code now) (RunWorker.markFailed_runId code now) ∧
      handoffs.Updates K (RunWorker.failHandoff now) (RunWorker.failHandoff_handoffId now)
  | .replayEvents .. | .loadContext .. | .isCancellationRequested _ => True

include hK in
lemma keeps_materialize (run : AgentRun) (now : Timestamp) (participantId : Id) (event : ConnectorEvent)
    (h : Writes K (.materialize run now participantId event)) :
    (RunWorker.materialize run now participantId event).Keeps K := by
  unfold RunWorker.materialize
  change MaterialWrites K run now event.body at h
  cases hb : event.body <;> simp only [hb, MaterialWrites] at h ⊢
  case messageStarted => exact keeps_startMessage hK run now participantId h.1 h.2
  case messageCompleted parts => exact (keeps_storing _).bind fun _ => keeps_completeMessage run now parts h
  case handoffRequested handoffId => exact keeps_requestHandoff hK run now handoffId h
  case contactRequested requestId prompt required =>
    exact (keeps_storing _).bind fun _ => keeps_requestContact hK run now requestId prompt required h.1 h.2
  case handoffCompleted handoffId => exact keeps_completeHandoff run now handoffId h
  all_goals trivial

include hK in
theorem keeps_body (server : Deployment) {call : Call} (h : Writes K call) : (body server call).Keeps K := by
  cases call with
  | createConversation scope agentRef key ids time =>
    exact (keeps_createConversation hK scope agentRef key ids time h.1 h.2.1 (h.2.2 _) (h.2.2 _)).map _
  | submitMessage scope c request key ids now time =>
    exact (keeps_submitMessage hK scope c request key ids now time h.1 h.2.1 h.2.2.1 h.2.2.2).map _
  | createEmailHandoff scope c request key ids now time =>
    exact (keeps_createEmailHandoff hK scope c request key ids now time h.1 h.2.1 h.2.2.1 h.2.2.2).map _
  | cancelRun scope c key order now time =>
    exact (keeps_cancelCommand hK scope c key order now time h.1 h.2.1 h.2.2).map _
  | submitStructuredInput scope c r request key now time =>
    exact (keeps_submitStructuredInput hK scope c r request key now time h.1 h.2.1 h.2.2.1 h.2.2.2).map _
  | replayEvents scope c after stamp => exact (keeps_replay hK scope c after stamp).map _
  | appendEvent scope event eventId time => exact (keeps_append _ scope event eventId time h.1 h.2.1 h.2.2).map _
  | claim options order now => exact (keeps_claim hK options order now h).map _
  | loadContext run orders => exact (keeps_loadContext hK run orders).map _
  | materialize run now participantId event => exact (keeps_materialize hK run now participantId event h).map _
  | complete runId now => exact (keeps_complete runId now h).map _
  | waitForInput runId now => exact (keeps_waitForInput runId now h).map _
  | isCancellationRequested runId => exact (keeps_isCancellationRequested hK runId).map _
  | renewLease options run dateNow => exact (keeps_renewLease options run dateNow h).map _
  | cancel run now => exact (keeps_workerCancel run now h.1 h.2).map _
  | fail runId code now => exact (keeps_fail runId code now h.1 h.2).map _

end ChatCore.Services
