import ChatCore.Relational.RelyGuarantee
import ChatCore.Services.EmailHandoffs
import ChatCore.Services.EventStore
import ChatCore.Services.Retention
import ChatCore.Services.Runs
import ChatCore.Services.RunWorker

/-! Everything that the server asks of its database on behalf of visitors and run workers. -/

namespace ChatCore.Services

open Protocol Relational Database

/-- `EventStore` rejects a `retentionMaxEvents` below one. -/
structure Deployment where
  platform : Platform
  retentionMaxEvents : ℕ
  retentionPositive : 1 ≤ retentionMaxEvents

inductive Call
  | createConversation (scope : Scope) (agentRef : Id) (idempotencyKey : String)
      (ids : ConversationService.CreateIds) (currentTimestamp : Timestamp)
  | submitMessage (scope : Scope) (conversationId : Id) (request : MessageService.SubmitMessageRequest)
      (idempotencyKey : String) (ids : MessageService.SubmitIds) (now currentTimestamp : Timestamp)
  | createEmailHandoff (scope : Scope) (conversationId : Id)
      (request : EmailHandoffService.CreateEmailHandoffRequest) (idempotencyKey : String)
      (ids : EmailHandoffService.CreateIds) (now currentTimestamp : Timestamp)
  | cancelRun (scope : Scope) (conversationId : Id) (idempotencyKey : String) (order : Arrangement AgentRun)
      (now currentTimestamp : Timestamp)
  | submitStructuredInput (scope : Scope) (conversationId requestId : Id)
      (request : StructuredInputService.SubmitStructuredInputRequest) (idempotencyKey : String)
      (now currentTimestamp : Timestamp)
  | replayEvents (scope : Scope) (conversationId : Id) (afterEventId : Option Id) (stamp : EventStore.SyncStamp)
  | appendEvent (scope : Scope) (event : ConnectorEvent) (eventId : Id) (occurredAt : Timestamp)
  | claim (options : RunWorker.Options) (order : Arrangement AgentRun) (now : Timestamp)
  | loadContext (run : AgentRun) (orders : RunWorker.Orders)
  | materialize (run : AgentRun) (now : Timestamp) (participantId : Id) (event : ConnectorEvent)
  | complete (runId : Id) (now : Timestamp)
  | waitForInput (runId : Id) (now : Timestamp)
  | isCancellationRequested (runId : Id)
  | renewLease (options : RunWorker.Options) (run : AgentRun) (dateNow : Timestamp)
  | cancel (run : AgentRun) (now : Timestamp)
  | fail (runId : Id) (code : String) (now : Timestamp)

inductive Outcome
  | conversation (resource : ConversationService.ConversationResource)
  | message (resource : MessageResource)
  | handoff (response : EmailHandoffService.CreateEmailHandoffResponse)
  | cancellation (response : RunService.CancelRunResponse)
  | input (resource : StructuredInputService.InputResource)
  | replay (replay : EventStore.EventReplay)
  | appended (persisted : EventStore.PersistedEvent)
  | claimed (run : Option AgentRun)
  | context (context : RunWorker.RunContext)
  | answer (flag : Bool)
  | done (result : Unit)
  | swept (result : RetentionService.RetentionResult)

variable (server : Deployment)

def body : Call → Query Outcome
  | .createConversation scope agentRef idempotencyKey ids currentTimestamp =>
      .conversation <$> ConversationService.create server.platform scope agentRef idempotencyKey ids
        currentTimestamp
  | .submitMessage scope conversationId request idempotencyKey ids now currentTimestamp => .message <$>
      MessageService.submit server.platform scope conversationId request idempotencyKey ids now currentTimestamp
  | .createEmailHandoff scope conversationId request idempotencyKey ids now currentTimestamp => .handoff <$>
      EmailHandoffService.create server.platform scope conversationId request idempotencyKey ids now
        currentTimestamp
  | .cancelRun scope conversationId idempotencyKey order now currentTimestamp => .cancellation <$>
      RunService.cancel server.platform scope conversationId idempotencyKey order now currentTimestamp
  | .submitStructuredInput scope conversationId requestId request idempotencyKey now currentTimestamp => .input <$>
      StructuredInputService.submit server.platform scope conversationId requestId request idempotencyKey now
        currentTimestamp
  | .replayEvents scope conversationId afterEventId stamp =>
      .replay <$> EventStore.replay scope conversationId afterEventId stamp
  | .appendEvent scope event eventId occurredAt =>
      .appended <$> EventStore.append server.retentionMaxEvents scope event eventId occurredAt
  | .claim options order now => .claimed <$> RunWorker.claim options order now
  | .loadContext run orders => .context <$> RunWorker.loadContext run orders
  | .materialize run now participantId event => .done <$> RunWorker.materialize run now participantId event
  | .complete runId now => .done <$> RunWorker.complete runId now
  | .waitForInput runId now => .done <$> RunWorker.waitForInput runId now
  | .isCancellationRequested runId => .answer <$> RunWorker.isCancellationRequested runId
  | .renewLease options run dateNow => .answer <$> RunWorker.renewLease options run dateNow
  | .cancel run now => .done <$> RunWorker.cancel run now
  | .fail runId code now => .done <$> RunWorker.fail runId code now

inductive Task
  | call (call : Call)
  | sweep (policy : RetentionService.RetentionPolicy) (orders : RetentionService.Orders) (now : Timestamp)

def taskBody : Task → Query Outcome
  | .call call => body server call
  | .sweep policy orders now => .swept <$> RetentionService.runOnce policy orders now

abbrev ServerWorld := World Tables LockName ServerError Outcome Call

abbrev ServerMove := Move Call

abbrev ServerRecord := Record Tables ServerError Outcome Call

abbrev ServerStore := Store Tables ServerError Outcome Call

end ChatCore.Services
