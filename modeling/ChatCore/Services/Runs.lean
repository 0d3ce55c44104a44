import ChatCore.Services.Commands

namespace ChatCore.Services.RunService

open Protocol Relational Database

inductive CancellationStatus
  | cancelRequested
  | cancelled
  | alreadyFinished
  deriving DecidableEq, Repr

def CancellationStatus.text : CancellationStatus → String
  | .cancelRequested => "cancel_requested"
  | .cancelled => "cancelled"
  | .alreadyFinished => "already_finished"

structure CancelRunResponse where
  conversationId : Id
  runId : Id
  cancellationStatus : CancellationStatus
  deriving DecidableEq, Repr

def operation (conversationId : Id) : String := s!"run:cancel:{conversationId}"

def requestHash (platform : Platform) : String := platform.sha256 (.object [])

def runNotFound : ServerError := .api "RUN_NOT_FOUND" 404 "No run was found to cancel."

def encodeOutcome (runId : Id) (status : CancellationStatus) : String := s!"{runId}|{status.text}"

def statusOfText (text : String) : Option CancellationStatus :=
  [.cancelRequested, .cancelled, .alreadyFinished].find? (fun status => decide (status.text = text))

/-- The text before and after the last separator; without one, `slice(0, -1)` and the whole. -/
def splitOutcome (resourceId : List Char) : List Char × List Char :=
  match resourceId.reverse.idxOf? '|' with
  | some i => (resourceId.take (resourceId.length - 1 - i), resourceId.drop (resourceId.length - i))
  | none => (resourceId.dropLast, resourceId)

def decodeOutcome (conversationId : Id) (resourceId : String) : Query CancelRunResponse :=
  let runId := String.ofList (splitOutcome resourceId.toList).1
  match statusOfText (String.ofList (splitOutcome resourceId.toList).2) with
  | some cancellationStatus =>
      if runId = "" then .throw (.error "Stored cancellation outcome is invalid.")
      else pure ⟨conversationId, runId, cancellationStatus⟩
  | none => .throw (.error "Stored cancellation outcome is invalid.")

def latestFirst (left right : AgentRun) : Bool := decide (right.createdAt ≤ left.createdAt)

def ofConversation (scope : Scope) (conversationId : Id) (r : AgentRun) : Bool :=
  decide (r.tenantId = scope.tenantId) && decide (r.siteId = scope.siteId) &&
    decide (r.conversationId = conversationId)

def cancelQueued (now : Timestamp) (r : AgentRun) : AgentRun :=
  { r with status := .cancelled, cancelRequestedAt := some now, completedAt := some now, updatedAt := now }

lemma cancelQueued_runId (now : Timestamp) (r : AgentRun) : (cancelQueued now r).runId = r.runId := rfl

def requestCancel (now : Timestamp) (r : AgentRun) : AgentRun :=
  { r with status := .cancelRequested, cancelRequestedAt := some now, updatedAt := now }

lemma requestCancel_runId (now : Timestamp) (r : AgentRun) : (requestCancel now r).runId = r.runId := rfl

def updateRun (runId : Id) (f : AgentRun → AgentRun) (hf : ∀ r, (f r).runId = r.runId) : Query Unit := do
  let _ ← agentRuns.updateTable (fun r => decide (r.runId = runId)) f hf

def cancelRun (run : AgentRun) (now : Timestamp) : Query CancellationStatus :=
  match run.status with
  | .queued => do
      updateRun run.runId (cancelQueued now) (cancelQueued_runId now)
      return .cancelled
  | .running | .cancelRequested => do
      updateRun run.runId (requestCancel now) (requestCancel_runId now)
      return .cancelRequested
  | .waitingForInput | .completed | .failed | .cancelled => return .alreadyFinished

variable (platform : Platform)

def cancelLatest (scope : Scope) (conversationId : Id) (k : CommandKey) (order : Arrangement AgentRun)
    (now currentTimestamp : Timestamp) : Query CancelRunResponse := do
  let _ ← requireConversation scope conversationId
  let runs ← agentRuns.forUpdate (ofConversation scope conversationId)
  match (order.sorted latestFirst runs).head? with
  | none => .throw runNotFound
  | some run =>
    let cancellationStatus ← cancelRun run now
    commandIdempotency.insertInto
      ⟨k, requestHash platform, encodeOutcome run.runId cancellationStatus, currentTimestamp⟩
    return ⟨conversationId, run.runId, cancellationStatus⟩

/-- The database part of `cancel`; afterwards the coordinator of the process is asked to abort. -/
def cancel (scope : Scope) (conversationId : Id) (idempotencyKey : String) (order : Arrangement AgentRun)
    (now currentTimestamp : Timestamp) : Query CancelRunResponse :=
  let k := commandKey scope (operation conversationId) idempotencyKey
  Program.transaction (withIdempotency platform k
    (fun previous => decodeOutcome conversationId previous.resourceId)
    (cancelLatest platform scope conversationId k order now currentTimestamp))

end ChatCore.Services.RunService
