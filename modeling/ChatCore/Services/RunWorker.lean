import ChatCore.Services.Conversations
import ChatCore.Services.RunContext

namespace ChatCore.Services.RunWorker

open Protocol Relational Database

structure Options where
  leaseMs : ℕ
  maxAttempts : ℕ
  leasePositive : 1 ≤ leaseMs
  attemptsPositive : 1 ≤ maxAttempts
  deriving DecidableEq

def claimable (options : Options) (now : Timestamp) (r : AgentRun) : Bool :=
  decide (r.availableAt ≤ now) && decide (r.attempt < options.maxAttempts) &&
    (decide (r.status = .queued) ||
      (decide (r.status = .running) && r.leaseExpiresAt.any (fun t => decide (t ≤ now))))

def claimOrder (left right : AgentRun) : Bool :=
  decide (left.availableAt < right.availableAt) ||
    (decide (left.availableAt = right.availableAt) && decide (left.createdAt ≤ right.createdAt))

def startAttempt (options : Options) (now : Timestamp) (r : AgentRun) : AgentRun :=
  { r with
    status := .running
    attempt := r.attempt + 1
    claimedAt := some now
    leaseExpiresAt := some (now + milliseconds options.leaseMs)
    updatedAt := now }

lemma startAttempt_runId (options : Options) (now : Timestamp) (r : AgentRun) :
    (startAttempt options now r).runId = r.runId := rfl

def claim (options : Options) (order : Arrangement AgentRun) (now : Timestamp) : Query (Option AgentRun) :=
  Program.transaction do
    let candidates ← agentRuns.skipLocked (claimable options now)
    match (order.sorted claimOrder candidates).head? with
    | none => return none
    | some candidate =>
      let rows ← agentRuns.updateTable (fun r => decide (r.runId = candidate.runId)) (startAttempt options now)
        (startAttempt_runId options now)
      return some (← Relation.orThrow rows.head?)

section Materialize

variable (run : AgentRun) (now : Timestamp)

def newAssistant (participantId : Id) (sequence : ℕ) : Message where
  messageId := run.assistantMessageId
  tenantId := run.tenantId
  siteId := run.siteId
  conversationId := run.conversationId
  sequence := sequence
  participantId := participantId
  role := .assistant
  status := .streaming
  parts := []
  createdAt := now
  completedAt := none

def startMessage (participantId : Id) : Query Unit := Program.transaction do
  match ← messages.selectFirst (fun m => decide (m.messageId = run.assistantMessageId)) with
  | some _ => pure ()
  | none =>
    let rows ← conversations.updateTable (fun c => ofConversation run c.tenantId c.siteId c.conversationId)
      (MessageService.takeMessageSequence now) (MessageService.takeMessageSequence_conversationId now)
    let sequence ← Relation.orThrow rows.head?
    messages.insertInto (newAssistant run now participantId (sequence.nextMessageSequence - 1))

def finishMessage (parts : List ContentPart) (m : Message) : Message :=
  { m with status := .completed, parts := parts, completedAt := some now }

lemma finishMessage_messageId (parts : List ContentPart) (m : Message) :
    (finishMessage now parts m).messageId = m.messageId := rfl

def completeMessage (parts : List ContentPart) : Query Unit := do
  let result ← Program.transaction (messages.updateTable (fun m =>
      ofConversation run m.tenantId m.siteId m.conversationId && decide (m.messageId = run.assistantMessageId))
    (finishMessage now parts) (finishMessage_messageId now parts))
  if result.length ≠ 1 then .throw (.error "Assistant message was not started.")

def newHandoff (handoffId : Id) : Handoff where
  handoffId := handoffId
  tenantId := run.tenantId
  siteId := run.siteId
  conversationId := run.conversationId
  runId := run.runId
  kind := .human
  status := .requested
  createdAt := now
  updatedAt := now

def requestHandoff (handoffId : Id) : Query Unit := do
  Program.transaction (handoffs.insertOrIgnore (newHandoff run now handoffId))
  let handoff ← handoffs.selectFirstOrThrow (fun h => decide (h.handoffId = handoffId))
  if handoff.runId ≠ run.runId then .throw (.error "Handoff ID belongs to another run.")

def newInput (requestId : Id) (prompt : String) (required : Bool) : StructuredInputRequest where
  requestId := requestId
  tenantId := run.tenantId
  siteId := run.siteId
  conversationId := run.conversationId
  runId := run.runId
  purpose := .handoffEmailDelivery
  prompt := prompt
  required := required
  status := .pending
  value := none
  consentStatus := none
  consentRecordedAt := none
  createdAt := now
  updatedAt := now

def awaitContact (h : Handoff) : Handoff := { h with status := .awaitingContact, updatedAt := now }

lemma awaitContact_handoffId (h : Handoff) : (awaitContact now h).handoffId = h.handoffId := rfl

def requestContact (requestId : Id) (prompt : String) (required : Bool) : Query Unit := Program.transaction do
  let handoff ← handoffs.selectFirstOrThrow (fun h => decide (h.runId = run.runId))
  structuredInputRequests.insertOrIgnore (newInput run now requestId prompt required)
  let input ← structuredInputRequests.selectFirstOrThrow (fun r => decide (r.requestId = requestId))
  if input.runId ≠ run.runId then .throw (.error "Input request ID belongs to another run.")
  let _ ← handoffs.updateTable (fun h => decide (h.handoffId = handoff.handoffId))
    (awaitContact now) (awaitContact_handoffId now)

def finishHandoff (h : Handoff) : Handoff := { h with status := .completed, updatedAt := now }

lemma finishHandoff_handoffId (h : Handoff) : (finishHandoff now h).handoffId = h.handoffId := rfl

def completeHandoff (handoffId : Id) : Query Unit := do
  let result ← Program.transaction (handoffs.updateTable (fun h =>
      ofConversation run h.tenantId h.siteId h.conversationId && decide (h.runId = run.runId) &&
        decide (h.handoffId = handoffId))
    (finishHandoff now) (finishHandoff_handoffId now))
  if result.length ≠ 1 then .throw (.error "Handoff was not requested.")

def materialize (participantId : Id) (event : ConnectorEvent) : Query Unit :=
  match event.body with
  | .messageStarted => startMessage run now participantId
  | .messageCompleted parts => do
      storing event.isStorable
      completeMessage run now parts
  | .handoffRequested handoffId => requestHandoff run now handoffId
  | .contactRequested requestId prompt required => do
      storing !hasNul prompt
      requestContact run now requestId prompt required
  | .handoffCompleted handoffId => completeHandoff run now handoffId
  | _ => pure ()

end Materialize

def isRun (runId : Id) (r : AgentRun) : Bool := decide (r.runId = runId)

def markCompleted (now : Timestamp) (r : AgentRun) : AgentRun :=
  { r with status := .completed, completedAt := some now, leaseExpiresAt := none, updatedAt := now }

lemma markCompleted_runId (now : Timestamp) (r : AgentRun) : (markCompleted now r).runId = r.runId := rfl

def markWaiting (now : Timestamp) (r : AgentRun) : AgentRun :=
  { r with status := .waitingForInput, claimedAt := none, leaseExpiresAt := none, updatedAt := now }

lemma markWaiting_runId (now : Timestamp) (r : AgentRun) : (markWaiting now r).runId = r.runId := rfl

def markCancelled (now : Timestamp) (r : AgentRun) : AgentRun :=
  { r with status := .cancelled, completedAt := some now, leaseExpiresAt := none, updatedAt := now }

lemma markCancelled_runId (now : Timestamp) (r : AgentRun) : (markCancelled now r).runId = r.runId := rfl

def markFailed (code : String) (now : Timestamp) (r : AgentRun) : AgentRun :=
  { r with
    status := .failed
    errorCode := some code
    completedAt := some now
    leaseExpiresAt := none
    updatedAt := now }

lemma markFailed_runId (code : String) (now : Timestamp) (r : AgentRun) :
    (markFailed code now r).runId = r.runId := rfl

def extendLease (options : Options) (dateNow : Timestamp) (r : AgentRun) : AgentRun :=
  { r with leaseExpiresAt := some (dateNow + milliseconds options.leaseMs), updatedAt := dateNow }

lemma extendLease_runId (options : Options) (dateNow : Timestamp) (r : AgentRun) :
    (extendLease options dateNow r).runId = r.runId := rfl

def complete (runId : Id) (now : Timestamp) : Query Unit := Program.transaction do
  let _ ← agentRuns.updateTable (isRun runId) (markCompleted now) (markCompleted_runId now)

def waitForInput (runId : Id) (now : Timestamp) : Query Unit := do
  let result ← Program.transaction (agentRuns.updateTable
    (fun r => isRun runId r && decide (r.status = .running)) (markWaiting now) (markWaiting_runId now))
  if result.length ≠ 1 then .throw (.error "Run cannot wait for input.")

def isCancellationRequested (runId : Id) : Query Bool := do
  let run ← agentRuns.selectFirstOrThrow (isRun runId)
  return decide (run.status = .cancelRequested) || decide (run.status = .cancelled)

def renewLease (options : Options) (run : AgentRun) (dateNow : Timestamp) : Query Bool := do
  let result ← Program.transaction (agentRuns.updateTable
    (fun r => isRun run.runId r && decide (r.status = .running) && decide (r.attempt = run.attempt))
    (extendLease options dateNow) (extendLease_runId options dateNow))
  return decide (result.length = 1)

def cancelMessage (now : Timestamp) (m : Message) : Message :=
  { m with status := .cancelled, completedAt := some now }

lemma cancelMessage_messageId (now : Timestamp) (m : Message) :
    (cancelMessage now m).messageId = m.messageId := rfl

def cancel (run : AgentRun) (now : Timestamp) : Query Unit := Program.transaction do
  let _ ← agentRuns.updateTable (isRun run.runId) (markCancelled now) (markCancelled_runId now)
  let _ ← messages.updateTable (fun m => decide (m.messageId = run.assistantMessageId) &&
      (decide (m.status = .pending) || decide (m.status = .streaming)))
    (cancelMessage now) (cancelMessage_messageId now)

def failHandoff (now : Timestamp) (h : Handoff) : Handoff := { h with status := .failed, updatedAt := now }

lemma failHandoff_handoffId (now : Timestamp) (h : Handoff) : (failHandoff now h).handoffId = h.handoffId := rfl

def fail (runId : Id) (code : String) (now : Timestamp) : Query Unit := Program.transaction do
  let _ ← agentRuns.updateTable (isRun runId) (markFailed code now) (markFailed_runId code now)
  let _ ← handoffs.updateTable (fun h => decide (h.runId = runId) &&
      !(decide (h.status = .completed) || decide (h.status = .failed)))
    (failHandoff now) (failHandoff_handoffId now)

end ChatCore.Services.RunWorker
