import ChatCore.Services.Commands

namespace ChatCore.Services.RunWorker

open Protocol Relational Database

structure ResolvedInput where
  requestId : Id
  purpose : InputPurpose
  status : InputStatus
  value : Option String
  consentStatus : ConsentStatus
  recordedAt : Int
  deriving DecidableEq, Repr

structure ConnectorRunRequest where
  runId : Id
  conversationId : Id
  agentRef : Id
  triggerType : TriggerType
  currentMessage : MessageResource
  userParticipantId : Id
  history : List MessageResource
  principalId : Id
  resolvedInputs : List ResolvedInput
  deriving DecidableEq, Repr

structure RunContext where
  request : ConnectorRunRequest
  assistantParticipantId : Id
  scope : Scope
  deriving DecidableEq, Repr

def missingDecision : ServerError := .error "Resolved input is missing its consent decision."

def inconsistentDecision : ServerError := .error "Resolved input has an inconsistent consent decision."

def resolvedInput (input : StructuredInputRequest) : Except ServerError ResolvedInput :=
  match input.consentRecordedAt, input.consentStatus with
  | some recordedAt, some consentStatus =>
    if decide (input.status = .submitted) && input.value.any (fun value => decide (value ≠ "")) &&
        decide (consentStatus = .granted) then
      .ok ⟨input.requestId, input.purpose, input.status, input.value, consentStatus, toISOString recordedAt⟩
    else if decide (input.status = .declined) && decide (consentStatus = .declined) then
      .ok ⟨input.requestId, input.purpose, input.status, none, consentStatus, toISOString recordedAt⟩
    else .error inconsistentDecision
  | _, _ => .error missingDecision

structure ConnectorRunContext where
  conversationId : Id
  runId : Id
  agentRef : Id
  userParticipantId : Id
  currentMessageId : Id

def validateConnectorRunRequestContext (request : ConnectorRunRequest) (expected : ConnectorRunContext) : Bool :=
  decide (request.conversationId = expected.conversationId) && decide (request.runId = expected.runId) &&
    decide (request.agentRef = expected.agentRef) &&
    decide (request.userParticipantId = expected.userParticipantId) &&
    decide (request.currentMessage.messageId = expected.currentMessageId) &&
    decide (request.currentMessage.conversationId = expected.conversationId) &&
    decide (request.currentMessage.participantId = expected.userParticipantId) &&
    request.history.any (fun m => decide (m.messageId = expected.currentMessageId)) &&
    request.history.all (fun m => decide (m.conversationId = expected.conversationId))

def ofConversation (run : AgentRun) (tenantId siteId conversationId : Id) : Bool :=
  decide (tenantId = run.tenantId) && decide (siteId = run.siteId) && decide (conversationId = run.conversationId)

def newestFirst (left right : Message) : Bool := decide (right.sequence ≤ left.sequence)

def createdFirst (left right : StructuredInputRequest) : Bool := decide (left.createdAt ≤ right.createdAt)

def isResolved (run : AgentRun) (r : StructuredInputRequest) : Bool :=
  ofConversation run r.tenantId r.siteId r.conversationId && decide (r.runId = run.runId) &&
    (decide (r.status = .submitted) || decide (r.status = .declined))

def liftResult {α : Type} : Except ServerError α → Query α
  | .ok a => .pure a
  | .error e => .throw e

structure Orders where
  participants : Arrangement ConversationParticipant
  inputs : Arrangement StructuredInputRequest

def loadContext (run : AgentRun) (orders : Orders) : Query RunContext := do
  let currentMessage ← messages.selectFirstOrThrow (fun m =>
    ofConversation run m.tenantId m.siteId m.conversationId && decide (m.messageId = run.triggerMessageId))
  let conversation ← conversations.selectFirstOrThrow
    (fun c => ofConversation run c.tenantId c.siteId c.conversationId)
  let history ← messages.selectFrom (fun m => ofConversation run m.tenantId m.siteId m.conversationId)
  let participants ← conversationParticipants.selectFrom (fun p =>
    ofConversation run p.tenantId p.siteId p.conversationId)
  let principal ← principals.selectFirstOrThrow (fun p => decide (p.tenantId = run.tenantId) &&
    decide (p.siteId = run.siteId) && decide (p.principalId = conversation.principalId))
  let inputs ← structuredInputRequests.selectFrom (isResolved run)
  let ofKind (kind : ParticipantKind) : Option Id :=
    ((orders.participants.arrange participants).find? (fun p => decide (p.kind = kind))).bind
      (fun p => present p.participantId)
  match ofKind .user, ofKind .agent with
  | some userParticipantId, some assistantParticipantId => do
    let resolvedInputs ← liftResult ((orders.inputs.sorted createdFirst inputs).mapM resolvedInput)
    let request : ConnectorRunRequest := {
      runId := run.runId
      conversationId := run.conversationId
      agentRef := conversation.agentRef
      triggerType := run.triggerType
      currentMessage := mapMessage currentMessage
      userParticipantId := userParticipantId
      history := (((history.mergeSort newestFirst).take 1000).reverse).map mapMessage
      principalId := principal.principalId
      resolvedInputs := resolvedInputs }
    if validateConnectorRunRequestContext request
        ⟨run.conversationId, run.runId, run.agentRef, userParticipantId, run.triggerMessageId⟩ then
      return ⟨request, assistantParticipantId, ⟨run.tenantId, run.siteId, conversation.principalId⟩⟩
    else .throw (.error "Connector run context is inconsistent.")
  | _, _ => .throw (.error "Run participants missing.")

end ChatCore.Services.RunWorker
