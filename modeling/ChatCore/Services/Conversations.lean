import ChatCore.Services.Commands

namespace ChatCore.Services

open Protocol Relational Database

variable (platform : Platform)

namespace ConversationService

structure ParticipantResource where
  participantId : Id
  kind : ParticipantKind
  principalId : Option Id
  agentRef : Option Id
  deriving DecidableEq, Repr

structure ConversationResource where
  conversationId : Id
  tenantId : Id
  siteId : Id
  principalId : Id
  agentRef : Id
  status : ConversationStatus
  participants : List ParticipantResource
  createdAt : Int
  updatedAt : Int
  deriving DecidableEq, Repr

structure CreateIds where
  id : Id
  userParticipantId : Id
  agentParticipantId : Id
  deriving DecidableEq, Repr

def operation : String := "conversation:create"

def requestHash : String := platform.sha256 (.object [])

def newConversation (scope : Scope) (agentRef id : Id) (currentTimestamp : Timestamp) : Conversation where
  conversationId := id
  tenantId := scope.tenantId
  siteId := scope.siteId
  principalId := scope.principalId
  agentRef := agentRef
  status := .active
  nextMessageSequence := 1
  nextEventSequence := 1
  createdAt := currentTimestamp
  updatedAt := currentTimestamp

def userParticipant (scope : Scope) (ids : CreateIds) : ConversationParticipant where
  participantId := ids.userParticipantId
  tenantId := scope.tenantId
  siteId := scope.siteId
  conversationId := ids.id
  kind := .user
  principalId := some scope.principalId
  agentRef := none

def agentParticipant (scope : Scope) (agentRef : Id) (ids : CreateIds) : ConversationParticipant where
  participantId := ids.agentParticipantId
  tenantId := scope.tenantId
  siteId := scope.siteId
  conversationId := ids.id
  kind := .agent
  principalId := none
  agentRef := some agentRef

def participantResource (p : ConversationParticipant) : ParticipantResource := match p.kind with
  | .user => ⟨p.participantId, .user, p.principalId, none⟩
  | .agent => ⟨p.participantId, .agent, none, p.agentRef⟩

def userFirst (left right : ConversationParticipant) : Bool :=
  decide (left.kind = right.kind) || decide (left.kind = .user)

def get (scope : Scope) (conversationId : Id) : Query ConversationResource := do
  let conversation ← requireConversation scope conversationId
  let participants ← conversationParticipants.selectFrom (fun p => decide (p.tenantId = scope.tenantId) &&
    decide (p.siteId = scope.siteId) && decide (p.conversationId = conversationId))
  return {
    conversationId := conversation.conversationId
    tenantId := conversation.tenantId
    siteId := conversation.siteId
    principalId := conversation.principalId
    agentRef := conversation.agentRef
    status := conversation.status
    participants := (participants.mergeSort userFirst).map participantResource
    createdAt := toISOString conversation.createdAt
    updatedAt := toISOString conversation.updatedAt }

def insertConversation (scope : Scope) (agentRef : Id) (k : CommandKey) (ids : CreateIds)
    (currentTimestamp : Timestamp) : Query Id := do
  conversations.insertInto (newConversation scope agentRef ids.id currentTimestamp)
  conversationParticipants.insertInto (userParticipant scope ids)
  conversationParticipants.insertInto (agentParticipant scope agentRef ids)
  commandIdempotency.insertInto ⟨k, requestHash platform, ids.id, currentTimestamp⟩
  return ids.id

def create (scope : Scope) (agentRef : Id) (idempotencyKey : String) (ids : CreateIds)
    (currentTimestamp : Timestamp) : Query ConversationResource := do
  let k := commandKey scope operation idempotencyKey
  let conversationId ← Program.transaction (withIdempotency platform k (sameRequest (requestHash platform))
    (insertConversation platform scope agentRef k ids currentTimestamp))
  get scope conversationId

end ConversationService

namespace MessageService

structure SubmitIds where
  id : Id
  runId : Id
  assistantMessageId : Id
  deriving DecidableEq, Repr

structure SubmitMessageRequest where
  parts : List String
  nonempty : parts ≠ []

def operation (conversationId : Id) : String := s!"message:create:{conversationId}"

def requestHash (request : SubmitMessageRequest) : String :=
  platform.sha256 (.array (request.parts.map fun text => .array [.string "text", .string text]))

def newMessage (scope : Scope) (conversationId participantId : Id) (request : SubmitMessageRequest) (id : Id)
    (sequence : ℕ) (now currentTimestamp : Timestamp) : Message where
  messageId := id
  tenantId := scope.tenantId
  siteId := scope.siteId
  conversationId := conversationId
  sequence := sequence
  participantId := participantId
  role := .user
  status := .completed
  parts := request.parts.map .text
  createdAt := currentTimestamp
  completedAt := some now

def newRun (scope : Scope) (conversationId triggerMessageId runId assistantMessageId agentRef : Id)
    (triggerType : TriggerType) (currentTimestamp : Timestamp) : AgentRun where
  runId := runId
  tenantId := scope.tenantId
  siteId := scope.siteId
  conversationId := conversationId
  triggerMessageId := triggerMessageId
  triggerType := triggerType
  assistantMessageId := assistantMessageId
  agentRef := agentRef
  status := .queued
  attempt := 0
  availableAt := currentTimestamp
  claimedAt := none
  leaseExpiresAt := none
  cancelRequestedAt := none
  errorCode := none
  createdAt := currentTimestamp
  updatedAt := currentTimestamp
  completedAt := none

def get (scope : Scope) (conversationId messageId : Id) : Query MessageResource := do
  let _ ← requireConversation scope conversationId
  match ← messages.selectFirst
    (fun m => decide (m.tenantId = scope.tenantId) && decide (m.siteId = scope.siteId) &&
      decide (m.conversationId = conversationId) && decide (m.messageId = messageId)) with
  | none => .throw (.api "MESSAGE_NOT_FOUND" 404 "The message was not found.")
  | some row => return mapMessage row

def takeMessageSequence (now : Timestamp) (c : Conversation) : Conversation :=
  { c with nextMessageSequence := c.nextMessageSequence + 1, updatedAt := now }

lemma takeMessageSequence_conversationId (now : Timestamp) (c : Conversation) :
    (takeMessageSequence now c).conversationId = c.conversationId := rfl

def insertMessage (scope : Scope) (conversationId : Id) (request : SubmitMessageRequest) (k : CommandKey)
    (ids : SubmitIds) (now currentTimestamp : Timestamp) : Query Id := do
  let conversation ← requireConversation scope conversationId
  let participant ← conversationParticipants.selectFirstOrThrow (fun p => decide (p.tenantId = scope.tenantId) &&
    decide (p.siteId = scope.siteId) && decide (p.conversationId = conversationId) &&
    decide (p.kind = .user) && decide (p.principalId = some scope.principalId))
  let rows ← conversations.updateTable (inConversation scope conversationId) (takeMessageSequence now)
      (takeMessageSequence_conversationId now)
  let updated ← Relation.orThrow rows.head?
  messages.insertInto (newMessage scope conversationId participant.participantId request ids.id
    (updated.nextMessageSequence - 1) now currentTimestamp)
  agentRuns.insertInto (newRun scope conversationId ids.id ids.runId ids.assistantMessageId conversation.agentRef
    .message currentTimestamp)
  commandIdempotency.insertInto ⟨k, requestHash platform request, ids.id, currentTimestamp⟩
  return ids.id

def submit (scope : Scope) (conversationId : Id) (request : SubmitMessageRequest) (idempotencyKey : String)
    (ids : SubmitIds) (now currentTimestamp : Timestamp) : Query MessageResource := do
  let k := commandKey scope (operation conversationId) idempotencyKey
  let messageId ← Program.transaction (withIdempotency platform k (sameRequest (requestHash platform request))
    (insertMessage platform scope conversationId request k ids now currentTimestamp))
  get scope conversationId messageId

end MessageService

end ChatCore.Services
