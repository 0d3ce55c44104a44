import ChatCore.Protocol.ConnectorEvents
import ChatCore.Relational.Statements

namespace ChatCore.Database

open Protocol Relational

structure Principal where
  principalId : Id
  tenantId : Id
  siteId : Id
  browserIdentity : String
  createdAt : Timestamp
  deriving DecidableEq, Repr

structure BrowserSession where
  sessionId : Id
  tenantId : Id
  siteId : Id
  principalId : Id
  expiresAt : Timestamp
  deriving DecidableEq, Repr

structure BootstrapKey where
  siteId : Id
  idempotencyKey : String
  deriving DecidableEq, Repr

structure SessionBootstrapIdempotency where
  key : BootstrapKey
  requestHash : String
  browserIdentity : String
  createdAt : Timestamp
  deriving DecidableEq, Repr

inductive ConversationStatus
  | active
  | completed
  | cancelled
  deriving DecidableEq, Repr

structure Conversation where
  conversationId : Id
  tenantId : Id
  siteId : Id
  principalId : Id
  agentRef : Id
  status : ConversationStatus
  nextMessageSequence : ℕ
  nextEventSequence : ℕ
  createdAt : Timestamp
  updatedAt : Timestamp
  deriving DecidableEq, Repr

inductive ParticipantKind
  | user
  | agent
  deriving DecidableEq, Repr

structure ConversationParticipant where
  participantId : Id
  tenantId : Id
  siteId : Id
  conversationId : Id
  kind : ParticipantKind
  principalId : Option Id
  agentRef : Option Id
  deriving DecidableEq, Repr

inductive MessageRole
  | user
  | assistant
  | system
  deriving DecidableEq, Repr

inductive MessageStatus
  | pending
  | streaming
  | completed
  | failed
  | cancelled
  deriving DecidableEq, Repr

structure Message where
  messageId : Id
  tenantId : Id
  siteId : Id
  conversationId : Id
  sequence : ℕ
  participantId : Id
  role : MessageRole
  status : MessageStatus
  parts : List ContentPart
  createdAt : Timestamp
  completedAt : Option Timestamp
  deriving DecidableEq, Repr

structure CommandKey where
  tenantId : Id
  siteId : Id
  principalId : Id
  operation : String
  idempotencyKey : String
  deriving DecidableEq, Repr

structure CommandIdempotency where
  key : CommandKey
  requestHash : String
  resourceId : String
  createdAt : Timestamp
  deriving DecidableEq, Repr

/-- `body` holds the columns `type` and `data`. -/
structure ConversationEvent where
  eventId : Id
  tenantId : Id
  siteId : Id
  conversationId : Id
  sequence : ℕ
  visibility : Visibility
  runId : Id
  messageId : Option Id
  body : EventBody
  occurredAt : Timestamp
  deriving DecidableEq, Repr

inductive TriggerType
  | message
  | agentEmailHandoff
  deriving DecidableEq, Repr

inductive RunStatus
  | queued
  | running
  | waitingForInput
  | completed
  | failed
  | cancelRequested
  | cancelled
  deriving DecidableEq, Repr

structure AgentRun where
  runId : Id
  tenantId : Id
  siteId : Id
  conversationId : Id
  triggerMessageId : Id
  triggerType : TriggerType
  assistantMessageId : Id
  agentRef : Id
  status : RunStatus
  attempt : ℕ
  availableAt : Timestamp
  claimedAt : Option Timestamp
  leaseExpiresAt : Option Timestamp
  cancelRequestedAt : Option Timestamp
  errorCode : Option String
  createdAt : Timestamp
  updatedAt : Timestamp
  completedAt : Option Timestamp
  deriving DecidableEq, Repr

inductive HandoffKind
  | human
  | agentEmail
  deriving DecidableEq, Repr

inductive HandoffStatus
  | requested
  | awaitingContact
  | delivering
  | completed
  | failed
  deriving DecidableEq, Repr

structure Handoff where
  handoffId : Id
  tenantId : Id
  siteId : Id
  conversationId : Id
  runId : Id
  kind : HandoffKind
  status : HandoffStatus
  createdAt : Timestamp
  updatedAt : Timestamp
  deriving DecidableEq, Repr

inductive InputPurpose
  | handoffEmailDelivery
  | agentEmailHandoff
  deriving DecidableEq, Repr

inductive InputStatus
  | pending
  | submitted
  | declined
  | expired
  deriving DecidableEq, Repr

inductive ConsentStatus
  | granted
  | declined
  deriving DecidableEq, Repr

structure StructuredInputRequest where
  requestId : Id
  tenantId : Id
  siteId : Id
  conversationId : Id
  runId : Id
  purpose : InputPurpose
  prompt : String
  required : Bool
  status : InputStatus
  value : Option String
  consentStatus : Option ConsentStatus
  consentRecordedAt : Option Timestamp
  createdAt : Timestamp
  updatedAt : Timestamp
  deriving DecidableEq, Repr

structure Tables where
  principals : Table Principal.principalId
  browserSessions : Table BrowserSession.sessionId
  sessionBootstrapIdempotency : Table SessionBootstrapIdempotency.key
  conversations : Table Conversation.conversationId
  conversationParticipants : Table ConversationParticipant.participantId
  messages : Table Message.messageId
  commandIdempotency : Table CommandIdempotency.key
  conversationEvents : Table ConversationEvent.eventId
  agentRuns : Table AgentRun.runId
  handoffs : Table Handoff.handoffId
  structuredInputRequests : Table StructuredInputRequest.requestId

def unused (principals : Table Principal.principalId) (browserSessions : Table BrowserSession.sessionId)
    (bootstraps : Table SessionBootstrapIdempotency.key) : Tables where
  principals := principals
  browserSessions := browserSessions
  sessionBootstrapIdempotency := bootstraps
  conversations := ∅
  conversationParticipants := ∅
  messages := ∅
  commandIdempotency := ∅
  conversationEvents := ∅
  agentRuns := ∅
  handoffs := ∅
  structuredInputRequests := ∅

/-- Rows, unique index entries and advisory keys that a transaction locks. -/
inductive LockName
  | advisory (key : Int)
  | principal (principalId : Id)
  | principalBrowser (tenantId siteId : Id) (browserIdentity : String)
  | browserSession (sessionId : Id)
  | sessionPrincipal (principalId : Id)
  | bootstrap (key : BootstrapKey)
  | conversation (conversationId : Id)
  | participant (participantId : Id)
  | participantKind (conversationId : Id) (kind : ParticipantKind)
  | message (messageId : Id)
  | messageSequence (conversationId : Id) (sequence : ℕ)
  | command (key : CommandKey)
  | event (eventId : Id)
  | eventSequence (conversationId : Id) (sequence : ℕ)
  | run (runId : Id)
  | assistantMessage (messageId : Id)
  | handoff (handoffId : Id)
  | handoffRun (runId : Id)
  | input (requestId : Id)
  deriving DecidableEq, Repr

inductive ServerError
  | constraint (name : String)
  | noResult
  | api (code : String) (statusCode : ℕ) (message : String)
  | error (message : String)
  deriving DecidableEq, Repr

instance : QueryError ServerError := ⟨.constraint, .noResult⟩

abbrev Query := Program Tables LockName ServerError

def failing (name : String) (ok : Bool) : Option String := if ok then none else some name

lemma failing_eq_none {name : String} {ok : Bool} : failing name ok = none ↔ ok = true := by
  cases ok <;> simp [failing]

def principals : Relation Tables LockName Principal.principalId where
  get := Tables.principals
  put db t := { db with principals := t }
  row := .principal
  entries r := [.principalBrowser r.tenantId r.siteId r.browserIdentity]
  parents _ := []
  primaryKey := "principals_pkey"
  check _ := none
  violation db r := failing "principals_browser_identity_unique" (db.principals.rows.all fun s =>
    decide ((s.tenantId, s.siteId, s.browserIdentity) ≠ (r.tenantId, r.siteId, r.browserIdentity)))

def browserSessions : Relation Tables LockName BrowserSession.sessionId where
  get := Tables.browserSessions
  put db t := { db with browserSessions := t }
  row := .browserSession
  entries r := [.sessionPrincipal r.principalId]
  parents r := [.principal r.principalId]
  primaryKey := "browser_sessions_pkey"
  check _ := none
  violation db r :=
    (failing "browser_sessions_principal_unique" (db.browserSessions.rows.all fun s =>
      decide ((s.tenantId, s.siteId, s.principalId) ≠ (r.tenantId, r.siteId, r.principalId)))).or
    (failing "browser_sessions_principal_foreign" (db.principals.rows.any fun p =>
      decide ((p.tenantId, p.siteId, p.principalId) = (r.tenantId, r.siteId, r.principalId))))

def sessionBootstrapIdempotency : Relation Tables LockName SessionBootstrapIdempotency.key where
  get := Tables.sessionBootstrapIdempotency
  put db t := { db with sessionBootstrapIdempotency := t }
  row := .bootstrap
  entries _ := []
  parents _ := []
  primaryKey := "session_bootstrap_idempotency_primary"
  check _ := none
  violation _ _ := none

def conversations : Relation Tables LockName Conversation.conversationId where
  get := Tables.conversations
  put db t := { db with conversations := t }
  row := .conversation
  entries _ := []
  parents r := [.principal r.principalId]
  primaryKey := "conversations_pkey"
  check _ := none
  violation db r := failing "conversations_principal_foreign" (db.principals.rows.any fun p =>
    decide ((p.tenantId, p.siteId, p.principalId) = (r.tenantId, r.siteId, r.principalId)))

def hasConversation (db : Tables) (tenantId siteId conversationId : Id) : Bool :=
  db.conversations.rows.any fun c =>
    decide ((c.tenantId, c.siteId, c.conversationId) = (tenantId, siteId, conversationId))

def conversationParticipants : Relation Tables LockName ConversationParticipant.participantId where
  get := Tables.conversationParticipants
  put db t := { db with conversationParticipants := t }
  row := .participant
  entries r := [.participantKind r.conversationId r.kind]
  parents r := [.conversation r.conversationId]
  primaryKey := "conversation_participants_pkey"
  check r := failing "conversation_participants_kind_check" (match r.kind with
    | .user => r.principalId.isSome && r.agentRef.isNone
    | .agent => r.principalId.isNone && r.agentRef.isSome)
  violation db r :=
    (failing "conversation_participants_kind_unique" (db.conversationParticipants.rows.all fun s =>
      decide ((s.conversationId, s.kind) ≠ (r.conversationId, r.kind)))).or
    (failing "conversation_participants_conversation_foreign"
      (hasConversation db r.tenantId r.siteId r.conversationId))

def messages : Relation Tables LockName Message.messageId where
  get := Tables.messages
  put db t := { db with messages := t }
  row := .message
  entries r := [.messageSequence r.conversationId r.sequence]
  parents r := [.participant r.participantId]
  primaryKey := "messages_pkey"
  check r := failing "messages_sequence_check" (decide (1 ≤ r.sequence))
  violation db r :=
    (failing "messages_sequence_unique" (db.messages.rows.all fun s =>
      decide ((s.conversationId, s.sequence) ≠ (r.conversationId, r.sequence)))).or
    (failing "messages_participant_foreign" (db.conversationParticipants.rows.any fun p =>
      decide ((p.tenantId, p.siteId, p.conversationId, p.participantId) =
        (r.tenantId, r.siteId, r.conversationId, r.participantId))))

def commandIdempotency : Relation Tables LockName CommandIdempotency.key where
  get := Tables.commandIdempotency
  put db t := { db with commandIdempotency := t }
  row := .command
  entries _ := []
  parents _ := []
  primaryKey := "command_idempotency_primary"
  check _ := none
  violation _ _ := none

def conversationEvents : Relation Tables LockName ConversationEvent.eventId where
  get := Tables.conversationEvents
  put db t := { db with conversationEvents := t }
  row := .event
  entries r := [.eventSequence r.conversationId r.sequence]
  parents r := [.conversation r.conversationId]
  primaryKey := "conversation_events_pkey"
  check r := failing "conversation_events_sequence_check" (decide (1 ≤ r.sequence))
  violation db r :=
    (failing "conversation_events_sequence_unique" (db.conversationEvents.rows.all fun s =>
      decide ((s.conversationId, s.sequence) ≠ (r.conversationId, r.sequence)))).or
    (failing "conversation_events_conversation_foreign"
      (hasConversation db r.tenantId r.siteId r.conversationId))

def agentRuns : Relation Tables LockName AgentRun.runId where
  get := Tables.agentRuns
  put db t := { db with agentRuns := t }
  row := .run
  entries r := [.assistantMessage r.assistantMessageId]
  parents r := [.conversation r.conversationId, .message r.triggerMessageId]
  primaryKey := "agent_runs_pkey"
  check _ := none
  violation db r :=
    (failing "agent_runs_assistant_message_id_key" (db.agentRuns.rows.all fun s =>
      decide (s.assistantMessageId ≠ r.assistantMessageId))).or
    ((failing "agent_runs_conversation_foreign" (hasConversation db r.tenantId r.siteId r.conversationId)).or
      (failing "agent_runs_trigger_message_foreign" (db.messages.find? r.triggerMessageId).isSome))

def handoffs : Relation Tables LockName Handoff.handoffId where
  get := Tables.handoffs
  put db t := { db with handoffs := t }
  row := .handoff
  entries r := [.handoffRun r.runId]
  parents r := [.run r.runId]
  primaryKey := "handoffs_pkey"
  check _ := none
  violation db r :=
    (failing "handoffs_run_id_key" (db.handoffs.rows.all fun s => decide (s.runId ≠ r.runId))).or
    (failing "handoffs_run_foreign" (db.agentRuns.find? r.runId).isSome)

def resolutionCheck (r : StructuredInputRequest) : Bool := match r.status with
  | .pending => r.value.isNone && r.consentStatus.isNone && r.consentRecordedAt.isNone
  | .submitted => r.value.isSome && decide (r.consentStatus = some .granted) && r.consentRecordedAt.isSome
  | .declined => r.value.isNone && decide (r.consentStatus = some .declined) && r.consentRecordedAt.isSome
  | .expired => true

def structuredInputRequests : Relation Tables LockName StructuredInputRequest.requestId where
  get := Tables.structuredInputRequests
  put db t := { db with structuredInputRequests := t }
  row := .input
  entries _ := []
  parents r := [.run r.runId]
  primaryKey := "structured_input_requests_pkey"
  check r := failing "structured_input_resolution_check" (resolutionCheck r)
  violation db r := failing "structured_input_run_foreign" (db.agentRuns.find? r.runId).isSome

end ChatCore.Database
