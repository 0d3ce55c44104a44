import ChatCore.Services.Commands

namespace ChatCore.Services.EventStore

open Protocol Relational Database

inductive StreamedBody
  | event (body : EventBody)
  | syncRequired
  deriving DecidableEq, Repr

structure PublicConversationEvent where
  eventId : Id
  sequence : ℕ
  occurredAt : Int
  conversationId : Id
  runId : Option Id
  messageId : Option Id
  body : StreamedBody
  deriving DecidableEq, Repr

structure PersistedEvent where
  event : ConnectorEvent
  eventId : Id
  sequence : ℕ
  occurredAt : Int
  deriving DecidableEq, Repr

def PersistedEvent.toPublic (persisted : PersistedEvent) : PublicConversationEvent where
  eventId := persisted.eventId
  sequence := persisted.sequence
  occurredAt := persisted.occurredAt
  conversationId := persisted.event.conversationId
  runId := some persisted.event.runId
  messageId := persisted.event.messageId
  body := .event persisted.event.body

inductive EventReplay
  | events (events : List PublicConversationEvent)
  | syncRequired (event : PublicConversationEvent)
  deriving DecidableEq, Repr

def takeEventSequence (c : Conversation) : Conversation := { c with nextEventSequence := c.nextEventSequence + 1 }

lemma takeEventSequence_conversationId (c : Conversation) :
    (takeEventSequence c).conversationId = c.conversationId := rfl

def newEvent (scope : Scope) (event : ConnectorEvent) (sequence : ℕ) (eventId : Id) (occurredAt : Timestamp) :
    ConversationEvent where
  eventId := eventId
  tenantId := scope.tenantId
  siteId := scope.siteId
  conversationId := event.conversationId
  sequence := sequence
  visibility := event.visibility
  runId := event.runId
  messageId := event.messageId
  body := event.body
  occurredAt := occurredAt

def ofConversation (scope : Scope) (conversationId : Id) (r : ConversationEvent) : Bool :=
  decide (r.tenantId = scope.tenantId) && decide (r.siteId = scope.siteId) &&
    decide (r.conversationId = conversationId)

def isPruned (scope : Scope) (conversationId : Id) (bound : Int) (r : ConversationEvent) : Bool :=
  ofConversation scope conversationId r && decide ((r.sequence : Int) ≤ bound)

def append (retentionMaxEvents : ℕ) (scope : Scope) (event : ConnectorEvent) (eventId : Id)
    (occurredAt : Timestamp) : Query PersistedEvent :=
  Program.transaction do
    let rows ← conversations.updateTable (inConversation scope event.conversationId) takeEventSequence
      takeEventSequence_conversationId
    match rows.head? with
    | none => .throw conversationNotFound
    | some allocation =>
      let sequence := allocation.nextEventSequence - 1
      storing event.isStorable
      conversationEvents.insertInto (newEvent scope event sequence eventId occurredAt)
      let _ ← conversationEvents.deleteFrom
        (isPruned scope event.conversationId ((sequence : Int) - retentionMaxEvents))
      return ⟨event, eventId, sequence, toISOString occurredAt⟩

def toConversationEvent (row : ConversationEvent) : PublicConversationEvent where
  eventId := row.eventId
  sequence := row.sequence
  occurredAt := toISOString row.occurredAt
  conversationId := row.conversationId
  runId := present row.runId
  messageId := row.messageId.bind present
  body := .event row.body

def isPublic (scope : Scope) (conversationId : Id) (r : ConversationEvent) : Bool :=
  ofConversation scope conversationId r && decide (r.visibility = .public)

def earlierFirst (left right : ConversationEvent) : Bool := decide (left.sequence ≤ right.sequence)

def replayRows (scope : Scope) (conversationId : Id) (afterSequence : ℕ) : Query EventReplay := do
  let rows ← conversationEvents.selectFrom
    (fun r => isPublic scope conversationId r && decide (afterSequence < r.sequence))
  return .events ((rows.mergeSort earlierFirst).map toConversationEvent)

/-- What the `sync.required` event takes from its surroundings: `randomUUID()` and the time. -/
structure SyncStamp where
  eventId : Id
  occurredAt : Timestamp
  deriving DecidableEq, Repr

def syncRequiredEvent (conversationId : Id) (conversation : Conversation) (stamp : SyncStamp) :
    PublicConversationEvent where
  eventId := stamp.eventId
  sequence := max 1 (conversation.nextEventSequence - 1)
  occurredAt := toISOString stamp.occurredAt
  conversationId := conversationId
  runId := none
  messageId := none
  body := .syncRequired

def replayAfter (scope : Scope) (conversationId : Id) (afterEventId : Option Id) (stamp : SyncStamp)
    (conversation : Conversation) : Query EventReplay :=
  match afterEventId.bind present with
  | none => replayRows scope conversationId 0
  | some eventId => do
    match ← conversationEvents.selectFirst
        (fun r => isPublic scope conversationId r && decide (r.eventId = eventId)) with
    | none => return .syncRequired (syncRequiredEvent conversationId conversation stamp)
    | some cursor => replayRows scope conversationId cursor.sequence

def replay (scope : Scope) (conversationId : Id) (afterEventId : Option Id) (stamp : SyncStamp) :
    Query EventReplay := do
  let conversation ← requireConversation scope conversationId
  replayAfter scope conversationId afterEventId stamp conversation

end ChatCore.Services.EventStore
