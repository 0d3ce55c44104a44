import ChatCore.Protocol.Cursors
import ChatCore.Services.Conversations

namespace ChatCore.Services

open Protocol Relational Database

inductive Pagination
  | more (nextCursor : String)
  | last
  deriving DecidableEq, Repr

structure Page (α : Type) where
  data : List α
  pagination : Pagination

structure ListRequest where
  cursor : Option String
  limit : ℕ

def invalidCursor : ServerError := .api "INVALID_CURSOR" 400 "The cursor is invalid."

def decodeGiven {α : Type} (decode : String → Option α) (cursor : Option String) : Except ServerError (Option α) :=
  match cursor.bind present with
  | none => .ok none
  | some text => match decode text with
    | none => .error invalidCursor
    | some cursor => .ok (some cursor)

def paginate {ρ : Type} (limit : ℕ) (cursor : ρ → String) (rows : List ρ) : Pagination :=
  match (rows.take limit).getLast? with
  | some tail => if limit < rows.length then .more (cursor tail) else .last
  | none => .last

variable (collation : Collation)

def beforeCursor (cursor : TimeCursor) (timestamp : Timestamp) (id : Id) : Bool :=
  decide (timestamp < 1000 * cursor.timestamp) || (decide (timestamp = 1000 * cursor.timestamp) &&
    decide (collation.sortKey id < collation.sortKey cursor.id))

def latestFirst {ρ : Type} (timestamp : ρ → Timestamp) (id : ρ → Id) (left right : ρ) : Bool :=
  decide (timestamp right < timestamp left) || (decide (timestamp right = timestamp left) &&
    decide (collation.sortKey (id right) ≤ collation.sortKey (id left)))

variable (encoding : Encoding)

namespace ConversationService

def ofScope (scope : Scope) (c : Conversation) : Bool :=
  decide (c.tenantId = scope.tenantId) && decide (c.siteId = scope.siteId) &&
    decide (c.principalId = scope.principalId)

def list (scope : Scope) (request : ListRequest) : Query (Page ConversationResource) :=
  match decodeGiven (decodeConversationCursor encoding) request.cursor with
  | .error e => .throw e
  | .ok cursor => do
    let matching ← conversations.selectFrom fun c =>
      ofScope scope c && cursor.all fun cursor => beforeCursor collation cursor c.createdAt c.conversationId
    let rows := (matching.mergeSort
      (latestFirst collation Conversation.createdAt Conversation.conversationId)).take
      (request.limit + 1)
    let data ← (rows.take request.limit).mapM fun row => get scope row.conversationId
    return ⟨data, paginate request.limit (fun tail =>
      encodeConversationCursor encoding (toISOString tail.createdAt) tail.conversationId) rows⟩

end ConversationService

namespace MessageService

def ofConversation (scope : Scope) (conversationId : Id) (m : Message) : Bool :=
  decide (m.tenantId = scope.tenantId) && decide (m.siteId = scope.siteId) &&
    decide (m.conversationId = conversationId)

def sequenceFirst (left right : Message) : Bool := decide (left.sequence ≤ right.sequence)

def list (scope : Scope) (conversationId : Id) (request : ListRequest) : Query (Page MessageResource) := do
  let _ ← requireConversation scope conversationId
  match decodeGiven (decodeMessageCursor encoding) request.cursor with
  | .error e => .throw e
  | .ok cursor =>
    let matching ← messages.selectFrom fun m =>
      ofConversation scope conversationId m && cursor.all fun cursor => decide (cursor < m.sequence)
    let rows := (matching.mergeSort sequenceFirst).take (request.limit + 1)
    return ⟨(rows.take request.limit).map mapMessage,
      paginate request.limit (fun tail => encodeMessageCursor encoding tail.sequence) rows⟩

end MessageService

end ChatCore.Services
