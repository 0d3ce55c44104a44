import ChatCore.Database.Schema

namespace ChatCore.Services

open Protocol Relational Database

structure Scope where
  tenantId : Id
  siteId : Id
  principalId : Id
  deriving DecidableEq, Repr

def toISOString (t : Timestamp) : Int := t / 1000

def present (text : Id) : Option Id := if text = "" then none else some text

structure MessageResource where
  messageId : Id
  conversationId : Id
  sequence : ℕ
  participantId : Id
  role : MessageRole
  status : MessageStatus
  parts : List ContentPart
  createdAt : Int
  completedAt : Option Int
  deriving DecidableEq, Repr

def mapMessage (row : Message) : MessageResource where
  messageId := row.messageId
  conversationId := row.conversationId
  sequence := row.sequence
  participantId := row.participantId
  role := row.role
  status := row.status
  parts := row.parts
  createdAt := toISOString row.createdAt
  completedAt := row.completedAt.map toISOString

def storing (taken : Bool) : Query Unit :=
  if taken then pure () else .throw (.error "unsupported Unicode escape sequence")

@[simp] lemma storing_true : storing true = pure () := rfl

@[simp] lemma storing_false : storing false = .throw (.error "unsupported Unicode escape sequence") := rfl

lemma exec_storing_true (c v : Tables) : (storing true).exec c v = (.ok (), c, v) := rfl

def conversationNotFound : ServerError :=
  .api "CONVERSATION_NOT_FOUND" 404 "The conversation was not found."

def idempotencyConflict : ServerError :=
  .api "IDEMPOTENCY_CONFLICT" 409 "The idempotency key was already used for a different request."

def inConversation (scope : Scope) (conversationId : Id) (c : Conversation) : Bool :=
  decide (c.tenantId = scope.tenantId) && decide (c.siteId = scope.siteId) &&
    decide (c.principalId = scope.principalId) && decide (c.conversationId = conversationId)

def requireConversation (scope : Scope) (conversationId : Id) : Query Conversation := do
  match ← conversations.selectFirst (inConversation scope conversationId) with
  | none => .throw conversationNotFound
  | some conversation => return conversation

def commandKey (scope : Scope) (operation key : String) : CommandKey :=
  ⟨scope.tenantId, scope.siteId, scope.principalId, operation, key⟩

def lockKey (k : CommandKey) : String :=
  s!"{k.tenantId}:{k.siteId}:{k.principalId}:{k.operation}:{k.idempotencyKey}"

variable {α : Type} (platform : Platform)

def lockIdempotency (k : CommandKey) : Query Unit :=
  Program.lock (fun _ => [⟨.advisory (platform.hashtextextended (lockKey k)), .update⟩])

def findIdempotency (k : CommandKey) : Query (Option CommandIdempotency) :=
  commandIdempotency.selectFirst (fun r => decide (r.key = k))

def withIdempotency (k : CommandKey) (replay : CommandIdempotency → Query α) (fresh : Query α) : Query α := do
  lockIdempotency platform k
  match ← findIdempotency k with
  | some previous => replay previous
  | none => fresh

def sameRequest (requestHash : String) (previous : CommandIdempotency) : Query String :=
  if previous.requestHash ≠ requestHash then .throw idempotencyConflict else pure previous.resourceId

end ChatCore.Services
