import ChatCore.Services.Conversations
import ChatCore.Services.StructuredInputs

namespace ChatCore.Services.EmailHandoffService

open Protocol Relational Database

/-- `trim` on the characters that JavaScript counts as white space or line ends. -/
def isWhiteSpace (c : Char) : Bool :=
  [0x9, 0xA, 0xB, 0xC, 0xD, 0x20, 0xA0, 0x1680, 0x2028, 0x2029, 0x202F, 0x205F, 0x3000, 0xFEFF].contains c.toNat ||
    (decide (0x2000 ≤ c.toNat) && decide (c.toNat ≤ 0x200A))

def trim (text : List Char) : List Char :=
  ((text.dropWhile isWhiteSpace).reverse.dropWhile isWhiteSpace).reverse

/-- `email.trim().toLowerCase()`; the format `email` lets only ASCII through. -/
def normalize (email : Email) : String := String.ofList ((trim email.text.toList).map Char.toLower)

/-- The schema lets only `consent: true` through. -/
structure CreateEmailHandoffRequest where
  email : Email

structure CreateIds where
  runId : Id
  id : Id
  assistantMessageId : Id
  deriving DecidableEq, Repr

inductive ResponseStatus
  | delivering
  | completed
  | failed
  deriving DecidableEq, Repr

structure CreateEmailHandoffResponse where
  handoffId : Id
  conversationId : Id
  runId : Id
  status : ResponseStatus
  createdAt : Int
  updatedAt : Int
  deriving DecidableEq, Repr

def operation (conversationId : Id) : String := s!"email-handoff:create:{conversationId}"

def emptyConversation : ServerError :=
  .api "EMPTY_CONVERSATION" 400 "Send a chat message before continuing by email."

def isTrigger (scope : Scope) (conversationId : Id) (m : Message) : Bool :=
  decide (m.tenantId = scope.tenantId) && decide (m.siteId = scope.siteId) &&
    decide (m.conversationId = conversationId) && decide (m.role = .user) && decide (m.status = .completed)

def laterFirst (left right : Message) : Bool := decide (right.sequence ≤ left.sequence)

def newHandoff (scope : Scope) (conversationId : Id) (ids : CreateIds) (now : Timestamp) : Handoff where
  handoffId := ids.id
  tenantId := scope.tenantId
  siteId := scope.siteId
  conversationId := conversationId
  runId := ids.runId
  kind := .agentEmail
  status := .delivering
  createdAt := now
  updatedAt := now

def newInput (scope : Scope) (conversationId : Id) (email : String) (ids : CreateIds) (now : Timestamp) :
    StructuredInputRequest where
  requestId := ids.id
  tenantId := scope.tenantId
  siteId := scope.siteId
  conversationId := conversationId
  runId := ids.runId
  purpose := .agentEmailHandoff
  prompt := "Email me this conversation"
  required := true
  status := .submitted
  value := some email
  consentStatus := some .granted
  consentRecordedAt := some now
  createdAt := now
  updatedAt := now

variable (platform : Platform)

def requestHash (request : CreateEmailHandoffRequest) : String :=
  platform.sha256 (.object [("email", .string (normalize request.email)), ("consent", .bool true)])

def insertHandoff (scope : Scope) (conversationId : Id) (request : CreateEmailHandoffRequest) (k : CommandKey)
    (ids : CreateIds) (now currentTimestamp : Timestamp) : Query Id := do
  let conversation ← requireConversation scope conversationId
  let candidates ← messages.selectFrom (isTrigger scope conversationId)
  match (candidates.mergeSort laterFirst).head? with
  | none => .throw emptyConversation
  | some trigger =>
    agentRuns.insertInto (MessageService.newRun scope conversationId trigger.messageId ids.runId
      ids.assistantMessageId conversation.agentRef .agentEmailHandoff currentTimestamp)
    handoffs.insertInto (newHandoff scope conversationId ids now)
    structuredInputRequests.insertInto (newInput scope conversationId (normalize request.email) ids now)
    commandIdempotency.insertInto ⟨k, requestHash platform request, ids.id, currentTimestamp⟩
    return ids.id

def responseStatus : HandoffStatus → ResponseStatus
  | .completed => .completed
  | .failed => .failed
  | .requested | .awaitingContact | .delivering => .delivering

def get (scope : Scope) (conversationId handoffId : Id) : Query CreateEmailHandoffResponse := do
  let row ← handoffs.selectFirstOrThrow (fun h => decide (h.tenantId = scope.tenantId) &&
    decide (h.siteId = scope.siteId) && decide (h.conversationId = conversationId) &&
    decide (h.handoffId = handoffId) && decide (h.kind = .agentEmail))
  return {
    handoffId := row.handoffId
    conversationId := row.conversationId
    runId := row.runId
    status := responseStatus row.status
    createdAt := toISOString row.createdAt
    updatedAt := toISOString row.updatedAt }

def create (scope : Scope) (conversationId : Id) (request : CreateEmailHandoffRequest) (idempotencyKey : String)
    (ids : CreateIds) (now currentTimestamp : Timestamp) : Query CreateEmailHandoffResponse := do
  let k := commandKey scope (operation conversationId) idempotencyKey
  let handoffId ← Program.transaction (withIdempotency platform k (sameRequest (requestHash platform request))
    (insertHandoff platform scope conversationId request k ids now currentTimestamp))
  get scope conversationId handoffId

end ChatCore.Services.EmailHandoffService
