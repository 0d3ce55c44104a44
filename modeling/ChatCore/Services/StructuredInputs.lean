import ChatCore.Services.Commands

namespace ChatCore.Services

open Protocol Relational Database

/-- What the format `email` of the request schemas lets through is never empty: it has an `@`. -/
structure Email where
  text : String
  hasAt : '@' ∈ text.toList

namespace StructuredInputService

inductive SubmitStructuredInputRequest
  | submitted (value : Email)
  | declined

namespace SubmitStructuredInputRequest

def value : SubmitStructuredInputRequest → Option String
  | .submitted value => some value.text
  | .declined => none

def status : SubmitStructuredInputRequest → InputStatus
  | .submitted _ => .submitted
  | .declined => .declined

def consentStatus : SubmitStructuredInputRequest → ConsentStatus
  | .submitted _ => .granted
  | .declined => .declined

end SubmitStructuredInputRequest

structure InputResource where
  requestId : Id
  conversationId : Id
  runId : Id
  purpose : InputPurpose
  prompt : String
  required : Bool
  status : InputStatus
  createdAt : Int
  updatedAt : Int
  deriving DecidableEq, Repr

def operation (conversationId requestId : Id) : String :=
  s!"structured-input:submit:{conversationId}:{requestId}"

def inputNotFound : ServerError := .api "INPUT_NOT_FOUND" 404 "The structured input request was not found."

def alreadyResolved : ServerError :=
  .api "INPUT_ALREADY_RESOLVED" 409 "The structured input request was already resolved."

def notResolvable : ServerError := .api "INPUT_ALREADY_RESOLVED" 409
  "The structured input request cannot be resolved in the current run state."

def matchesInput (scope : Scope) (conversationId requestId : Id) (r : StructuredInputRequest) : Bool :=
  decide (r.tenantId = scope.tenantId) && decide (r.siteId = scope.siteId) &&
    decide (r.conversationId = conversationId) && decide (r.requestId = requestId)

def resolve (request : SubmitStructuredInputRequest) (now : Timestamp) (r : StructuredInputRequest) :
    StructuredInputRequest :=
  { r with
    status := request.status
    value := request.value
    consentStatus := some request.consentStatus
    consentRecordedAt := some now
    updatedAt := now }

lemma resolve_requestId (request : SubmitStructuredInputRequest) (now : Timestamp) (r : StructuredInputRequest) :
    (resolve request now r).requestId = r.requestId := rfl

def requeue (now : Timestamp) (r : AgentRun) : AgentRun :=
  { r with
    status := .queued
    availableAt := now
    claimedAt := none
    leaseExpiresAt := none
    errorCode := none
    completedAt := none
    updatedAt := now }

lemma requeue_runId (now : Timestamp) (r : AgentRun) : (requeue now r).runId = r.runId := rfl

def deliver (now : Timestamp) (h : Handoff) : Handoff := { h with status := .delivering, updatedAt := now }

lemma deliver_handoffId (now : Timestamp) (h : Handoff) : (deliver now h).handoffId = h.handoffId := rfl

variable (platform : Platform)

def hashRequest : SubmitStructuredInputRequest → String
  | .submitted value => platform.sha256 (.array [.string "submitted", .string value.text])
  | .declined => platform.sha256 (.array [.string "declined"])

def deliverHandoff (request : SubmitStructuredInputRequest) (runId : Id) (now : Timestamp) : Query Unit :=
  match request with
  | .submitted _ => do
      let _ ← handoffs.updateTable (fun h => decide (h.runId = runId)) (deliver now) (deliver_handoffId now)
  | .declined => pure ()

def resolveInput (scope : Scope) (conversationId requestId : Id) (request : SubmitStructuredInputRequest)
    (k : CommandKey) (now currentTimestamp : Timestamp) : Query Unit := do
  let _ ← requireConversation scope conversationId
  let inputs ← structuredInputRequests.forUpdate (matchesInput scope conversationId requestId)
  match inputs.head? with
  | none => .throw inputNotFound
  | some input =>
    if input.status ≠ .pending then .throw alreadyResolved
    let updated ← structuredInputRequests.updateTable (fun r => decide (r.requestId = input.requestId))
      (resolve request now) (resolve_requestId request now)
    if updated.length ≠ 1 then .throw alreadyResolved
    let requeued ← agentRuns.updateTable
      (fun r => decide (r.runId = input.runId) && decide (r.status = .waitingForInput)) (requeue now)
          (requeue_runId now)
    if requeued.length ≠ 1 then .throw notResolvable
    deliverHandoff request input.runId now
    commandIdempotency.insertInto ⟨k, hashRequest platform request, input.requestId, currentTimestamp⟩

def mapInput (row : StructuredInputRequest) : Query InputResource :=
  if row.purpose ≠ .handoffEmailDelivery then
    .throw (.error "The input request is not a public structured input.")
  else pure {
    requestId := row.requestId
    conversationId := row.conversationId
    runId := row.runId
    purpose := row.purpose
    prompt := row.prompt
    required := row.required
    status := row.status
    createdAt := toISOString row.createdAt
    updatedAt := toISOString row.updatedAt }

/-- The join with `conversations` keeps a row whose conversation belongs to the principal. -/
def get (scope : Scope) (conversationId requestId : Id) : Query InputResource := do
  match ← Program.select (fun db => (structuredInputRequests.matching (fun r =>
      matchesInput scope conversationId requestId r && (conversations.matching (fun c =>
        decide (c.tenantId = r.tenantId) && decide (c.siteId = r.siteId) &&
          decide (c.conversationId = r.conversationId) && decide (c.principalId = scope.principalId)) db).length
            != 0)
      db).head?) with
  | none => .throw inputNotFound
  | some row => mapInput row

def submit (scope : Scope) (conversationId requestId : Id) (request : SubmitStructuredInputRequest)
    (idempotencyKey : String) (now currentTimestamp : Timestamp) : Query InputResource := do
  let k := commandKey scope (operation conversationId requestId) idempotencyKey
  Program.transaction (withIdempotency platform k
    (fun previous => do let _ ← sameRequest (hashRequest platform request) previous)
    (resolveInput platform scope conversationId requestId request k now currentTimestamp))
  get scope conversationId requestId

end StructuredInputService

end ChatCore.Services
