import ChatCore.Services.EmailHandoffs
import ChatCore.Services.EventStore
import ChatCore.Services.Listing

namespace ChatCore.Services.AdminQueryService

open Protocol Relational Database

inductive Permission
  | read
  | internal
  deriving DecidableEq, Repr

structure AdminScope where
  tenantId : Id
  scopes : List Permission

/-- The filters of the lists; dates are in milliseconds. -/
structure Filter (status : Type) where
  siteId : Option Id
  agentRef : Option Id
  status : Option status
  createdAfter : Option Int
  createdBefore : Option Int
  cursor : Option String
  limit : ℕ

structure Site (W : Type) where
  siteId : Id
  displayName : String
  siteKey : String
  allowedOrigins : List String
  agentRef : Id
  widgets : List W

/-- The tables that the provisioning writes: the tenants' names, and their sites in the order of the query. -/
structure Registry (W : Type) where
  tenant : Id → Option String
  sites : Id → List (Site W)

structure Stats where
  conversations : ℕ
  activeConversations : ℕ
  runs : ℕ
  failures : ℕ
  handoffs : ℕ
  deriving DecidableEq, Repr

structure SiteOverview (W : Type) extends Site W where
  stats : Stats
  recentActivityAt : Option Int

structure Overview (W : Type) where
  tenantId : Id
  displayName : String
  sites : List (SiteOverview W)
  totals : Stats

structure ConversationSummary extends ConversationService.ConversationResource where
  firstUserMessagePreview : Option String
  deriving DecidableEq, Repr

structure EventResource extends EventStore.PublicConversationEvent where
  visibility : Visibility
  deriving DecidableEq, Repr

structure RunResource where
  runId : Id
  tenantId : Id
  siteId : Id
  conversationId : Id
  userMessageId : Id
  assistantMessageId : Id
  agentRef : Id
  status : RunStatus
  attempt : ℕ
  errorCode : Option String
  createdAt : Int
  updatedAt : Int
  completedAt : Option Int
  deriving DecidableEq, Repr

structure HandoffResource where
  handoffId : Id
  tenantId : Id
  siteId : Id
  conversationId : Id
  runId : Id
  kind : HandoffKind
  status : HandoffStatus
  createdAt : Int
  updatedAt : Int
  deriving DecidableEq, Repr

def notFound : ServerError := .api "NOT_FOUND" 404 "The resource was not found."

def invalidDateRange : ServerError :=
  .api "INVALID_DATE_RANGE" 400 "createdAfter must be earlier than createdBefore."

def validateFilter {status : Type} (filter : Filter status) : Except ServerError Unit :=
  match filter.createdAfter, filter.createdBefore with
  | some after, some before => if before ≤ after then .error invalidDateRange else .ok ()
  | _, _ => .ok ()

def admits {status : Type} [DecidableEq status] (filter : Filter status) (siteId agentRef : Id) (value : status)
    (createdAt : Timestamp) : Bool :=
  (filter.siteId.bind present).all (fun x => decide (siteId = x)) &&
    (filter.agentRef.bind present).all (fun x => decide (agentRef = x)) &&
    filter.status.all (fun x => decide (value = x)) &&
    filter.createdAfter.all (fun x => decide (1000 * x ≤ createdAt)) &&
    filter.createdBefore.all fun x => decide (createdAt < 1000 * x)

def mapParticipants (participants : List ConversationParticipant) (conversationId : Id) :
    List ConversationService.ParticipantResource :=
  (participants.filter fun p => decide (p.conversationId = conversationId)).map
    ConversationService.participantResource

def mapConversation (row : Conversation) (participants : List ConversationParticipant) :
    ConversationService.ConversationResource where
  conversationId := row.conversationId
  tenantId := row.tenantId
  siteId := row.siteId
  principalId := row.principalId
  agentRef := row.agentRef
  status := row.status
  participants := mapParticipants participants row.conversationId
  createdAt := toISOString row.createdAt
  updatedAt := toISOString row.updatedAt

def mapEvent (row : ConversationEvent) : EventResource where
  toPublicConversationEvent := EventStore.toConversationEvent row
  visibility := row.visibility

def mapRun (row : AgentRun) : RunResource where
  runId := row.runId
  tenantId := row.tenantId
  siteId := row.siteId
  conversationId := row.conversationId
  userMessageId := row.triggerMessageId
  assistantMessageId := row.assistantMessageId
  agentRef := row.agentRef
  status := row.status
  attempt := row.attempt
  errorCode := row.errorCode.bind present
  createdAt := toISOString row.createdAt
  updatedAt := toISOString row.updatedAt
  completedAt := row.completedAt.map toISOString

def mapFailure (row : AgentRun) : RunResource :=
  { mapRun row with status := .failed, errorCode := some (row.errorCode.getD "RUN_FAILED") }

def mapHandoff (row : Handoff) : HandoffResource where
  handoffId := row.handoffId
  tenantId := row.tenantId
  siteId := row.siteId
  conversationId := row.conversationId
  runId := row.runId
  kind := row.kind
  status := row.status
  createdAt := toISOString row.createdAt
  updatedAt := toISOString row.updatedAt

section Previews

def collapse : List Char → List Char
  | [] => []
  | c :: cs =>
      if EmailHandoffService.isWhiteSpace c then
        match collapse cs with
        | ' ' :: rest => ' ' :: rest
        | rest => ' ' :: rest
      else c :: collapse cs

/-- The longest prefix of at most `n` UTF-16 code units. -/
def sliceUnits : ℕ → List Char → List Char
  | _, [] => []
  | n, c :: cs =>
      let units := if c.toNat < 0x10000 then 1 else 2
      if units ≤ n then c :: sliceUnits (n - units) cs else []

def textOf : ContentPart → Option String
  | .text text => some text
  | _ => none

def previewOf (row : Message) : Option String :=
  ((row.parts.findSome? textOf).bind present).bind fun text =>
    present (String.ofList (sliceUnits 500 (EmailHandoffService.trim (collapse text.toList))))

def firstPreview (rows : List Message) (conversationId : Id) : Option String :=
  (rows.filter fun m => decide (m.conversationId = conversationId)).findSome? previewOf

end Previews

variable (collation : Collation) (encoding : Encoding)

def scopedConversation (scope : AdminScope) (conversationId : Id) : Query Conversation := do
  match ← conversations.selectFirst (fun c =>
      decide (c.tenantId = scope.tenantId) && decide (c.conversationId = conversationId)) with
  | none => .throw notFound
  | some row => return row

def participantsFor (scope : AdminScope) (order : Arrangement ConversationParticipant)
    (conversationIds : List Id) :
    Query (List ConversationParticipant) :=
  if conversationIds = [] then return []
  else do
    let rows ← conversationParticipants.selectFrom fun p =>
      decide (p.tenantId = scope.tenantId) && decide (p.conversationId ∈ conversationIds)
    return order.arrange rows

def earlierMessage (left right : Message) : Bool :=
  decide (collation.sortKey left.conversationId < collation.sortKey right.conversationId) ||
    (decide (left.conversationId = right.conversationId) && decide (left.sequence ≤ right.sequence))

def firstUserMessagePreviews (scope : AdminScope) (conversationIds : List Id) : Query (Id → Option String) :=
  if conversationIds = [] then return fun _ => none
  else do
    let rows ← messages.selectFrom fun m => decide (m.tenantId = scope.tenantId) &&
      decide (m.conversationId ∈ conversationIds) && decide (m.role = .user)
    return firstPreview (rows.mergeSort (earlierMessage collation))

def limited {ρ : Type} (limit : ℕ) (timestamp : ρ → Timestamp) (id : ρ → Id) (matching : List ρ) : List ρ :=
  (matching.mergeSort (latestFirst collation timestamp id)).take (limit + 1)

def afterCursor (cursor : Option TimeCursor) (timestamp : Timestamp) (id : Id) : Bool :=
  cursor.all fun cursor => beforeCursor collation cursor timestamp id

def timeCursor {ρ : Type} (kind : CursorKind) (timestamp : ρ → Timestamp) (id : ρ → Id) (tail : ρ) : String :=
  encodeTimeCursor encoding kind (toISOString (timestamp tail)) (id tail)

def checked {status : Type} (kind : CursorKind) (filter : Filter status) :
    Except ServerError (Option TimeCursor) := do
  validateFilter filter
  decodeGiven (decodeTimeCursor encoding kind) filter.cursor

def conversationRows (scope : AdminScope) (filter : Filter ConversationStatus) (cursor : Option TimeCursor)
    (db : Tables) : List Conversation :=
  limited collation filter.limit Conversation.updatedAt Conversation.conversationId
    (conversations.matching (fun c => decide (c.tenantId = scope.tenantId) &&
      admits filter c.siteId c.agentRef c.status c.createdAt &&
      afterCursor collation cursor c.updatedAt c.conversationId) db)

def listConversations (scope : AdminScope) (order : Arrangement ConversationParticipant)
    (filter : Filter ConversationStatus) : Query (Page ConversationSummary) :=
  match checked encoding .conversation filter with
  | .error e => .throw e
  | .ok cursor => do
    let rows ← Program.select (conversationRows collation scope filter cursor)
    let page := rows.take filter.limit
    let conversationIds := page.map Conversation.conversationId
    let participants ← participantsFor scope order conversationIds
    let previews ← firstUserMessagePreviews collation scope conversationIds
    return ⟨page.map fun row => ⟨mapConversation row participants, previews row.conversationId⟩,
      paginate filter.limit
        (timeCursor encoding .conversation Conversation.updatedAt Conversation.conversationId) rows⟩

def getConversation (scope : AdminScope) (order : Arrangement ConversationParticipant) (conversationId : Id) :
    Query ConversationService.ConversationResource := do
  let row ← scopedConversation scope conversationId
  let participants ← participantsFor scope order [conversationId]
  return mapConversation row participants

def listMessages (scope : AdminScope) (conversationId : Id) (request : ListRequest) :
    Query (Page MessageResource) := do
  let _ ← scopedConversation scope conversationId
  match decodeGiven (decodeSequenceCursor encoding .message) request.cursor with
  | .error e => .throw e
  | .ok cursor =>
    let matching ← messages.selectFrom fun m => decide (m.tenantId = scope.tenantId) &&
      decide (m.conversationId = conversationId) && cursor.all fun cursor => decide (cursor < m.sequence)
    let rows := (matching.mergeSort MessageService.sequenceFirst).take (request.limit + 1)
    return ⟨(rows.take request.limit).map mapMessage,
      paginate request.limit (fun tail => encodeSequenceCursor encoding .message tail.sequence) rows⟩

def isVisible (scope : AdminScope) (e : ConversationEvent) : Bool :=
  decide (Permission.internal ∈ scope.scopes) || decide (e.visibility ≠ .internal)

def listEvents (scope : AdminScope) (conversationId : Id) (request : ListRequest) :
    Query (Page EventResource) := do
  let _ ← scopedConversation scope conversationId
  match decodeGiven (decodeSequenceCursor encoding .event) request.cursor with
  | .error e => .throw e
  | .ok cursor =>
    let matching ← conversationEvents.selectFrom fun e => decide (e.tenantId = scope.tenantId) &&
      decide (e.conversationId = conversationId) && isVisible scope e &&
      cursor.all fun cursor => decide (cursor < e.sequence)
    let rows := (matching.mergeSort EventStore.earlierFirst).take (request.limit + 1)
    return ⟨(rows.take request.limit).map mapEvent,
      paginate request.limit (fun tail => encodeSequenceCursor encoding .event tail.sequence) rows⟩

def runRows (scope : AdminScope) (filter : Filter RunStatus) (cursor : Option TimeCursor) (db : Tables) :
    List AgentRun :=
  limited collation filter.limit AgentRun.createdAt AgentRun.runId
    (agentRuns.matching (fun r => decide (r.tenantId = scope.tenantId) &&
      admits filter r.siteId r.agentRef r.status r.createdAt && afterCursor collation cursor r.createdAt r.runId)
        db)

def listRuns (scope : AdminScope) (filter : Filter RunStatus) : Query (Page RunResource) :=
  match checked encoding .run filter with
  | .error e => .throw e
  | .ok cursor => do
    let rows ← Program.select (runRows collation scope filter cursor)
    return ⟨(rows.take filter.limit).map mapRun,
      paginate filter.limit (timeCursor encoding .run AgentRun.createdAt AgentRun.runId) rows⟩

def listFailures (scope : AdminScope) (filter : Filter RunStatus) : Query (Page RunResource) :=
  match checked encoding .failure filter with
  | .error e => .throw e
  | .ok cursor => do
    let rows ← Program.select (runRows collation scope { filter with status := some .failed } cursor)
    return ⟨(rows.take filter.limit).map mapFailure,
      paginate filter.limit (timeCursor encoding .failure AgentRun.createdAt AgentRun.runId) rows⟩

/-- The join with `agent_runs` keeps a row once for each run with its `run_id`. -/
def handoffRows (scope : AdminScope) (filter : Filter HandoffStatus) (cursor : Option TimeCursor) (db : Tables) :
    List Handoff :=
  limited collation filter.limit Handoff.createdAt Handoff.handoffId
    ((handoffs.matching (fun h => decide (h.tenantId = scope.tenantId)) db).flatMap fun h =>
      (agentRuns.matching (fun r => decide (r.runId = h.runId) &&
        admits filter h.siteId r.agentRef h.status h.createdAt &&
        afterCursor collation cursor h.createdAt h.handoffId) db).map fun _ => h)

def listHandoffs (scope : AdminScope) (filter : Filter HandoffStatus) : Query (Page HandoffResource) :=
  match checked encoding .handoff filter with
  | .error e => .throw e
  | .ok cursor => do
    let rows ← Program.select (handoffRows collation scope filter cursor)
    return ⟨(rows.take filter.limit).map mapHandoff,
      paginate filter.limit (timeCursor encoding .handoff Handoff.createdAt Handoff.handoffId) rows⟩

section Overview

variable {W : Type}

def ofSite (scope : AdminScope) (siteId tenantId site : Id) : Bool :=
  decide (tenantId = scope.tenantId) && decide (site = siteId)

def latest (times : List Timestamp) : Option Timestamp := times.max?

def siteOverview (scope : AdminScope) (site : Site W) : Query (SiteOverview W) := do
  let conversationRows ← conversations.selectFrom fun c => ofSite scope site.siteId c.tenantId c.siteId
  let runRows ← agentRuns.selectFrom fun r => ofSite scope site.siteId r.tenantId r.siteId
  let handoffRows ← handoffs.selectFrom fun h => ofSite scope site.siteId h.tenantId h.siteId
  let recentDates :=
    [latest (conversationRows.map Conversation.updatedAt), latest (runRows.map AgentRun.updatedAt),
    latest (handoffRows.map Handoff.updatedAt)].filterMap fun date => date.map toISOString
  return {
    toSite := site
    stats := {
      conversations := conversationRows.length
      activeConversations := conversationRows.countP fun c => decide (c.status = .active)
      runs := runRows.length
      failures := runRows.countP fun r => decide (r.status = .failed)
      handoffs := handoffRows.length }
    recentActivityAt := recentDates.max? }

def addStats (sum stats : Stats) : Stats where
  conversations := sum.conversations + stats.conversations
  activeConversations := sum.activeConversations + stats.activeConversations
  runs := sum.runs + stats.runs
  failures := sum.failures + stats.failures
  handoffs := sum.handoffs + stats.handoffs

def getOverview (registry : Registry W) (scope : AdminScope) : Query (Overview W) :=
  match registry.tenant scope.tenantId with
  | none => .throw notFound
  | some displayName => do
    let sites ← (registry.sites scope.tenantId).mapM (siteOverview scope)
    return ⟨scope.tenantId, displayName, sites,
      (sites.map SiteOverview.stats).foldl addStats ⟨0, 0, 0, 0, 0⟩⟩

end Overview

end ChatCore.Services.AdminQueryService
