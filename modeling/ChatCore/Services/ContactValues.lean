import ChatCore.Relational.TwinRuns
import ChatCore.Services.ContactVeil
import ChatCore.Services.Histories
import ChatCore.Services.Pages
import ChatCore.Services.Replays

namespace ChatCore.Services.ContactValues

open Protocol Relational Database Program

section Readings

open AdminQueryService

variable {collation : Collation} {encoding : Encoding}

lemma blind_listConversations (scope : Scope) (request : ListRequest) :
    (ConversationService.list collation encoding scope request).Blind (Alike veil) := by
  unfold ConversationService.list
  split
  · exact .throw _
  · refine veils_conversations.blind_selectFrom.bind fun matching => ?_
    exact (blind_mapM (fun _ => blind_conversationGet _ _) _).bind fun _ => blind_pure _

lemma blind_listMessages (scope : Scope) (conversationId : Id) (request : ListRequest) :
    (MessageService.list encoding scope conversationId request).Blind (Alike veil) := by
  unfold MessageService.list
  refine (blind_requireConversation _ _).bind fun _ => ?_
  split
  · exact .throw _
  · exact veils_messages.blind_selectFrom.bind fun _ => blind_pure _

lemma blind_scopedConversation (scope : AdminScope) (conversationId : Id) :
    (scopedConversation scope conversationId).Blind (Alike veil) := by
  unfold scopedConversation
  refine veils_conversations.blind_selectFirst.bind fun found => ?_
  cases found with
  | none => exact .throw _
  | some row => exact blind_pure _

lemma blind_participantsFor (scope : AdminScope) (order : Arrangement ConversationParticipant) (ids : List Id) :
    (participantsFor scope order ids).Blind (Alike veil) :=
  Twins.ite Iff.rfl (blind_pure _) (veils_participants.blind_selectFrom.bind fun _ => blind_pure _)

lemma blind_previews (scope : AdminScope) (ids : List Id) :
    (firstUserMessagePreviews collation scope ids).Blind (Alike veil) :=
  Twins.ite Iff.rfl (blind_pure _) (veils_messages.blind_selectFrom.bind fun _ => blind_pure _)

lemma blind_adminConversations (scope : AdminScope) (order : Arrangement ConversationParticipant)
    (filter : AdminQueryService.Filter ConversationStatus) :
    (AdminQueryService.listConversations collation encoding scope order filter).Blind (Alike veil) := by
  unfold AdminQueryService.listConversations
  split
  · exact .throw _
  · refine (blind_select fun db db' h => ?_).bind fun rows => ?_
    · have hconversations := congrArg Tables.conversations h
      change db.conversations = db'.conversations at hconversations
      simp only [conversationRows, Relation.matching, conversations, hconversations]
    · exact (blind_participantsFor _ _ _).bind fun _ => (blind_previews _ _).bind fun _ => blind_pure _

lemma blind_adminConversation (scope : AdminScope) (order : Arrangement ConversationParticipant)
    (conversationId : Id) :
    (AdminQueryService.getConversation scope order conversationId).Blind (Alike veil) :=
  (blind_scopedConversation _ _).bind fun _ => (blind_participantsFor _ _ _).bind fun _ => blind_pure _

lemma blind_adminMessages (scope : AdminScope) (conversationId : Id) (request : ListRequest) :
    (AdminQueryService.listMessages encoding scope conversationId request).Blind (Alike veil) := by
  unfold AdminQueryService.listMessages
  refine (blind_scopedConversation _ _).bind fun _ => ?_
  split
  · exact .throw _
  · exact veils_messages.blind_selectFrom.bind fun _ => blind_pure _

lemma blind_listEvents (scope : AdminScope) (conversationId : Id) (request : ListRequest) :
    (listEvents encoding scope conversationId request).Blind (Alike veil) := by
  unfold listEvents
  refine (blind_scopedConversation _ _).bind fun _ => ?_
  split
  · exact .throw _
  · exact veils_events.blind_selectFrom.bind fun _ => blind_pure _

lemma runRows_alike {db db' : Tables} (h : Alike veil db db') (scope : AdminScope)
    (filter : AdminQueryService.Filter RunStatus) (cursor : Option TimeCursor) :
    runRows collation scope filter cursor db = runRows collation scope filter cursor db' := by
  have hruns := congrArg Tables.agentRuns h
  change db.agentRuns = db'.agentRuns at hruns
  simp only [runRows, Relation.matching, agentRuns, hruns]

lemma blind_listRuns (scope : AdminScope) (filter : AdminQueryService.Filter RunStatus) :
    (listRuns collation encoding scope filter).Blind (Alike veil) := by
  unfold listRuns
  split
  · exact .throw _
  · refine (blind_select fun db db' h => ?_).bind fun _ => blind_pure _
    exact runRows_alike h _ _ _

lemma blind_listFailures (scope : AdminScope) (filter : AdminQueryService.Filter RunStatus) :
    (listFailures collation encoding scope filter).Blind (Alike veil) := by
  unfold listFailures
  split
  · exact .throw _
  · refine (blind_select fun db db' h => ?_).bind fun _ => blind_pure _
    exact runRows_alike h _ _ _

lemma blind_listHandoffs (scope : AdminScope) (filter : AdminQueryService.Filter HandoffStatus) :
    (listHandoffs collation encoding scope filter).Blind (Alike veil) := by
  unfold listHandoffs
  split
  · exact .throw _
  · refine (blind_select fun db db' h => ?_).bind fun _ => blind_pure _
    have hruns := congrArg Tables.agentRuns h
    have hhandoffs := congrArg Tables.handoffs h
    change db.agentRuns = db'.agentRuns at hruns
    change db.handoffs = db'.handoffs at hhandoffs
    simp only [handoffRows, Relation.matching, agentRuns, handoffs, hruns, hhandoffs]

lemma blind_getOverview {W : Type} (registry : Registry W) (scope : AdminScope) :
    (getOverview registry scope).Blind (Alike veil) := by
  unfold getOverview
  split
  · exact .throw _
  · refine (blind_mapM (fun site => ?_) _).bind fun _ => blind_pure _
    refine veils_conversations.blind_selectFrom.bind fun _ => veils_runs.blind_selectFrom.bind fun _ => ?_
    exact veils_handoffs.blind_selectFrom.bind fun _ => blind_pure _

end Readings

section Operations

/-- Everything that the routes, the workers and the retention job ask of the database. -/
inductive Operation
  | traffic (traffic : Traffic)
  | getConversation (scope : Scope) (conversationId : Id)
  | listConversations (scope : Scope) (request : ListRequest)
  | listMessages (scope : Scope) (conversationId : Id) (request : ListRequest)
  | adminOverview (scope : AdminQueryService.AdminScope)
  | adminConversations (scope : AdminQueryService.AdminScope) (order : Arrangement ConversationParticipant)
      (filter : AdminQueryService.Filter ConversationStatus)
  | adminConversation (scope : AdminQueryService.AdminScope) (order : Arrangement ConversationParticipant)
      (conversationId : Id)
  | adminMessages (scope : AdminQueryService.AdminScope) (conversationId : Id) (request : ListRequest)
  | adminEvents (scope : AdminQueryService.AdminScope) (conversationId : Id) (request : ListRequest)
  | adminRuns (scope : AdminQueryService.AdminScope) (filter : AdminQueryService.Filter RunStatus)
  | adminFailures (scope : AdminQueryService.AdminScope) (filter : AdminQueryService.Filter RunStatus)
  | adminHandoffs (scope : AdminQueryService.AdminScope) (filter : AdminQueryService.Filter HandoffStatus)

inductive Answer (W : Type)
  | served (served : Served)
  | conversation (resource : ConversationService.ConversationResource)
  | conversations (page : Page ConversationService.ConversationResource)
  | messages (page : Page MessageResource)
  | overview (overview : AdminQueryService.Overview W)
  | summaries (page : Page AdminQueryService.ConversationSummary)
  | events (page : Page AdminQueryService.EventResource)
  | runs (page : Page AdminQueryService.RunResource)
  | handoffs (page : Page AdminQueryService.HandoffResource)

variable {W : Type} (server : Deployment) (collation : Collation) (encoding : Encoding)
  (registry : AdminQueryService.Registry W)

def operationBody : Operation → Query (Answer W)
  | .traffic traffic => .served <$> trafficBody server traffic
  | .getConversation scope conversationId => .conversation <$> ConversationService.get scope conversationId
  | .listConversations scope request =>
    .conversations <$> ConversationService.list collation encoding scope request
  | .listMessages scope conversationId request =>
      .messages <$> MessageService.list encoding scope conversationId request
  | .adminOverview scope => .overview <$> AdminQueryService.getOverview registry scope
  | .adminConversations scope order filter =>
      .summaries <$> AdminQueryService.listConversations collation encoding scope order filter
  | .adminConversation scope order conversationId =>
      .conversation <$> AdminQueryService.getConversation scope order conversationId
  | .adminMessages scope conversationId request =>
      .messages <$> AdminQueryService.listMessages encoding scope conversationId request
  | .adminEvents scope conversationId request =>
      .events <$> AdminQueryService.listEvents encoding scope conversationId request
  | .adminRuns scope filter => .runs <$> AdminQueryService.listRuns collation encoding scope filter
  | .adminFailures scope filter => .runs <$> AdminQueryService.listFailures collation encoding scope filter
  | .adminHandoffs scope filter => .handoffs <$> AdminQueryService.listHandoffs collation encoding scope filter

def hideAnswer : Answer W → Answer W
  | .served (.outcome (.context context)) => .served (.outcome (.context (hideContext context)))
  | answer => answer

def Operation.Unbiased : Operation → Prop
  | .traffic (.task (.call (.loadContext _ orders))) => ContactValues.Unbiased orders.inputs
  | _ => True

def hideOutcome : Outcome → Outcome
  | .context context => .context (hideContext context)
  | outcome => outcome

lemma hideAnswer_outcome (outcome : Outcome) :
    (hideAnswer (.served (.outcome outcome)) : Answer W) = .served (.outcome (hideOutcome outcome)) := by
  cases outcome <;> rfl

lemma blind_body {call : Call} (h : ∀ run orders, call ≠ .loadContext run orders) :
    (body server call).Blind (Alike veil) := by
  cases call with
  | createConversation => exact (blind_createConversation _ _ _ _ _).map _
  | submitMessage => exact (blind_submitMessage _ _ _ _ _ _ _).map _
  | createEmailHandoff => exact (blind_createHandoff _ _ _ _ _ _ _).map _
  | cancelRun => exact (blind_cancel _ _ _ _ _ _).map _
  | submitStructuredInput => exact (blind_submitInput _ _ _ _ _ _ _).map _
  | replayEvents => exact (blind_replay _ _ _ _).map _
  | appendEvent => exact (blind_append _ _ _ _ _).map _
  | claim => exact (blind_claim _ _ _).map _
  | loadContext run orders => exact absurd rfl (h run orders)
  | materialize => exact (blind_materialize _ _ _ _).map _
  | complete => exact (blind_complete _ _).map _
  | waitForInput => exact (blind_waitForInput _ _).map _
  | isCancellationRequested => exact (blind_isCancellationRequested _).map _
  | renewLease => exact (blind_renewLease _ _ _).map _
  | cancel => exact (blind_workerCancel _ _).map _
  | fail => exact (blind_fail _ _ _).map _

lemma twins_body {call : Call} (h : (Operation.traffic (.task (.call call))).Unbiased) :
    (body server call).Twins (Alike veil) (fun outcome outcome' => hideOutcome outcome = hideOutcome outcome')
      (body server call) := by
  by_cases hload : ∃ run orders, call = .loadContext run orders
  · obtain ⟨run, orders, rfl⟩ := hload
    exact (twins_loadContext run h).map fun _ _ ha => congrArg Outcome.context ha
  · exact (blind_body server fun run orders hcall => hload ⟨run, orders, hcall⟩).mono
      fun _ _ ha => congrArg hideOutcome ha

lemma blind_sweep (policy : RetentionService.RetentionPolicy) (orders : RetentionService.Orders) (now : Timestamp) :
    (taskBody server (.sweep policy orders now)).Blind (Alike veil) :=
  (blind_runOnce policy orders now).map _

lemma blind_operation {operation : Operation} (h : ∀ task, operation ≠ .traffic (.task task)) :
    (operationBody server collation encoding registry operation).Blind (Alike veil) := by
  cases operation with
  | traffic traffic => cases traffic with
    | task task => exact absurd rfl (h task)
    | bootstrap issuer directory request context ids now currentTimestamp =>
      exact ((blind_bootstrap ⟨request, context, ids, now, currentTimestamp⟩).map _).map _
  | getConversation => exact (blind_conversationGet _ _).map _
  | listConversations => exact (blind_listConversations _ _).map _
  | listMessages => exact (blind_listMessages _ _ _).map _
  | adminOverview => exact (blind_getOverview _ _).map _
  | adminConversations => exact (blind_adminConversations _ _ _).map _
  | adminConversation => exact (blind_adminConversation _ _ _).map _
  | adminMessages => exact (blind_adminMessages _ _ _).map _
  | adminEvents => exact (blind_listEvents _ _ _).map _
  | adminRuns => exact (blind_listRuns _ _).map _
  | adminFailures => exact (blind_listFailures _ _).map _
  | adminHandoffs => exact (blind_listHandoffs _ _).map _

lemma twins_operation {operation : Operation} (h : operation.Unbiased) :
    (operationBody server collation encoding registry operation).Twins (Alike veil)
      (fun a a' => hideAnswer a = hideAnswer a') (operationBody server collation encoding registry operation) := by
  by_cases htask : ∃ task, operation = .traffic (.task task)
  · obtain ⟨task, rfl⟩ := htask
    have htwins : (taskBody server task).Twins (Alike veil)
        (fun outcome outcome' => hideOutcome outcome = hideOutcome outcome') (taskBody server task) := by
      cases task with
      | call call => exact twins_body server h
      | sweep policy orders now =>
        exact (blind_sweep server policy orders now).mono fun _ _ ha => congrArg hideOutcome ha
    refine Twins.map (Q := fun a a' => hideAnswer (W := W) (.served a) = hideAnswer (.served a')) ?_
      fun _ _ ha => ha
    exact htwins.map fun _ _ ha => by rw [hideAnswer_outcome, hideAnswer_outcome, ha]
  · exact (blind_operation server collation encoding registry fun task ht => htask ⟨task, ht⟩).mono
      fun _ _ ha => congrArg hideAnswer ha

def observed : Record Tables ServerError (Answer W) Operation → Record Tables ServerError (Answer W) Operation
  | .committed id operation before after => .committed id operation (veil before) (veil after)
  | .finished id operation result => .finished id operation (result.map hideAnswer)

end Operations

/-- From databases that differ only in the contents of contact values, the same operations in the same order give
the same answers and errors, and leave databases that differ only there; only connectors are given the values. -/
theorem contact_values_confidential {W : Type} (server : Deployment) (collation : Collation) (encoding : Encoding)
    (registry : AdminQueryService.Registry W) (db db' : Tables) (h : veil db = veil db')
    (moves : List (Move Operation))
    (hunbiased : ∀ operation, .start operation ∈ moves → operation.Unbiased) :
    let body := operationBody server collation encoding registry
    let w := (World.initial db).exec body moves
    let w' := (World.initial db').exec body moves
    veil w.db = veil w'.db ∧ w.history.map observed = w'.history.map observed := by
  intro body w w'
  have htwins : w.Twins (Alike veil) (fun a a' => hideAnswer a = hideAnswer a') w' :=
    World.Twins.exec_initial (R := Alike veil) h moves fun operation hmem =>
      twins_operation server collation encoding registry (hunbiased operation hmem)
  refine ⟨htwins.db, ?_⟩
  have hhistory := htwins.history
  generalize w.history = history at hhistory ⊢
  generalize w'.history = history' at hhistory ⊢
  induction hhistory with
  | nil => rfl
  | cons hrecord _ ih =>
    rw [List.map_cons, List.map_cons, ih]
    congr 1
    cases hrecord with
    | committed id operation hbefore hafter => exact congrArg₂ (Record.committed id operation) hbefore hafter
    | finished id operation ha => exact congrArg (fun a => Record.finished id operation (.ok a)) ha
    | failed id operation e => rfl

section Scenario

def ada : Scope := ⟨"tenant", "site", "visitor"⟩

def emailRun : AgentRun :=
  { MessageService.newRun ada "conversation" "question" "run" "answer" "agent" .agentEmailHandoff 0 with
    status := .running, attempt := 1 }

def emailed (email : String) : Tables where
  principals := (∅ : Table Principal.principalId).insert ⟨"visitor", "tenant", "site", "browser", 0⟩
  browserSessions := ∅
  sessionBootstrapIdempotency := ∅
  conversations := (∅ : Table Conversation.conversationId).insert
    { ConversationService.newConversation ada "agent" "conversation" 0 with nextMessageSequence := 2 }
  conversationParticipants := ((∅ : Table ConversationParticipant.participantId).insert
    (ConversationService.userParticipant ada ⟨"conversation", "user", "assistant"⟩)).insert
      (ConversationService.agentParticipant ada "agent" ⟨"conversation", "user", "assistant"⟩)
  messages := (∅ : Table Message.messageId).insert
    ⟨"question", "tenant", "site", "conversation", 1, "user", .user, .completed, [.text "Hi"], 0, some 0⟩
  commandIdempotency := ∅
  conversationEvents := ∅
  agentRuns := (∅ : Table AgentRun.runId).insert emailRun
  handoffs := (∅ : Table Handoff.handoffId).insert
    (EmailHandoffService.newHandoff ada "conversation" ⟨"run", "handoff", "answer"⟩ 0)
  structuredInputRequests := (∅ : Table StructuredInputRequest.requestId).insert
    (EmailHandoffService.newInput ada "conversation" email ⟨"run", "handoff", "answer"⟩ 0)

def noSites : AdminQueryService.Registry Unit := ⟨fun _ => some "Tenant", fun _ => []⟩

def busyHour : List (Move Operation) :=
  [.start (.traffic (.task (.call (.loadContext emailRun ⟨Histories.asStored, Histories.asStored⟩)))),
    .start (.traffic (.task (.sweep ⟨30, 24⟩ ⟨Histories.asStored, Histories.asStored⟩ 0))),
    .start (.adminRuns ⟨"tenant", [.read]⟩ ⟨none, none, none, none, none, none, 10⟩)] ++
  List.replicate 7 (.advance 0) ++ List.replicate 9 (.advance 1) ++ List.replicate 2 (.advance 2)

def givenValues (email : String) : List (List (Option String)) :=
  (((World.initial (emailed email)).exec (operationBody Replays.forgetful binary burstEncoding noSites)
    busyHour).history.filterMap fun r => match r with
      | .finished _ _ (.ok (.served (.outcome (.context context)))) =>
          some (context.request.resolvedInputs.map RunWorker.ResolvedInput.value)
      | _ => none)

theorem emailed_confidential :
    (givenValues "ada@example.com" = [[some "ada@example.com"]] ∧ givenValues "bob@example.com" =
      [[some "bob@example.com"]]) ∧
    let body := operationBody Replays.forgetful binary burstEncoding noSites
    let w := (World.initial (emailed "ada@example.com")).exec body busyHour
    let w' := (World.initial (emailed "bob@example.com")).exec body busyHour
    veil w.db = veil w'.db ∧ w.history.map observed = w'.history.map observed := by
  have halike : veil (emailed "ada@example.com") = veil (emailed "bob@example.com") := rfl
  refine ⟨by decide +kernel, contact_values_confidential _ _ _ _ _ _ halike busyHour fun operation hstart => ?_⟩
  simp only [busyHour, List.mem_append, List.mem_cons, List.mem_replicate, List.not_mem_nil, or_false,
    Move.start.injEq,
    reduceCtorEq, and_false] at hstart
  rcases hstart with rfl | rfl | rfl
  · exact fun rows rows' h => h
  · trivial
  · trivial

end Scenario

end ChatCore.Services.ContactValues
