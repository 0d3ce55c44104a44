import ChatCore.Relational.Twins
import ChatCore.Services.Bootstraps

namespace ChatCore.Services.ContactValues

open Protocol Relational Database Program

def hideText (value : Option String) : Option String := value.map fun text => if text = "" then "" else "*"

def hideValue (r : StructuredInputRequest) : StructuredInputRequest := { r with value := hideText r.value }

lemma hideValue_requestId (r : StructuredInputRequest) : (hideValue r).requestId = r.requestId := rfl

def hidden (inputs : Table StructuredInputRequest.requestId) : Table StructuredInputRequest.requestId :=
  inputs.update (fun _ => true) hideValue hideValue_requestId

lemma hidden_rows (inputs : Table StructuredInputRequest.requestId) :
    (hidden inputs).rows = inputs.rows.map hideValue := by
  simp only [hidden, Table.update_rows, if_true]

def veil (db : Tables) : Tables := { db with structuredInputRequests := hidden db.structuredInputRequests }

lemma fields_of_hideValue {r r' : StructuredInputRequest} (h : hideValue r = hideValue r') :
    r.requestId = r'.requestId ∧ r.runId = r'.runId ∧ r.status = r'.status := by
  have hid := congrArg StructuredInputRequest.requestId h
  have hrun := congrArg StructuredInputRequest.runId h
  have hstatus := congrArg StructuredInputRequest.status h
  exact ⟨hid, hrun, hstatus⟩

lemma hideText_hideText (value : Option String) : hideText (hideText value) = hideText value := by
  rw [hideText, hideText, Option.map_map]
  congr 1
  funext text
  by_cases ht : text = "" <;> simp [ht]

lemma isSome_hideText (value : Option String) : (hideText value).isSome = value.isSome := Option.isSome_map

section Veils

lemma veils_open {ρ κ : Type} {key : ρ → κ} {t : Relation Tables LockName key}
    (hget : ∀ db, t.get (veil db) = t.get db)
    (hput : ∀ db x, veil (t.put db x) = t.put (veil db) x)
    (hviolation : ∀ db r, t.violation (veil db) r = t.violation db r) : t.Veils veil id where
  keys _ := rfl
  get db := by rw [hget, List.map_id]
  put db db' x x' hdb hx := by
    rw [List.map_id, List.map_id] at hx
    rw [Table.ext hx, hput, hput, hdb]
  check _ := rfl
  violation := hviolation

lemma veils_principals : principals.Veils veil id := veils_open (fun _ => rfl) (fun _ _ => rfl) fun _ _ => rfl

lemma veils_browserSessions : browserSessions.Veils veil id :=
  veils_open (fun _ => rfl) (fun _ _ => rfl) fun _ _ => rfl

lemma veils_bootstraps : sessionBootstrapIdempotency.Veils veil id :=
  veils_open (fun _ => rfl) (fun _ _ => rfl) fun _ _ => rfl

lemma veils_conversations : conversations.Veils veil id :=
  veils_open (fun _ => rfl) (fun _ _ => rfl) fun _ _ => rfl

lemma veils_participants : conversationParticipants.Veils veil id :=
  veils_open (fun _ => rfl) (fun _ _ => rfl) fun _ _ => rfl

lemma veils_messages : messages.Veils veil id := veils_open (fun _ => rfl) (fun _ _ => rfl) fun _ _ => rfl

lemma veils_commands : commandIdempotency.Veils veil id :=
  veils_open (fun _ => rfl) (fun _ _ => rfl) fun _ _ => rfl

lemma veils_events : conversationEvents.Veils veil id := veils_open (fun _ => rfl) (fun _ _ => rfl) fun _ _ => rfl

lemma veils_runs : agentRuns.Veils veil id := veils_open (fun _ => rfl) (fun _ _ => rfl) fun _ _ => rfl

lemma veils_handoffs : handoffs.Veils veil id := veils_open (fun _ => rfl) (fun _ _ => rfl) fun _ _ => rfl

lemma veils_inputs : structuredInputRequests.Veils veil hideValue where
  keys _ := rfl
  get db := by
    change (hidden db.structuredInputRequests).rows = db.structuredInputRequests.rows.map hideValue
    exact hidden_rows _
  put db db' x x' hdb hx := by
    have hput : ∀ db (x : Table StructuredInputRequest.requestId), veil (structuredInputRequests.put db x) =
        structuredInputRequests.put (veil db) (hidden x) := fun _ _ => rfl
    rw [hput, hput, hdb, Table.ext (t := hidden x) (u := hidden x') (by rw [hidden_rows, hidden_rows, hx])]
  check r := by
    change failing _ (resolutionCheck (hideValue r)) = failing _ (resolutionCheck r)
    congr 1
    simp only [resolutionCheck, hideValue, ← Option.not_isSome, isSome_hideText]
    cases r.status <;> rfl
  violation _ _ := rfl

end Veils

section Commands

variable {platform : Platform} {α : Type}

lemma blind_requireConversation (scope : Scope) (conversationId : Id) :
    (requireConversation scope conversationId).Blind (Alike veil) := by
  unfold requireConversation
  refine veils_conversations.blind_selectFirst.bind fun found => ?_
  cases found with
  | none => exact .throw _
  | some conversation => exact blind_pure _

lemma blind_sameRequest (requestHash : String) (previous : CommandIdempotency) :
    (sameRequest requestHash previous).Blind (Alike veil) := by
  unfold sameRequest
  split
  · exact .throw _
  · exact blind_pure _

lemma blind_withIdempotency {k : CommandKey} {replay : CommandIdempotency → Query α} {fresh : Query α}
    (hreplay : ∀ previous, (replay previous).Blind (Alike veil)) (hfresh : fresh.Blind (Alike veil)) :
    (withIdempotency platform k replay fresh).Blind (Alike veil) := by
  unfold withIdempotency
  refine (blind_lock _).bind fun _ => veils_commands.blind_selectFirst.bind fun found => ?_
  cases found with
  | none => exact hfresh
  | some previous => exact hreplay previous

lemma blind_conversationGet (scope : Scope) (conversationId : Id) :
    (ConversationService.get scope conversationId).Blind (Alike veil) := by
  unfold ConversationService.get
  exact (blind_requireConversation _ _).bind fun _ => veils_participants.blind_selectFrom.bind
    fun _ => blind_pure _

lemma blind_createConversation (scope : Scope) (agentRef : Id) (idempotencyKey : String)
    (ids : ConversationService.CreateIds) (currentTimestamp : Timestamp) :
    (ConversationService.create platform scope agentRef idempotencyKey ids currentTimestamp).Blind
      (Alike veil) := by
  unfold ConversationService.create
  refine (Blind.transaction (blind_withIdempotency (blind_sameRequest _) ?_)).bind fun id =>
    blind_conversationGet _ _
  unfold ConversationService.insertConversation
  refine (veils_conversations.blind_insertInto _).bind fun _ =>
    (veils_participants.blind_insertInto _).bind fun _ => ?_
  exact (veils_participants.blind_insertInto _).bind fun _ => (veils_commands.blind_insertInto _).bind
    fun _ => blind_pure _

lemma blind_messageGet (scope : Scope) (conversationId messageId : Id) :
    (MessageService.get scope conversationId messageId).Blind (Alike veil) := by
  unfold MessageService.get
  refine (blind_requireConversation _ _).bind fun _ => veils_messages.blind_selectFirst.bind fun found => ?_
  cases found with
  | none => exact .throw _
  | some row => exact blind_pure _

lemma blind_insertMessage (scope : Scope) (conversationId : Id) (request : MessageService.SubmitMessageRequest)
    (k : CommandKey) (ids : MessageService.SubmitIds) (now currentTimestamp : Timestamp) :
    (MessageService.insertMessage platform scope conversationId request k ids now currentTimestamp).Blind
      (Alike veil) := by
  unfold MessageService.insertMessage
  refine (blind_requireConversation _ _).bind fun conversation => ?_
  refine veils_participants.blind_selectFirstOrThrow.bind fun participant => ?_
  refine (veils_conversations.blind_updateTable _).bind fun rows => ?_
  refine (Relation.blind_orThrow _).bind fun updated => (veils_messages.blind_insertInto _).bind fun _ => ?_
  exact (veils_runs.blind_insertInto _).bind fun _ => (veils_commands.blind_insertInto _).bind
    fun _ => blind_pure _

lemma blind_submitMessage (scope : Scope) (conversationId : Id) (request : MessageService.SubmitMessageRequest)
    (idempotencyKey : String) (ids : MessageService.SubmitIds) (now currentTimestamp : Timestamp) :
    (MessageService.submit platform scope conversationId request idempotencyKey ids now currentTimestamp).Blind
      (Alike veil) := by
  unfold MessageService.submit
  exact (Blind.transaction (blind_withIdempotency (blind_sameRequest _) (blind_insertMessage _ _ _ _ _ _ _))).bind
    fun id => blind_messageGet _ _ _

lemma blind_handoffGet (scope : Scope) (conversationId handoffId : Id) :
    (EmailHandoffService.get scope conversationId handoffId).Blind (Alike veil) := by
  unfold EmailHandoffService.get
  exact veils_handoffs.blind_selectFirstOrThrow.bind fun _ => blind_pure _

lemma blind_insertHandoff (scope : Scope) (conversationId : Id)
    (request : EmailHandoffService.CreateEmailHandoffRequest) (k : CommandKey)
    (ids : EmailHandoffService.CreateIds)
    (now currentTimestamp : Timestamp) :
    (EmailHandoffService.insertHandoff platform scope conversationId request k ids now currentTimestamp).Blind
      (Alike veil) := by
  unfold EmailHandoffService.insertHandoff
  refine (blind_requireConversation _ _).bind fun conversation => veils_messages.blind_selectFrom.bind
    fun candidates => ?_
  cases (candidates.mergeSort EmailHandoffService.laterFirst).head? with
  | none => exact .throw _
  | some trigger =>
    refine (veils_runs.blind_insertInto _).bind fun _ => (veils_handoffs.blind_insertInto _).bind fun _ => ?_
    exact (veils_inputs.blind_insertInto _).bind fun _ => (veils_commands.blind_insertInto _).bind
      fun _ => blind_pure _

lemma blind_createHandoff (scope : Scope) (conversationId : Id)
    (request : EmailHandoffService.CreateEmailHandoffRequest) (idempotencyKey : String)
    (ids : EmailHandoffService.CreateIds) (now currentTimestamp : Timestamp) :
    (EmailHandoffService.create platform scope conversationId request idempotencyKey ids now
      currentTimestamp).Blind
      (Alike veil) := by
  unfold EmailHandoffService.create
  exact (Blind.transaction (blind_withIdempotency (blind_sameRequest _) (blind_insertHandoff _ _ _ _ _ _ _))).bind
    fun id => blind_handoffGet _ _ _

lemma blind_decodeOutcome (conversationId : Id) (resourceId : String) :
    (RunService.decodeOutcome conversationId resourceId).Blind (Alike veil) := by
  unfold RunService.decodeOutcome
  dsimp only
  split
  · split
    · exact .throw _
    · exact blind_pure _
  · exact .throw _

lemma blind_cancelRun (run : AgentRun) (now : Timestamp) : (RunService.cancelRun run now).Blind (Alike veil) := by
  have hupdate : ∀ (f : AgentRun → AgentRun) (hf : ∀ r, (f r).runId = r.runId),
      (RunService.updateRun run.runId f hf).Blind (Alike veil) :=
    fun f hf => (veils_runs.blind_updateTable hf).bind fun _ => blind_pure _
  unfold RunService.cancelRun
  cases run.status with
  | queued | running | cancelRequested => exact (hupdate _ _).bind fun _ => blind_pure _
  | waitingForInput | completed | failed | cancelled => exact blind_pure _

lemma blind_cancelLatest (scope : Scope) (conversationId : Id) (k : CommandKey) (order : Arrangement AgentRun)
    (now currentTimestamp : Timestamp) :
    (RunService.cancelLatest platform scope conversationId k order now currentTimestamp).Blind (Alike veil) := by
  unfold RunService.cancelLatest
  refine (blind_requireConversation _ _).bind fun _ => veils_runs.blind_forUpdate.bind fun runs => ?_
  cases (order.sorted RunService.latestFirst runs).head? with
  | none => exact .throw _
  | some run =>
    exact (blind_cancelRun run now).bind fun _ => (veils_commands.blind_insertInto _).bind fun _ => blind_pure _

lemma blind_cancel (scope : Scope) (conversationId : Id) (idempotencyKey : String) (order : Arrangement AgentRun)
    (now currentTimestamp : Timestamp) :
    (RunService.cancel platform scope conversationId idempotencyKey order now currentTimestamp).Blind
      (Alike veil) :=
  Blind.transaction (blind_withIdempotency (fun _ => blind_decodeOutcome _ _) (blind_cancelLatest _ _ _ _ _ _))

end Commands

section Inputs

variable {platform : Platform}

lemma option_cases {ρ : Type} {hide : ρ → ρ} {row row' : Option ρ} (h : row.map hide = row'.map hide) :
    (row = none ∧ row' = none) ∨ ∃ r r', row = some r ∧ row' = some r' ∧ hide r = hide r' := by
  cases row with
  | none => cases row' with
    | none => exact Or.inl ⟨rfl, rfl⟩
    | some r' => cases h
  | some r => cases row' with
    | none => cases h
    | some r' => exact Or.inr ⟨r, r', rfl, rfl, Option.some.inj h⟩

lemma blind_resolveInput (scope : Scope) (conversationId requestId : Id)
    (request : StructuredInputService.SubmitStructuredInputRequest) (k : CommandKey)
    (now currentTimestamp : Timestamp) :
    (StructuredInputService.resolveInput platform scope conversationId requestId request k now
      currentTimestamp).Blind
      (Alike veil) := by
  unfold StructuredInputService.resolveInput
  refine (blind_requireConversation _ _).bind fun _ => ?_
  refine (veils_inputs.twins_forUpdate fun _ => rfl).bind fun rows rows' hrows => ?_
  have hhead : rows.head?.map hideValue = rows'.head?.map hideValue := by
    rw [← List.head?_map, ← List.head?_map, hrows]
  rcases option_cases hhead with ⟨h, h'⟩ | ⟨input, input', h, h', hsame⟩ <;> rw [h, h']
  · exact .throw _
  obtain ⟨hid, hrun, hstatus⟩ := fields_of_hideValue hsame
  dsimp only
  rw [hid, hrun, hstatus]
  split
  · exact .throw _
  refine (veils_inputs.twins_updateTable (fun _ => rfl) _ fun _ => rfl).bind fun updated updated' hupdated => ?_
  have hlength : updated.length = updated'.length := by
    rw [← List.length_map (f := hideValue), hupdated, List.length_map]
  rw [hlength]
  split
  · exact .throw _
  refine (veils_runs.blind_updateTable _).bind fun requeued => ?_
  split
  · exact .throw _
  refine Blind.bind ?_ fun _ => veils_commands.blind_insertInto _
  cases request with
  | submitted value => exact (veils_handoffs.blind_updateTable _).bind fun _ => blind_pure _
  | declined => exact blind_pure _

lemma blind_mapInput {row row' : StructuredInputRequest} (h : hideValue row = hideValue row') :
    (StructuredInputService.mapInput row).Twins (Alike veil) Eq (StructuredInputService.mapInput row') := by
  have heq : StructuredInputService.mapInput row = StructuredInputService.mapInput row' := by
    change StructuredInputService.mapInput (hideValue row) = StructuredInputService.mapInput (hideValue row')
    rw [h]
  rw [heq]
  unfold StructuredInputService.mapInput
  split
  · exact .throw _
  · exact blind_pure _

lemma blind_inputGet (scope : Scope) (conversationId requestId : Id) :
    (StructuredInputService.get scope conversationId requestId).Blind (Alike veil) := by
  unfold StructuredInputService.get
  refine Twins.bind (Q := fun row row' => row.map hideValue = row'.map hideValue)
    (twins_select fun db db' hdb => ?_)
    fun row row' hrow => ?_
  · have hconversations := congrArg Tables.conversations hdb
    change db.conversations = db'.conversations at hconversations
    rw [← List.head?_map, ← List.head?_map]
    simp only [Relation.matching, conversations, hconversations]
    exact congrArg List.head? (veils_inputs.matching hdb fun _ => rfl)
  · rcases option_cases hrow with ⟨rfl, rfl⟩ | ⟨r, r', rfl, rfl, hsame⟩
    · exact .throw _
    · exact blind_mapInput hsame

lemma blind_submitInput (scope : Scope) (conversationId requestId : Id)
    (request : StructuredInputService.SubmitStructuredInputRequest) (idempotencyKey : String)
    (now currentTimestamp : Timestamp) :
    (StructuredInputService.submit platform scope conversationId requestId request idempotencyKey now
      currentTimestamp).Blind (Alike veil) := by
  unfold StructuredInputService.submit
  refine (Blind.transaction (blind_withIdempotency (fun previous => ?_) (blind_resolveInput _ _ _ _ _ _ _))).bind
    fun _ => blind_inputGet _ _ _
  exact (blind_sameRequest _ previous).bind fun _ => blind_pure _

end Inputs

section Events

lemma blind_storing (taken : Bool) : (storing taken).Blind (Alike veil) := by
  cases taken
  · exact .throw _
  · exact blind_pure _

lemma blind_append (retentionMaxEvents : ℕ) (scope : Scope) (event : ConnectorEvent) (eventId : Id)
    (occurredAt : Timestamp) :
    (EventStore.append retentionMaxEvents scope event eventId occurredAt).Blind (Alike veil) := by
  unfold EventStore.append
  refine Blind.transaction ((veils_conversations.blind_updateTable _).bind fun rows => ?_)
  cases rows.head? with
  | none => exact .throw _
  | some allocation =>
    refine (blind_storing _).bind fun _ => (veils_events.blind_insertInto _).bind fun _ => ?_
    exact veils_events.blind_deleteFrom.bind fun _ => blind_pure _

lemma blind_replay (scope : Scope) (conversationId : Id) (afterEventId : Option Id)
    (stamp : EventStore.SyncStamp) :
    (EventStore.replay scope conversationId afterEventId stamp).Blind (Alike veil) := by
  have hrows : ∀ n, (EventStore.replayRows scope conversationId n).Blind (Alike veil) :=
    fun n => veils_events.blind_selectFrom.bind fun _ => blind_pure _
  unfold EventStore.replay
  refine (blind_requireConversation _ _).bind fun conversation => ?_
  unfold EventStore.replayAfter
  split
  · exact hrows 0
  · refine veils_events.blind_selectFirst.bind fun found => ?_
    cases found with
    | none => exact blind_pure _
    | some cursor => exact hrows _

end Events

section Worker

open RunWorker

lemma blind_claim (options : Options) (order : Arrangement AgentRun) (now : Timestamp) :
    (claim options order now).Blind (Alike veil) := by
  unfold claim
  refine Blind.transaction (veils_runs.blind_skipLocked.bind fun candidates => ?_)
  cases (order.sorted claimOrder candidates).head? with
  | none => exact blind_pure _
  | some candidate =>
    exact (veils_runs.blind_updateTable _).bind fun rows => (Relation.blind_orThrow _).bind fun _ => blind_pure _

variable (run : AgentRun) (now : Timestamp)

lemma blind_startMessage (participantId : Id) : (startMessage run now participantId).Blind (Alike veil) := by
  unfold startMessage
  refine Blind.transaction (veils_messages.blind_selectFirst.bind fun found => ?_)
  cases found with
  | some row => exact blind_pure _
  | none =>
    refine (veils_conversations.blind_updateTable _).bind fun rows =>
      (Relation.blind_orThrow _).bind fun sequence => ?_
    exact veils_messages.blind_insertInto _

lemma blind_requestContact (requestId : Id) (prompt : String) (required : Bool) :
    (requestContact run now requestId prompt required).Blind (Alike veil) := by
  unfold requestContact
  refine Blind.transaction (veils_handoffs.blind_selectFirstOrThrow.bind fun handoff => ?_)
  refine (veils_inputs.blind_insertOrIgnore _).bind fun _ => ?_
  refine (veils_inputs.twins_selectFirstOrThrow fun _ => rfl).bind fun input input' hsame => ?_
  rw [(fields_of_hideValue hsame).2.1]
  split
  · exact .throw _
  · exact (veils_handoffs.blind_updateTable _).bind fun _ => blind_pure _

lemma blind_exactlyOne {ρ : Type} (rows : List ρ) (e : ServerError) :
    (if rows.length ≠ 1 then .throw e else .pure PUnit.unit : Query PUnit).Blind (Alike veil) := by
  split
  · exact .throw _
  · exact blind_pure _

lemma blind_materialize (participantId : Id) (event : ConnectorEvent) :
    (materialize run now participantId event).Blind (Alike veil) := by
  unfold materialize
  split
  · exact blind_startMessage _ _ _
  · refine (blind_storing _).bind fun _ => ?_
    exact (Blind.transaction (veils_messages.blind_updateTable _)).bind fun rows => blind_exactlyOne rows _
  · refine (Blind.transaction (veils_handoffs.blind_insertOrIgnore _)).bind fun _ => ?_
    refine veils_handoffs.blind_selectFirstOrThrow.bind fun handoff => ?_
    split
    · exact .throw _
    · exact blind_pure _
  · exact (blind_storing _).bind fun _ => blind_requestContact _ _ _ _ _
  · exact (Blind.transaction (veils_handoffs.blind_updateTable _)).bind fun rows => blind_exactlyOne rows _
  · exact blind_pure _

variable (runId : Id)

lemma blind_complete : (complete runId now).Blind (Alike veil) :=
  Blind.transaction ((veils_runs.blind_updateTable _).bind fun _ => blind_pure _)

lemma blind_waitForInput : (waitForInput runId now).Blind (Alike veil) :=
  (Blind.transaction (veils_runs.blind_updateTable _)).bind fun rows => blind_exactlyOne rows _

lemma blind_isCancellationRequested : (isCancellationRequested runId).Blind (Alike veil) :=
  veils_runs.blind_selectFirstOrThrow.bind fun _ => blind_pure _

lemma blind_renewLease (options : Options) : (renewLease options run now).Blind (Alike veil) :=
  (Blind.transaction (veils_runs.blind_updateTable _)).bind fun _ => blind_pure _

lemma blind_workerCancel : (RunWorker.cancel run now).Blind (Alike veil) :=
  Blind.transaction ((veils_runs.blind_updateTable _).bind fun _ =>
    (veils_messages.blind_updateTable _).bind fun _ => blind_pure _)

lemma blind_fail (code : String) : (fail runId code now).Blind (Alike veil) :=
  Blind.transaction ((veils_runs.blind_updateTable _).bind fun _ =>
    (veils_handoffs.blind_updateTable _).bind fun _ => blind_pure _)

end Worker

section Context

open RunWorker

def hideInput (input : ResolvedInput) : ResolvedInput := { input with value := hideText input.value }

def hideContext (context : RunContext) : RunContext :=
  { context with request :=
    { context.request with resolvedInputs := context.request.resolvedInputs.map hideInput } }

/-- A database that does not order the input requests by their values. -/
def Unbiased (order : Arrangement StructuredInputRequest) : Prop :=
  ∀ rows rows' : List StructuredInputRequest, rows.map hideValue = rows'.map hideValue →
    (order.arrange rows).map hideValue = (order.arrange rows').map hideValue

lemma sorted_hidden {order : Arrangement StructuredInputRequest} (h : Unbiased order)
    {rows rows' : List StructuredInputRequest} (hrows : rows.map hideValue = rows'.map hideValue) :
    (order.sorted createdFirst rows).map hideValue = (order.sorted createdFirst rows').map hideValue := by
  have hsort : ∀ rows : List StructuredInputRequest, (rows.mergeSort createdFirst).map hideValue =
      (rows.map hideValue).mergeSort createdFirst :=
    fun rows => List.map_mergeSort fun _ _ _ _ => rfl
  rw [Arrangement.sorted, Arrangement.sorted, hsort, hsort, h rows rows' hrows]

lemma present_hideText (value : Option String) :
    (hideText value).any (fun text => decide (text ≠ "")) = value.any fun text => decide (text ≠ "") := by
  cases value with
  | none => rfl
  | some text => by_cases ht : text = "" <;> simp [hideText, ht]

lemma resolvedInput_hidden (r : StructuredInputRequest) :
    (resolvedInput r).map hideInput = (resolvedInput (hideValue r)).map hideInput := by
  have hvalue := present_hideText r.value
  cases hrecorded : r.consentRecordedAt with
  | none => simp only [resolvedInput, hideValue, hrecorded]
  | some recordedAt => cases hstatus : r.consentStatus with
    | none => simp only [resolvedInput, hideValue, hrecorded, hstatus]
    | some consentStatus =>
      simp only [resolvedInput, hideValue, hrecorded, hstatus, hvalue]
      split
      · simp only [Except.map, hideInput, hideText_hideText]
      · split <;> rfl

lemma resolvedInputs_hidden {rows rows' : List StructuredInputRequest}
    (hrows : rows.map hideValue = rows'.map hideValue) :
    (rows.mapM resolvedInput).map (List.map hideInput) = (rows'.mapM resolvedInput).map (List.map hideInput) := by
  have hmap : ∀ rows : List StructuredInputRequest, (rows.mapM resolvedInput).map (List.map hideInput) =
      ((rows.map hideValue).mapM fun r => (resolvedInput r).map hideInput) := by
    intro rows
    induction rows with
    | nil => rfl
    | cons r rows ih =>
      rw [List.map_cons, List.mapM_cons, List.mapM_cons, ← ih, ← resolvedInput_hidden]
      cases resolvedInput r with
      | error e => rfl
      | ok input => cases rows.mapM resolvedInput <;> rfl
  rw [hmap, hmap, hrows]

lemma twins_liftResult {α : Type} {hide : α → α} {result result' : Except ServerError α}
    (h : result.map hide = result'.map hide) :
    (liftResult result).Twins (Alike veil) (fun a a' => hide a = hide a') (liftResult result') := by
  cases result with
  | error e => cases result' with
    | error e' => cases h; exact .throw _
    | ok a' => cases h
  | ok a => cases result' with
    | error e' => cases h
    | ok a' => exact .pure (Except.ok.inj h)

lemma twins_loadContext (run : AgentRun) {orders : Orders} (h : Unbiased orders.inputs) :
    (loadContext run orders).Twins (Alike veil) (fun a a' => hideContext a = hideContext a')
      (loadContext run orders) := by
  unfold loadContext
  refine veils_messages.blind_selectFirstOrThrow.bind fun currentMessage => ?_
  refine veils_conversations.blind_selectFirstOrThrow.bind fun conversation => ?_
  refine veils_messages.blind_selectFrom.bind fun history => veils_participants.blind_selectFrom.bind
    fun participants => ?_
  refine veils_principals.blind_selectFirstOrThrow.bind fun principal => ?_
  refine (veils_inputs.twins_selectFrom fun _ => rfl).bind fun inputs inputs' hinputs => ?_
  dsimp only
  split
  · refine (twins_liftResult (resolvedInputs_hidden (sorted_hidden h hinputs))).bind
      fun resolved resolved' hresolved => ?_
    refine Twins.ite Iff.rfl (.pure ?_) (.throw _)
    simp only [hideContext, hresolved]
  · exact .throw _

end Context

section Retention

open RetentionService

lemma blind_restrict {name : String} {referring : Tables → Bool}
    (h : ∀ v v', Alike veil v v' → referring v = referring v') :
    (restrict name referring).Blind (Alike veil) := by
  unfold restrict
  refine (blind_select h).bind fun broken => ?_
  cases broken
  · exact blind_pure _
  · exact .throw _

lemma blind_deleteInputs {p : StructuredInputRequest → Bool} (hp : ∀ r, p (hideValue r) = p r) :
    (do let _ ← structuredInputRequests.deleteFrom p : Query Unit).Blind (Alike veil) :=
  (veils_inputs.twins_deleteFrom hp).bind fun _ _ _ => blind_pure _

lemma blind_deleteAgentRuns (p : AgentRun → Bool) : (deleteAgentRuns p).Blind (Alike veil) := by
  unfold deleteAgentRuns
  refine veils_runs.blind_deleteFrom.bind fun rows => veils_handoffs.blind_deleteFrom.bind fun _ => ?_
  exact blind_deleteInputs fun _ => rfl

lemma blind_deleteMessages (p : Message → Bool) : (deleteMessages p).Blind (Alike veil) :=
  veils_messages.blind_deleteFrom.bind fun _ => blind_deleteAgentRuns _

lemma blind_deleteParticipants (p : ConversationParticipant → Bool) :
    (deleteConversationParticipants p).Blind (Alike veil) := by
  refine veils_participants.blind_deleteFrom.bind fun rows => blind_restrict fun v v' hv => ?_
  have hmessages := congrArg Tables.messages hv
  change v.messages = v'.messages at hmessages
  rw [hmessages]

lemma blind_deleteConversations (p : Conversation → Bool) : (deleteConversations p).Blind (Alike veil) := by
  refine veils_conversations.blind_deleteFrom.bind fun rows => veils_events.blind_deleteFrom.bind fun _ => ?_
  exact (blind_deleteAgentRuns _).bind fun _ => blind_deleteParticipants _

lemma blind_deletePrincipals (p : Principal → Bool) : (deletePrincipals p).Blind (Alike veil) := by
  refine veils_principals.blind_deleteFrom.bind fun rows => veils_browserSessions.blind_deleteFrom.bind fun _ => ?_
  refine (blind_restrict fun v v' hv => ?_).bind fun _ => blind_pure _
  have hconversations := congrArg Tables.conversations hv
  change v.conversations = v'.conversations at hconversations
  rw [hconversations]

lemma blind_deleteConversation (c : Conversation) : (deleteConversation c).Blind (Alike veil) := by
  unfold deleteConversation
  refine (veils_inputs.twins_deleteFrom fun _ => rfl).bind fun _ _ _ =>
    veils_handoffs.blind_deleteFrom.bind fun _ => ?_
  refine (blind_deleteAgentRuns _).bind fun _ => veils_events.blind_deleteFrom.bind fun _ => ?_
  refine (blind_deleteMessages _).bind fun _ => (blind_deleteParticipants _).bind fun _ => ?_
  exact blind_deleteConversations _

lemma expired_alike {db db' : Tables} (h : Alike veil db db') (cutoff : Timestamp) :
    expiredConversations cutoff db = expiredConversations cutoff db' := by
  have hconversations := congrArg Tables.conversations h
  have hprincipals := congrArg Tables.principals h
  change db.conversations = db'.conversations at hconversations
  change db.principals = db'.principals at hprincipals
  simp only [expiredConversations, Relation.matching, conversations, principals, hconversations, hprincipals]

lemma blind_deletePrincipal (p : Principal) : (deletePrincipal p).Blind (Alike veil) := by
  unfold deletePrincipal
  refine veils_conversations.blind_selectFirst.bind fun found => ?_
  cases found with
  | some c => exact blind_pure _
  | none => exact blind_deletePrincipals _

lemma blind_runOnce (policy : RetentionPolicy) (orders : RetentionService.Orders) (now : Timestamp) :
    (runOnce policy orders now).Blind (Alike veil) := by
  unfold runOnce
  refine Blind.transaction ?_
  refine (veils_inputs.twins_updateTable (fun r => ?_) _ fun _ => rfl).bind fun redacted redacted' hredacted => ?_
  · change ((hideText r.value).isSome && decide (r.updatedAt < contactCutoff policy now)) = _
    rw [isSome_hideText]
  have hlength : redacted.length = redacted'.length := by
    rw [← List.length_map (f := hideValue), hredacted, List.length_map]
  rw [hlength]
  refine (blind_select fun db db' h => ?_).bind fun expired =>
    (blind_forM blind_deleteConversation _).bind fun _ => ?_
  · rw [expired_alike h]
  refine veils_commands.blind_deleteFrom.bind fun _ => veils_bootstraps.blind_deleteFrom.bind fun _ => ?_
  refine veils_browserSessions.blind_deleteFrom.bind fun _ => (blind_select fun db db' h => ?_).bind
    fun candidates => ?_
  · have hprincipals := congrArg Tables.principals h
    change db.principals = db'.principals at hprincipals
    simp only [Relation.matching, principals, hprincipals]
  · refine (blind_foldlM (fun n p => ?_) _ _).bind fun _ => blind_pure _
    exact (blind_deletePrincipal p).bind fun _ => blind_pure _

end Retention

section Sessions

open SessionService Bootstraps

variable {platform : Platform} {issuer : Issuer} {directory : Directory}

lemma blind_findPrincipal (site : Site) (browserIdentity principalId : Id) (time : Timestamp) :
    (findPrincipal site browserIdentity principalId time).Blind (Alike veil) := by
  unfold findPrincipal
  refine veils_principals.blind_selectFirst.bind fun found => ?_
  cases found with
  | some principal => exact blind_pure _
  | none =>
    exact (veils_principals.blind_insertUnless (fun _ => rfl) _).bind fun _ =>
      veils_principals.blind_selectFirstOrThrow

lemma blind_findSession (site : Site) (principalId sessionId : Id) (expiresAt : Timestamp) :
    (findSession site principalId sessionId expiresAt).Blind (Alike veil) := by
  unfold findSession
  refine veils_browserSessions.blind_selectFirst.bind fun found => ?_
  cases found with
  | some session => exact (veils_browserSessions.blind_updateTable _).bind fun _ => blind_pure _
  | none =>
    refine (veils_browserSessions.blind_upsert (fun _ => rfl) _ (fun _ => rfl) _).bind fun _ => ?_
    exact veils_browserSessions.blind_selectFirstOrThrow

lemma blind_resume (site : Site) (v : Visit) (previous : Option SessionBootstrapIdempotency) :
    (resume platform issuer site v previous).Blind (Alike veil) := by
  cases previous with
  | none =>
    refine (blind_findPrincipal _ _ _ _).bind fun principal => (blind_findSession _ _ _ _).bind fun session => ?_
    exact (veils_bootstraps.blind_insertInto _).bind fun _ => blind_pure _
  | some r =>
    refine Twins.ite Iff.rfl (.throw _) ?_
    exact (blind_findPrincipal _ _ _ _).bind fun principal =>
      (blind_findSession _ _ _ _).bind fun _ => blind_pure _

lemma blind_resolveAgentRef (site : Site) (widgetKey agentAlias : Option Id) :
    (resolveAgentRef directory site widgetKey agentAlias).Blind (Alike veil) := by
  unfold resolveAgentRef
  split
  · exact Twins.ite Iff.rfl (.throw _) (blind_pure _)
  · split
    · exact .throw _
    · split
      · exact .throw _
      · exact blind_pure _

lemma blind_bootstrap (v : Visit) : (Bootstraps.body platform issuer directory v).Blind (Alike veil) := by
  unfold Bootstraps.body bootstrapAnonymous
  split
  · exact .throw _
  · split
    · exact .throw _
    · dsimp only
      refine Twins.ite Iff.rfl (.throw _) ?_
      refine (blind_resolveAgentRef _ _ _).bind fun _ => (Blind.transaction ?_).bind fun _ => blind_pure _
      rw [identify_eq]
      exact (blind_lock _).bind fun _ => veils_bootstraps.blind_selectFirst.bind fun _ => blind_resume _ _ _

end Sessions

end ChatCore.Services.ContactValues
