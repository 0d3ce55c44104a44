import ChatCore.Services.Locks

namespace ChatCore.Services

open Protocol Relational Database

section Commands

variable {platform : Platform}

lemma guarded_insertConversation (scope : Scope) (agentRef : Id) (k : CommandKey)
    (ids : ConversationService.CreateIds)
    (currentTimestamp : Timestamp) :
    (ConversationService.insertConversation platform scope agentRef k ids currentTimestamp).Guarded (cell platform)
      [keyLock platform k] := by
  unfold ConversationService.insertConversation
  refine (shields_conversations.insertInto fun _ _ _ => rfl).bind_held (Relation.single_insertInto _) fun _ => ?_
  refine (shields_participants.insertInto fun _ _ _ => rfl).bind_held (Relation.single_insertInto _) fun _ => ?_
  refine (shields_participants.insertInto fun _ _ _ => rfl).bind_held (Relation.single_insertInto _) fun _ => ?_
  refine Program.Guarded.bind (guarded_insertCommand ?_) fun _ => trivial
  exact List.mem_singleton_self _

lemma guarded_conversationGet (scope : Scope) (conversationId : Id) :
    (ConversationService.get scope conversationId).Guarded (cell platform) [] := by
  unfold ConversationService.get
  refine (guarded_requireConversation _ _).bind fun _ => ?_
  exact (Relation.guarded_selectFrom _ _).bind fun _ => trivial

lemma guarded_createConversation (scope : Scope) (agentRef : Id) (idempotencyKey : String)
    (ids : ConversationService.CreateIds) (currentTimestamp : Timestamp) :
    (ConversationService.create platform scope agentRef idempotencyKey ids currentTimestamp).Guarded
      (cell platform) [] := by
  unfold ConversationService.create
  refine Program.Guarded.bind (Program.Guarded.transaction ?_) fun id => guarded_conversationGet scope id
  exact guarded_withIdempotency (guarded_sameRequest _) (guarded_insertConversation scope agentRef _ ids _)

lemma conversationId_of_inConversation {scope : Scope} {conversationId : Id} (c : Conversation)
    (h : inConversation scope conversationId c = true) : c.conversationId = conversationId := by
  simp only [inConversation, Bool.and_eq_true, decide_eq_true_eq] at h
  exact h.2

lemma guarded_numberedInsert {α : Type} {p : Conversation → Bool} {f : Conversation → Conversation}
    (hf : ∀ c, (f c).conversationId = c.conversationId) {conversationId : Id} {held : List (Lock LockName)}
    (m : Conversation → Message) (next : Conversation → Query α)
    (hp : ∀ c, p c = true → c.conversationId = conversationId) (hm : ∀ c, (m c).conversationId = conversationId)
    (hnext : ∀ c, (next c).Guarded (cell platform) held) :
    (do let rows ← conversations.updateTable p f hf
        let updated ← Relation.orThrow rows.head?
        messages.insertInto (m updated)
        next updated : Query α).Guarded (cell platform) held := by
  refine shields_conversations.updateTable_bind (fun _ _ _ _ => rfl) fun db => ?_
  cases hrows : conversations.matching p db with
  | nil => trivial
  | cons c₀ cs =>
    have hc : c₀ ∈ conversations.matching p db := hrows ▸ List.mem_cons_self ..
    rw [← hrows]
    refine Program.Guarded.bind_held (Relation.guarded_orThrow _) (Relation.single_orThrow _) fun updated => ?_
    refine Program.Guarded.bind_held ?_ (Relation.single_insertInto _) fun _ =>
      (hnext updated).mono (List.subset_append_right _ _)
    refine shields_messages.insertInto fun n u hn => sequencesUnder_insert ?_ u
    rw [hm updated]
    exact ne_conversation hp hc (hn.mono (List.subset_append_right _ _))

lemma guarded_insertMessage (scope : Scope) (conversationId : Id) (request : MessageService.SubmitMessageRequest)
    (k : CommandKey) (ids : MessageService.SubmitIds) (now currentTimestamp : Timestamp) :
    (MessageService.insertMessage platform scope conversationId request k ids now currentTimestamp).Guarded
      (cell platform) [keyLock platform k] := by
  unfold MessageService.insertMessage
  refine Program.Guarded.bind_held (guarded_requireConversation _ _) (single_requireConversation _ _) fun c => ?_
  refine Program.Guarded.bind_held (Relation.guarded_selectFirstOrThrow _ _)
    (Relation.single_selectFirstOrThrow _ _) fun p => ?_
  refine guarded_numberedInsert _ _ _ conversationId_of_inConversation (fun _ => rfl) fun updated => ?_
  refine Program.Guarded.bind_held (shields_runs.insertInto fun _ _ _ => rfl)
    (Relation.single_insertInto _) fun _ => ?_
  refine Program.Guarded.bind (guarded_insertCommand ?_) fun _ => trivial
  exact List.mem_singleton_self _

lemma guarded_messageGet (scope : Scope) (conversationId messageId : Id) :
    (MessageService.get scope conversationId messageId).Guarded (cell platform) [] := by
  unfold MessageService.get
  refine (guarded_requireConversation _ _).bind fun _ => (Relation.guarded_selectFirst _ _).bind fun m => ?_
  cases m <;> trivial

lemma guarded_submitMessage (scope : Scope) (conversationId : Id) (request : MessageService.SubmitMessageRequest)
    (idempotencyKey : String) (ids : MessageService.SubmitIds) (now currentTimestamp : Timestamp) :
    (MessageService.submit platform scope conversationId request idempotencyKey ids now currentTimestamp).Guarded
      (cell platform) [] := by
  unfold MessageService.submit
  refine Program.Guarded.bind (Program.Guarded.transaction ?_) fun id => guarded_messageGet scope conversationId id
  exact guarded_withIdempotency (guarded_sameRequest _)
    (guarded_insertMessage scope conversationId request _ ids now _)

lemma guarded_insertHandoff (scope : Scope) (conversationId : Id)
    (request : EmailHandoffService.CreateEmailHandoffRequest) (k : CommandKey)
    (ids : EmailHandoffService.CreateIds)
    (now currentTimestamp : Timestamp) :
    (EmailHandoffService.insertHandoff platform scope conversationId request k ids now currentTimestamp).Guarded
      (cell platform) [keyLock platform k] := by
  unfold EmailHandoffService.insertHandoff
  refine Program.Guarded.bind_held (guarded_requireConversation _ _) (single_requireConversation _ _) fun c => ?_
  refine Program.Guarded.bind_held (Relation.guarded_selectFrom _ _) (Relation.single_selectFrom _ _) fun ms => ?_
  cases (ms.mergeSort EmailHandoffService.laterFirst).head? with
  | none => trivial
  | some trigger =>
    refine Program.Guarded.bind_held (shields_runs.insertInto fun _ _ _ => rfl) (Relation.single_insertInto _)
      fun _ => ?_
    refine Program.Guarded.bind_held (shields_handoffs.insertInto fun _ _ _ => rfl) (Relation.single_insertInto _)
      fun _ => ?_
    refine Program.Guarded.bind_held (shields_inputs.insertInto fun _ _ _ => rfl) (Relation.single_insertInto _)
      fun _ => ?_
    refine Program.Guarded.bind (guarded_insertCommand ?_) fun _ => trivial
    exact List.mem_singleton_self _

lemma guarded_createEmailHandoff (scope : Scope) (conversationId : Id)
    (request : EmailHandoffService.CreateEmailHandoffRequest) (idempotencyKey : String)
    (ids : EmailHandoffService.CreateIds) (now currentTimestamp : Timestamp) :
    (EmailHandoffService.create platform scope conversationId request idempotencyKey ids now
      currentTimestamp).Guarded (cell platform) [] := by
  unfold EmailHandoffService.create
  refine Program.Guarded.bind (Program.Guarded.transaction ?_) fun id =>
    (Relation.guarded_selectFirstOrThrow _ _).bind fun _ => trivial
  exact guarded_withIdempotency (guarded_sameRequest _)
    (guarded_insertHandoff scope conversationId request _ ids now _)

lemma guarded_updateRun (runId : Id) (f : AgentRun → AgentRun) (hf : ∀ r, (f r).runId = r.runId)
    {held : List (Lock LockName)} : (RunService.updateRun runId f hf).Guarded (cell platform) held := by
  unfold RunService.updateRun
  exact (shields_runs.updateTable fun _ _ _ _ => rfl).bind fun _ => trivial

lemma single_updateRun (runId : Id) (f : AgentRun → AgentRun) (hf : ∀ r, (f r).runId = r.runId) :
    (RunService.updateRun runId f hf).Single := by
  unfold RunService.updateRun
  exact (Relation.single_updateTable _ _ _).bind fun _ => trivial

lemma guarded_cancelRun (run : AgentRun) (now : Timestamp) {held : List (Lock LockName)} :
    (RunService.cancelRun run now).Guarded (cell platform) held := by
  unfold RunService.cancelRun
  cases run.status with
  | queued | running | cancelRequested => exact (guarded_updateRun _ _ _).bind fun _ => trivial
  | waitingForInput | completed | failed | cancelled => trivial

lemma single_cancelRun (run : AgentRun) (now : Timestamp) : (RunService.cancelRun run now).Single := by
  unfold RunService.cancelRun
  cases run.status with
  | queued | running | cancelRequested => exact (single_updateRun _ _ _).bind fun _ => trivial
  | waitingForInput | completed | failed | cancelled => trivial

lemma guarded_decodeOutcome (conversationId : Id) (resourceId : String) {held : List (Lock LockName)} :
    (RunService.decodeOutcome conversationId resourceId).Guarded (cell platform) held := by
  unfold RunService.decodeOutcome
  dsimp only
  split
  · split <;> trivial
  · trivial

lemma guarded_cancelLatest (scope : Scope) (conversationId : Id) (k : CommandKey) (order : Arrangement AgentRun)
    (now currentTimestamp : Timestamp) :
    (RunService.cancelLatest platform scope conversationId k order now currentTimestamp).Guarded (cell platform)
      [keyLock platform k] := by
  unfold RunService.cancelLatest
  refine Program.Guarded.bind_held (guarded_requireConversation _ _) (single_requireConversation _ _) fun c => ?_
  refine Program.Guarded.bind_held (Relation.guarded_forUpdate _ _) (Relation.single_forUpdate _ _) fun runs => ?_
  cases (order.sorted RunService.latestFirst runs).head? with
  | none => trivial
  | some run =>
    refine Program.Guarded.bind_held (guarded_cancelRun run now) (single_cancelRun run now) fun status => ?_
    refine Program.Guarded.bind (guarded_insertCommand ?_) fun _ => trivial
    exact List.mem_singleton_self _

lemma guarded_cancelCommand (scope : Scope) (conversationId : Id) (idempotencyKey : String)
    (order : Arrangement AgentRun) (now currentTimestamp : Timestamp) :
    (RunService.cancel platform scope conversationId idempotencyKey order now currentTimestamp).Guarded
      (cell platform) [] := by
  unfold RunService.cancel
  refine Program.Guarded.transaction ?_
  exact guarded_withIdempotency (fun _ => guarded_decodeOutcome _ _) (guarded_cancelLatest scope _ _ order now _)

lemma guarded_resolveInput (scope : Scope) (conversationId requestId : Id)
    (request : StructuredInputService.SubmitStructuredInputRequest) (k : CommandKey)
    (now currentTimestamp : Timestamp) :
    (StructuredInputService.resolveInput platform scope conversationId requestId request k now
      currentTimestamp).Guarded (cell platform) [keyLock platform k] := by
  unfold StructuredInputService.resolveInput
  refine Program.Guarded.bind_held (guarded_requireConversation _ _) (single_requireConversation _ _) fun c => ?_
  refine Program.Guarded.bind_held (Relation.guarded_forUpdate _ _) (Relation.single_forUpdate _ _)
    fun inputs => ?_
  cases inputs.head? with
  | none => trivial
  | some input =>
    dsimp only
    split
    · trivial
    refine Program.Guarded.bind_held (shields_inputs.updateTable fun _ _ _ _ => rfl)
      (Relation.single_updateTable _ _ _) fun updated => ?_
    split
    · trivial
    refine Program.Guarded.bind_held (shields_runs.updateTable fun _ _ _ _ => rfl)
      (Relation.single_updateTable _ _ _) fun requeued => ?_
    split
    · trivial
    refine Program.Guarded.bind_held ?_ ?_ fun _ => guarded_insertCommand (List.mem_singleton_self _)
    · cases request with
      | submitted value => exact (shields_handoffs.updateTable fun _ _ _ _ => rfl).bind fun _ => trivial
      | declined => trivial
    · cases request with
      | submitted value => exact (Relation.single_updateTable _ _ _).bind fun _ => trivial
      | declined => trivial

lemma guarded_inputGet (scope : Scope) (conversationId requestId : Id) :
    (StructuredInputService.get scope conversationId requestId).Guarded (cell platform) [] := by
  unfold StructuredInputService.get
  refine (guarded_select _).bind fun row => ?_
  cases row with
  | none => trivial
  | some row =>
    dsimp only [StructuredInputService.mapInput]
    split <;> trivial

lemma guarded_submitStructuredInput (scope : Scope) (conversationId requestId : Id)
    (request : StructuredInputService.SubmitStructuredInputRequest) (idempotencyKey : String)
    (now currentTimestamp : Timestamp) :
    (StructuredInputService.submit platform scope conversationId requestId request idempotencyKey now
      currentTimestamp).Guarded (cell platform) [] := by
  unfold StructuredInputService.submit
  refine Program.Guarded.bind (Program.Guarded.transaction ?_) fun _ =>
    guarded_inputGet scope conversationId requestId
  exact guarded_withIdempotency (fun previous => (guarded_sameRequest _ previous).bind fun _ => trivial)
    (guarded_resolveInput scope conversationId requestId request _ now _)

end Commands

section Events

variable {platform : Platform}

lemma guarded_storing (taken : Bool) : (storing taken).Guarded (cell platform) [] := by cases taken <;> trivial

lemma guarded_append (retentionMaxEvents : ℕ) (scope : Scope) (event : ConnectorEvent) (eventId : Id)
    (occurredAt : Timestamp) :
    (EventStore.append retentionMaxEvents scope event eventId occurredAt).Guarded (cell platform) [] := by
  unfold EventStore.append
  refine Program.Guarded.transaction (shields_conversations.updateTable_bind (fun _ _ _ _ => rfl) fun db => ?_)
  cases hrows : conversations.matching (inConversation scope event.conversationId) db with
  | nil => trivial
  | cons c₀ cs =>
    have hc : c₀ ∈ conversations.matching (inConversation scope event.conversationId) db :=
      hrows ▸ List.mem_cons_self ..
    rw [← hrows]
    cases ((conversations.matching (inConversation scope event.conversationId) db).map
      EventStore.takeEventSequence).head? with
    | none => trivial
    | some allocation =>
      cases event.isStorable
      · trivial
      simp only [storing_true, pure_bind]
      refine Program.Guarded.bind_held ?_ (Relation.single_insertInto _) fun _ =>
        Program.Guarded.bind ?_ fun _ => trivial
      · refine shields_events.insertInto fun n u hn => eventsUnder_insert ?_ u
        exact ne_conversation conversationId_of_inConversation hc (hn.mono (List.subset_append_right _ _))
      · refine shields_events.deleteFrom fun n u q hn hq => eventsUnder_delete (fun e he => ?_)
          (ne_conversation conversationId_of_inConversation hc hn) u
        have hp := hq e he
        simp only [EventStore.isPruned, EventStore.ofConversation, Bool.and_eq_true, decide_eq_true_eq] at hp
        exact hp.1.2

lemma guarded_replay (scope : Scope) (conversationId : Id) (afterEventId : Option Id)
    (stamp : EventStore.SyncStamp) :
    (EventStore.replay scope conversationId afterEventId stamp).Guarded (cell platform) [] := by
  have hrows : ∀ n, (EventStore.replayRows scope conversationId n).Guarded (cell platform) [] :=
    fun n => (Relation.guarded_selectFrom _ _).bind fun _ => trivial
  unfold EventStore.replay
  refine (guarded_requireConversation _ _).bind fun c => ?_
  unfold EventStore.replayAfter
  cases afterEventId.bind present with
  | none => exact hrows 0
  | some eventId =>
    refine (Relation.guarded_selectFirst _ _).bind fun cursor => ?_
    cases cursor with
    | none => trivial
    | some cursor => exact hrows _

end Events

section Worker

variable {platform : Platform}

lemma guarded_claim (options : RunWorker.Options) (order : Arrangement AgentRun) (now : Timestamp) :
    (RunWorker.claim options order now).Guarded (cell platform) [] := by
  unfold RunWorker.claim
  refine Program.Guarded.transaction (Program.Guarded.bind (Relation.guarded_skipLocked _ _) fun candidates => ?_)
  cases (order.sorted RunWorker.claimOrder candidates).head? with
  | none => trivial
  | some candidate =>
    exact (shields_runs.updateTable fun _ _ _ _ => rfl).bind fun _ =>
      (Relation.guarded_orThrow _).bind fun _ => trivial

lemma guarded_loadContext (run : AgentRun) (orders : RunWorker.Orders) :
    (RunWorker.loadContext run orders).Guarded (cell platform) [] := by
  unfold RunWorker.loadContext
  refine (Relation.guarded_selectFirstOrThrow _ _).bind fun currentMessage => ?_
  refine (Relation.guarded_selectFirstOrThrow _ _).bind fun conversation => ?_
  refine (Relation.guarded_selectFrom _ _).bind fun history => ?_
  refine (Relation.guarded_selectFrom _ _).bind fun participants => ?_
  refine (Relation.guarded_selectFirstOrThrow _ _).bind fun principal => ?_
  refine (Relation.guarded_selectFrom _ _).bind fun inputs => ?_
  dsimp only
  split
  · refine Program.Guarded.bind ?_ fun resolvedInputs => ?_
    · cases (orders.inputs.sorted RunWorker.createdFirst inputs).mapM RunWorker.resolvedInput <;> trivial
    · split <;> trivial
  · trivial

lemma guarded_startMessage (run : AgentRun) (now : Timestamp) (participantId : Id) :
    (RunWorker.startMessage run now participantId).Guarded (cell platform) [] := by
  unfold RunWorker.startMessage
  refine Program.Guarded.transaction (Program.Guarded.bind (Relation.guarded_selectFirst _ _) fun exists? => ?_)
  cases exists? with
  | some m => trivial
  | none =>
    have hp : ∀ c : Conversation, RunWorker.ofConversation run c.tenantId c.siteId c.conversationId = true →
        c.conversationId = run.conversationId := by
      intro c hc
      simp only [RunWorker.ofConversation, Bool.and_eq_true, decide_eq_true_eq] at hc
      exact hc.2
    have h : Program.Guarded (cell platform) [] _ := guarded_numberedInsert
      (f := MessageService.takeMessageSequence now) (fun _ => rfl)
      (fun sequence => RunWorker.newAssistant run now participantId (sequence.nextMessageSequence - 1))
      (fun _ => pure ()) hp (fun _ => rfl) fun _ => trivial
    simpa only [bind_pure_unit] using h

lemma guarded_completeMessage (run : AgentRun) (now : Timestamp) (parts : List ContentPart) :
    (RunWorker.completeMessage run now parts).Guarded (cell platform) [] := by
  unfold RunWorker.completeMessage
  refine Program.Guarded.bind (Program.Guarded.transaction ?_) fun result => ?_
  · exact shields_messages.updateTable fun _ u _ _ =>
      sequencesUnder_update (f := RunWorker.finishMessage now parts) (fun _ => rfl) (fun _ => rfl) u
  · split <;> trivial

lemma guarded_requestHandoff (run : AgentRun) (now : Timestamp) (handoffId : Id) :
    (RunWorker.requestHandoff run now handoffId).Guarded (cell platform) [] := by
  unfold RunWorker.requestHandoff
  refine Program.Guarded.bind (Program.Guarded.transaction (shields_handoffs.insertOrIgnore fun _ _ _ => rfl))
    fun _ => (Relation.guarded_selectFirstOrThrow _ _).bind fun handoff => ?_
  split <;> trivial

lemma guarded_requestContact (run : AgentRun) (now : Timestamp) (requestId : Id) (prompt : String)
    (required : Bool) :
    (RunWorker.requestContact run now requestId prompt required).Guarded (cell platform) [] := by
  unfold RunWorker.requestContact
  refine Program.Guarded.transaction ?_
  refine (Relation.guarded_selectFirstOrThrow _ _).bind fun handoff => ?_
  refine (shields_inputs.insertOrIgnore fun _ _ _ => rfl).bind fun _ => ?_
  refine (Relation.guarded_selectFirstOrThrow _ _).bind fun input => ?_
  split
  · trivial
  · exact (shields_handoffs.updateTable fun _ _ _ _ => rfl).bind fun _ => trivial

lemma guarded_completeHandoff (run : AgentRun) (now : Timestamp) (handoffId : Id) :
    (RunWorker.completeHandoff run now handoffId).Guarded (cell platform) [] := by
  unfold RunWorker.completeHandoff
  refine Program.Guarded.bind (Program.Guarded.transaction (shields_handoffs.updateTable fun _ _ _ _ => rfl))
    fun result => ?_
  split <;> trivial

lemma guarded_materialize (run : AgentRun) (now : Timestamp) (participantId : Id) (event : ConnectorEvent) :
    (RunWorker.materialize run now participantId event).Guarded (cell platform) [] := by
  unfold RunWorker.materialize
  cases event.body with
  | messageStarted => exact guarded_startMessage run now participantId
  | messageCompleted parts => exact (guarded_storing _).bind fun _ => guarded_completeMessage run now parts
  | handoffRequested handoffId => exact guarded_requestHandoff run now handoffId
  | contactRequested requestId prompt required =>
    exact (guarded_storing _).bind fun _ => guarded_requestContact run now requestId prompt required
  | handoffCompleted handoffId => exact guarded_completeHandoff run now handoffId
  | runStarted | runCompleted | runFailed | messageDelta | toolStarted | toolCompleted | toolFailed
    | citationAdded => trivial

lemma guarded_writeStatus (p : AgentRun → Bool) (f : AgentRun → AgentRun) (hf : ∀ r, (f r).runId = r.runId) :
    (agentRuns.updateTable p f hf : Query _).Guarded (cell platform) [] :=
  shields_runs.updateTable fun _ _ _ _ => rfl

lemma guarded_complete (runId : Id) (now : Timestamp) :
    (RunWorker.complete runId now).Guarded (cell platform) [] := by
  unfold RunWorker.complete
  exact Program.Guarded.transaction ((guarded_writeStatus _ _ _).bind fun _ => trivial)

lemma guarded_waitForInput (runId : Id) (now : Timestamp) :
    (RunWorker.waitForInput runId now).Guarded (cell platform) [] := by
  unfold RunWorker.waitForInput
  refine Program.Guarded.bind (Program.Guarded.transaction (guarded_writeStatus _ _ _)) fun result => ?_
  split <;> trivial

lemma guarded_isCancellationRequested (runId : Id) :
    (RunWorker.isCancellationRequested runId).Guarded (cell platform) [] := by
  unfold RunWorker.isCancellationRequested
  exact (Relation.guarded_selectFirstOrThrow _ _).bind fun _ => trivial

lemma guarded_renewLease (options : RunWorker.Options) (run : AgentRun) (dateNow : Timestamp) :
    (RunWorker.renewLease options run dateNow).Guarded (cell platform) [] := by
  unfold RunWorker.renewLease
  exact Program.Guarded.bind (Program.Guarded.transaction (guarded_writeStatus _ _ _)) fun _ => trivial

lemma guarded_workerCancel (run : AgentRun) (now : Timestamp) :
    (RunWorker.cancel run now).Guarded (cell platform) [] := by
  unfold RunWorker.cancel
  refine Program.Guarded.transaction
    ((guarded_writeStatus _ _ _).bind fun _ => Program.Guarded.bind ?_ fun _ => trivial)
  exact shields_messages.updateTable fun _ u _ _ =>
    sequencesUnder_update (f := RunWorker.cancelMessage now) (fun _ => rfl) (fun _ => rfl) u

lemma guarded_fail (runId : Id) (code : String) (now : Timestamp) :
    (RunWorker.fail runId code now).Guarded (cell platform) [] := by
  unfold RunWorker.fail
  refine Program.Guarded.transaction
    ((guarded_writeStatus _ _ _).bind fun _ => Program.Guarded.bind ?_ fun _ => trivial)
  exact shields_handoffs.updateTable fun _ _ _ _ => rfl

end Worker

theorem guarded_body (server : Deployment) (call : Call) :
    (body server call).Guarded (cell server.platform) [] := by
  cases call with
  | createConversation scope agentRef key ids time =>
    exact (guarded_createConversation scope agentRef key ids time).map _
  | submitMessage scope c request key ids now time =>
    exact (guarded_submitMessage scope c request key ids now time).map _
  | createEmailHandoff scope c request key ids now time =>
    exact (guarded_createEmailHandoff scope c request key ids now time).map _
  | cancelRun scope c key order now time => exact (guarded_cancelCommand scope c key order now time).map _
  | submitStructuredInput scope c r request key now time =>
    exact (guarded_submitStructuredInput scope c r request key now time).map _
  | replayEvents scope c after stamp => exact (guarded_replay scope c after stamp).map _
  | appendEvent scope event eventId time => exact (guarded_append _ scope event eventId time).map _
  | claim options order now => exact (guarded_claim options order now).map _
  | loadContext run orders => exact (guarded_loadContext run orders).map _
  | materialize run now participantId event => exact (guarded_materialize run now participantId event).map _
  | complete runId now => exact (guarded_complete runId now).map _
  | waitForInput runId now => exact (guarded_waitForInput runId now).map _
  | isCancellationRequested runId => exact (guarded_isCancellationRequested runId).map _
  | renewLease options run dateNow => exact (guarded_renewLease options run dateNow).map _
  | cancel run now => exact (guarded_workerCancel run now).map _
  | fail runId code now => exact (guarded_fail runId code now).map _

end ChatCore.Services
