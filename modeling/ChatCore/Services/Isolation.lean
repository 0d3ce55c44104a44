import ChatCore.Services.ContactValues
import ChatCore.Services.Holdings

namespace ChatCore.Services

open Protocol Relational Database Program

abbrev Holdings.Confines {α : Type} (o : Holdings) (p : Query α) (P : α → Prop) : Prop :=
  p.Confined o.Agree o.Spares P

namespace Isolation

variable {o : Holdings} {scope : Scope} {platform : Platform} {α β : Type}

section Commands

lemma confines_requireConversation (hscope : o.owns scope = true) (conversationId : Id) :
    o.Confines (requireConversation scope conversationId) fun _ => o.holds conversationId = true := by
  unfold requireConversation
  refine (o.fenced_conversations.confined_selectFirst fun c hc => ?_).bind fun found hfound => ?_
  · simp only [inConversation, Bool.and_eq_true, decide_eq_true_eq] at hc
    simp [Holdings.conversation, hc.1.1.1, hc.1.1.2, hc.1.2, Holdings.isOf_scope hscope]
  · cases found with
    | none => exact .throw _
    | some c =>
      obtain ⟨hc, -, hid⟩ := hfound c rfl
      simp only [inConversation, Bool.and_eq_true, decide_eq_true_eq] at hc
      exact .pure (hc.2 ▸ hid)

lemma confines_sameRequest (requestHash : String) (previous : CommandIdempotency) {P : String → Prop}
    (h : P previous.resourceId) : o.Confines (sameRequest requestHash previous) P := by
  unfold sameRequest
  split
  · exact .throw _
  · exact .pure h

lemma confines_withIdempotency (hscope : o.owns scope = true) {operation key : String}
    {replay : CommandIdempotency → Query α} {fresh : Query α} {P : α → Prop}
    (hreplay : ∀ previous, previous.key.operation = operation → o.command.whole previous →
      o.Confines (replay previous) P) (hfresh : o.Confines fresh P) :
    o.Confines (withIdempotency platform (commandKey scope operation key) replay fresh) P := by
  unfold withIdempotency
  refine (confined_lock o.spares_refl _).bind fun _ _ => ?_
  refine (o.fenced_commands.confined_selectFirst fun r hr => ?_).bind fun found hfound => ?_
  · simp [Holdings.command, of_decide_eq_true hr, commandKey, Holdings.isOf_scope hscope]
  · cases found with
    | none => exact hfresh
    | some previous =>
      obtain ⟨hkey, hwhole⟩ := hfound previous rfl
      exact hreplay previous (by rw [of_decide_eq_true hkey]; rfl) hwhole

lemma head_emailHandoff (conversationId : Id) :
    (EmailHandoffService.operation conversationId).toList.head? = some 'e' := by
  change ("email-handoff:create:" ++ conversationId).toList.head? = some 'e'
  simp

lemma whole_of_head {r : CommandIdempotency} (letter : Char) (h : r.key.operation.toList.head? = some letter)
    (hletter : letter ≠ 'e') : o.command.whole r := by
  intro conversationId hop
  rw [hop, head_emailHandoff, Option.some.injEq] at h
  exact absurd h.symm hletter

lemma confines_insertCommand (hscope : o.owns scope = true) {operation key requestHash resourceId : String}
    {time : Timestamp} (h : o.command.whole ⟨commandKey scope operation key, requestHash, resourceId, time⟩) :
    o.Confines (commandIdempotency.insertInto ⟨commandKey scope operation key, requestHash, resourceId, time⟩)
      fun _ => True :=
  o.fenced_commands.confined_insertInto (Holdings.admits_command (Holdings.isOf_scope hscope) h)

end Commands

section Conversations

lemma confines_conversationGet (hscope : o.owns scope = true) (conversationId : Id) :
    o.Confines (ConversationService.get scope conversationId) fun _ => True := by
  unfold ConversationService.get
  refine (confines_requireConversation hscope _).bind fun _ hid => ?_
  refine (o.fenced_participants.confined_selectFrom fun p hp => ?_).bind fun _ _ => .pure trivial
  simp only [Bool.and_eq_true, decide_eq_true_eq] at hp
  simp [Holdings.participant, hp.2, hid]

lemma confines_createConversation (hscope : o.owns scope = true) (agentRef : Id) (idempotencyKey : String)
    {ids : ConversationService.CreateIds} (hid : o.holds ids.id = true)
    (huser : o.holds ids.userParticipantId = true)
    (hagent : o.holds ids.agentParticipantId = true) (currentTimestamp : Timestamp) :
    o.Confines (ConversationService.create platform scope agentRef idempotencyKey ids currentTimestamp)
      fun _ => True := by
  unfold ConversationService.create
  refine Confined.bind (P := fun _ => True) (.transaction (confines_withIdempotency hscope (fun _ _ _ =>
    confines_sameRequest _ _ trivial) ?_)) fun _ _ => confines_conversationGet hscope _
  unfold ConversationService.insertConversation
  refine (o.fenced_conversations.confined_insertInto (Holdings.admits_conversation (Holdings.isOf_scope hscope)
    hid)).bind fun _ _ => ?_
  refine (o.fenced_participants.confined_insertInto (Holdings.admits_participant
    ⟨hid, huser, Holdings.within_scope hscope⟩)).bind fun _ _ => ?_
  refine (o.fenced_participants.confined_insertInto (Holdings.admits_participant
    ⟨hid, hagent, Holdings.within_scope hscope⟩)).bind fun _ _ => ?_
  refine (confines_insertCommand hscope (whole_of_head 'c' ?_ (by decide))).bind fun _ _ => .pure trivial
  simp [commandKey, ConversationService.operation]

end Conversations

section Messages

lemma confines_messageGet (hscope : o.owns scope = true) (conversationId messageId : Id) :
    o.Confines (MessageService.get scope conversationId messageId) fun _ => True := by
  unfold MessageService.get
  refine (confines_requireConversation hscope _).bind fun _ hid => ?_
  refine (o.fenced_messages.confined_selectFirst fun m hm => ?_).bind fun found _ => ?_
  · simp only [Bool.and_eq_true, decide_eq_true_eq] at hm
    simp [Holdings.message, hm.1.2, hid]
  · cases found with
    | none => exact .throw _
    | some row => exact .pure trivial

lemma part_of_inConversation (hscope : o.owns scope = true) {conversationId : Id} (c : Conversation)
    (h : inConversation scope conversationId c = true) : o.conversation.part c = true := by
  simp only [inConversation, Bool.and_eq_true, decide_eq_true_eq] at h
  simp [Holdings.conversation, h.1.1.1, h.1.1.2, h.1.2, Holdings.isOf_scope hscope]

lemma confines_submitMessage (hscope : o.owns scope = true) (conversationId : Id)
    (request : MessageService.SubmitMessageRequest) (idempotencyKey : String) {ids : MessageService.SubmitIds}
    (hid : o.holds ids.id = true)
    (hrun : o.holds ids.runId = true) (hassistant : o.holds ids.assistantMessageId = true)
    (now currentTimestamp : Timestamp) :
    o.Confines (MessageService.submit platform scope conversationId request idempotencyKey ids now
      currentTimestamp)
      fun _ => True := by
  unfold MessageService.submit
  refine Confined.bind (P := fun _ => True) (.transaction (confines_withIdempotency hscope (fun _ _ _ =>
    confines_sameRequest _ _ trivial) ?_)) fun _ _ => confines_messageGet hscope _ _
  unfold MessageService.insertMessage
  refine (confines_requireConversation hscope _).bind fun conversation hconversation => ?_
  refine (o.fenced_participants.confined_selectFirstOrThrow fun p hp => ?_).bind fun participant _ => ?_
  · simp only [Bool.and_eq_true, decide_eq_true_eq] at hp
    simp [Holdings.participant, hp.1.1.2, hconversation]
  refine Confined.bind
    (o.fenced_conversations.confined_updateTable o.agreement (part_of_inConversation hscope) _ ?_)
    fun rows _ => ?_
  · exact fun _ hp hw => ⟨hp, hw⟩
  refine (Relation.confined_orThrow (ε := ServerError) (P := fun _ => True) fun _ _ => trivial).bind
    fun updated _ => ?_
  refine (o.fenced_messages.confined_insertInto (Holdings.admits_message
    ⟨hconversation, hid, Holdings.within_scope hscope⟩)).bind fun _ _ => ?_
  refine (o.fenced_runs.confined_insertInto (Holdings.admits_run
    ⟨hconversation, hrun, hassistant, Holdings.within_scope hscope⟩ hid)).bind
    fun _ _ => ?_
  refine (confines_insertCommand hscope (whole_of_head 'm' ?_ (by decide))).bind fun _ _ => .pure trivial
  change ("message:create:" ++ conversationId).toList.head? = some 'm'
  simp

end Messages

section Handoffs

lemma confines_handoffGet (conversationId : Id) {handoffId : Id} (hid : o.holds handoffId = true) :
    o.Confines (EmailHandoffService.get scope conversationId handoffId) fun _ => True := by
  unfold EmailHandoffService.get
  refine (o.fenced_handoffs.confined_selectFirstOrThrow fun h hh => ?_).bind fun _ _ => .pure trivial
  simp only [Bool.and_eq_true, decide_eq_true_eq] at hh
  simp [Holdings.handoff, hh.1.2, hid]

lemma confines_createHandoff (hscope : o.owns scope = true) (conversationId : Id)
    (request : EmailHandoffService.CreateEmailHandoffRequest) (idempotencyKey : String)
    {ids : EmailHandoffService.CreateIds} (hid : o.holds ids.id = true)
    (hrun : o.holds ids.runId = true) (hassistant : o.holds ids.assistantMessageId = true)
    (now currentTimestamp : Timestamp) :
    o.Confines (EmailHandoffService.create platform scope conversationId request idempotencyKey ids now
      currentTimestamp) fun _ => True := by
  unfold EmailHandoffService.create
  refine Confined.bind (P := fun id => o.holds id = true) (.transaction (confines_withIdempotency hscope
    (fun _ hop hwhole => confines_sameRequest _ _ (hwhole _ hop)) ?_)) fun _ h => confines_handoffGet _ h
  unfold EmailHandoffService.insertHandoff
  refine (confines_requireConversation hscope _).bind fun conversation hconversation => ?_
  refine (o.fenced_messages.confined_selectFrom fun m hm => ?_).bind fun candidates hcandidates => ?_
  · simp only [EmailHandoffService.isTrigger, Bool.and_eq_true, decide_eq_true_eq] at hm
    simp [Holdings.message, hm.1.1.2, hconversation]
  cases hhead : (candidates.mergeSort EmailHandoffService.laterFirst).head? with
  | none => exact .throw _
  | some trigger =>
    have htrigger := (hcandidates trigger (List.mem_mergeSort.mp (List.mem_of_head? hhead))).2.2
    refine (o.fenced_runs.confined_insertInto (Holdings.admits_run
      ⟨hconversation, hrun, hassistant, Holdings.within_scope hscope⟩ htrigger.1)).bind
      fun _ _ => ?_
    refine (o.fenced_handoffs.confined_insertInto (Holdings.admits_handoff
      ⟨hconversation, hid, hrun, Holdings.within_scope hscope⟩)).bind
      fun _ _ => ?_
    refine (o.fenced_inputs.confined_insertInto (Holdings.admits_input
      ⟨hconversation, hid, hrun, Holdings.within_scope hscope⟩)).bind fun _ _ => ?_
    exact (confines_insertCommand hscope fun _ _ => hid).bind fun _ _ => .pure hid

end Handoffs

section Runs

lemma confines_updateRun {runId : Id} (hid : o.holds runId = true) (f : AgentRun → AgentRun)
    (hf : ∀ r, (f r).runId = r.runId) (hkeep : ∀ r, o.run.part r = true → o.run.whole r →
      o.run.part (f r) = true ∧ o.run.whole (f r)) :
    o.Confines (RunService.updateRun runId f hf) fun _ => True := by
  refine (o.fenced_runs.confined_updateTable o.agreement (fun r hr => ?_) _ hkeep).bind fun _ _ => .pure trivial
  simp [Holdings.run, of_decide_eq_true hr, hid]

lemma confines_decodeOutcome (conversationId : Id) (resourceId : String) :
    o.Confines (RunService.decodeOutcome conversationId resourceId) fun _ => True := by
  unfold RunService.decodeOutcome
  dsimp only
  split
  · split
    · exact .throw _
    · exact .pure trivial
  · exact .throw _

lemma confines_cancelRun {run : AgentRun} (hid : o.holds run.runId = true) (now : Timestamp) :
    o.Confines (RunService.cancelRun run now) fun _ => True := by
  unfold RunService.cancelRun
  cases run.status with
  | queued | running | cancelRequested =>
    exact Confined.bind (Q := fun _ => True) (confines_updateRun hid _ _ fun _ hp hw => ⟨hp, hw⟩)
      fun _ _ => .pure trivial
  | waitingForInput | completed | failed | cancelled => exact .pure trivial

lemma confines_cancel (hscope : o.owns scope = true) (conversationId : Id) (idempotencyKey : String)
    (order : Arrangement AgentRun) (now currentTimestamp : Timestamp) :
    o.Confines (RunService.cancel platform scope conversationId idempotencyKey order now currentTimestamp)
      fun _ => True := by
  unfold RunService.cancel
  refine .transaction (confines_withIdempotency hscope (fun _ _ _ => confines_decodeOutcome _ _) ?_)
  unfold RunService.cancelLatest
  refine (confines_requireConversation hscope _).bind fun _ hconversation => ?_
  refine (o.fenced_runs.confined_forUpdate fun r hr => ?_).bind fun runs hruns => ?_
  · simp only [RunService.ofConversation, Bool.and_eq_true, decide_eq_true_eq] at hr
    simp [Holdings.run, hr.2, hconversation]
  cases hhead : (order.sorted RunService.latestFirst runs).head? with
  | none => exact .throw _
  | some run =>
    have hid := (hruns run (Arrangement.mem_sorted.mp (List.mem_of_head? hhead))).2.2.1
    refine (confines_cancelRun hid now).bind fun _ _ => ?_
    refine (confines_insertCommand hscope (whole_of_head 'r' ?_ (by decide))).bind fun _ _ => .pure trivial
    change ("run:cancel:" ++ conversationId).toList.head? = some 'r'
    simp

end Runs

section Inputs

lemma part_of_matchesInput {conversationId requestId : Id} (hid : o.holds conversationId = true)
    (r : StructuredInputRequest)
    (h : StructuredInputService.matchesInput scope conversationId requestId r = true) :
    o.input.part r = true := by
  simp only [StructuredInputService.matchesInput, Bool.and_eq_true, decide_eq_true_eq] at h
  simp [Holdings.input, h.1.2, hid]

lemma confines_resolveInput (hscope : o.owns scope = true) (conversationId requestId : Id)
    (request : StructuredInputService.SubmitStructuredInputRequest) (idempotencyKey : String)
    (now currentTimestamp : Timestamp) :
    o.Confines (StructuredInputService.resolveInput platform scope conversationId requestId request
      (commandKey scope (StructuredInputService.operation conversationId requestId) idempotencyKey) now
      currentTimestamp) fun _ => True := by
  unfold StructuredInputService.resolveInput
  refine (confines_requireConversation hscope _).bind fun _ hconversation => ?_
  refine (o.fenced_inputs.confined_forUpdate (part_of_matchesInput hconversation)).bind fun inputs hinputs => ?_
  cases hhead : inputs.head? with
  | none => exact .throw _
  | some input =>
    obtain ⟨-, -, hid, hrun⟩ := hinputs input (List.mem_of_head? hhead)
    dsimp only
    split
    · exact .throw _
    refine Confined.bind (o.fenced_inputs.confined_updateTable o.agreement (fun r hr => ?_) _ ?_)
      fun updated _ => ?_
    · simp [Holdings.input, of_decide_eq_true hr, hid]
    · exact fun _ hp hw => ⟨hp, hw⟩
    split
    · exact .throw _
    refine Confined.bind (o.fenced_runs.confined_updateTable o.agreement (fun r hr => ?_) _ ?_)
      fun requeued _ => ?_
    · simp only [Bool.and_eq_true, decide_eq_true_eq] at hr
      simp [Holdings.run, hr.1, hrun]
    · exact fun _ hp hw => ⟨hp, hw⟩
    split
    · exact .throw _
    refine Confined.bind (P := fun _ => True) ?_ fun _ _ => confines_insertCommand hscope (whole_of_head 's' ?_
      (by decide))
    · cases request with
      | submitted value =>
        refine Confined.bind (o.fenced_handoffs.confined_updateTable o.agreement (fun h hh => ?_) _ ?_)
          fun _ _ => .pure trivial
        · simp [Holdings.handoff, of_decide_eq_true hh, hrun]
        · exact fun _ hp hw => ⟨hp, hw⟩
      | declined => exact .pure trivial
    · change ("structured-input:submit:" ++ conversationId ++ ":" ++ requestId).toList.head? = some 's'
      simp

def joined (scope : Scope) (r : StructuredInputRequest) (c : Conversation) : Bool :=
  decide (c.tenantId = r.tenantId) && decide (c.siteId = r.siteId) &&
    decide (c.conversationId = r.conversationId) &&
    decide (c.principalId = scope.principalId)

def joins (scope : Scope) (conversationId requestId : Id) (db : Tables) (r : StructuredInputRequest) : Bool :=
  StructuredInputService.matchesInput scope conversationId requestId r &&
    (conversations.matching (joined scope r) db).length != 0

lemma part_of_joined (hscope : o.owns scope = true) {conversationId requestId : Id} {r : StructuredInputRequest}
    (hr : StructuredInputService.matchesInput scope conversationId requestId r = true) (c : Conversation)
    (hc : joined scope r c = true) : o.conversation.part c = true := by
  simp only [StructuredInputService.matchesInput, joined, Bool.and_eq_true, decide_eq_true_eq] at hr hc
  simp [Holdings.conversation, hc.1.1.1, hr.1.1.1, hc.1.1.2, hr.1.1.2, hc.2, Holdings.isOf_scope hscope]

lemma confines_inputGet (hscope : o.owns scope = true) (conversationId requestId : Id) :
    o.Confines (StructuredInputService.get scope conversationId requestId) fun _ => True := by
  unfold StructuredInputService.get
  refine Confined.bind (P := fun _ => True) (confined_select o.spares_refl fun db db' hdb => ⟨?_, trivial⟩)
    fun found _ => ?_
  · have hjoins : joins scope conversationId requestId db = joins scope conversationId requestId db' := by
      funext r
      cases hr : StructuredInputService.matchesInput scope conversationId requestId r with
      | false => rw [joins, joins, hr, Bool.false_and, Bool.false_and]
      | true => rw [joins, joins, o.fenced_conversations.matching hdb (part_of_joined hscope hr)]
    change (structuredInputRequests.matching (joins scope conversationId requestId db) db).head? =
      (structuredInputRequests.matching (joins scope conversationId requestId db') db').head?
    rw [← hjoins]
    refine congrArg List.head? (o.fenced_inputs.matching hdb fun r hr => ?_)
    rw [joins, Bool.and_eq_true, bne_iff_ne, ne_eq, List.length_eq_zero_iff] at hr
    obtain ⟨c, hc⟩ := List.exists_mem_of_ne_nil _ hr.2
    obtain ⟨hc, -, hid⟩ := o.fenced_conversations.whole_of_matching hdb (part_of_joined hscope hr.1) c hc
    simp only [joined, Bool.and_eq_true, decide_eq_true_eq] at hc
    simp [Holdings.input, ← hc.1.2, hid]
  · cases found with
    | none => exact .throw _
    | some row =>
      dsimp only
      unfold StructuredInputService.mapInput
      split
      · exact .throw _
      · exact .pure trivial

lemma confines_submitInput (hscope : o.owns scope = true) (conversationId requestId : Id)
    (request : StructuredInputService.SubmitStructuredInputRequest) (idempotencyKey : String)
    (now currentTimestamp : Timestamp) :
    o.Confines (StructuredInputService.submit platform scope conversationId requestId request idempotencyKey now
      currentTimestamp) fun _ => True := by
  unfold StructuredInputService.submit
  refine Confined.bind (P := fun _ => True) (.transaction (confines_withIdempotency hscope (fun previous _ _ => ?_)
    (confines_resolveInput hscope _ _ _ _ _ _))) fun _ _ => confines_inputGet hscope _ _
  refine (confines_sameRequest (P := fun _ => True) _ previous trivial).bind fun _ _ => ?_
  exact .pure trivial

end Inputs

section Lists

variable {collation : Collation} {encoding : Encoding}

lemma confines_listConversations (hscope : o.owns scope = true) (request : ListRequest) :
    o.Confines (ConversationService.list collation encoding scope request) fun _ => True := by
  unfold ConversationService.list
  split
  · exact .throw _
  · refine (o.fenced_conversations.confined_selectFrom fun c hc => ?_).bind fun matching _ => ?_
    · simp only [ConversationService.ofScope, Bool.and_eq_true, decide_eq_true_eq] at hc
      simp [Holdings.conversation, hc.1.1.1, hc.1.1.2, hc.1.2, Holdings.isOf_scope hscope]
    · exact (confined_mapM (I := fun _ => True) (fun _ _ => confines_conversationGet hscope _) _
        fun _ _ => trivial).bind fun _ _ => confined_pure trivial

lemma confines_listMessages (hscope : o.owns scope = true) (conversationId : Id) (request : ListRequest) :
    o.Confines (MessageService.list encoding scope conversationId request) fun _ => True := by
  unfold MessageService.list
  refine (confines_requireConversation hscope _).bind fun _ hconversation => ?_
  split
  · exact .throw _
  · refine (o.fenced_messages.confined_selectFrom fun m hm => ?_).bind fun _ _ => confined_pure trivial
    simp only [MessageService.ofConversation, Bool.and_eq_true, decide_eq_true_eq] at hm
    simp [Holdings.message, hm.1.2, hconversation]

end Lists

section Events

lemma part_of_event {conversationId : Id} (hid : o.holds conversationId = true) (e : ConversationEvent)
    (h : EventStore.ofConversation scope conversationId e = true) : o.event.part e = true := by
  simp only [EventStore.ofConversation, Bool.and_eq_true, decide_eq_true_eq] at h
  simp [Holdings.event, h.2, hid]

lemma part_of_public {conversationId : Id} (hid : o.holds conversationId = true) (e : ConversationEvent)
    (h : EventStore.isPublic scope conversationId e = true) : o.event.part e = true := by
  rw [EventStore.isPublic, Bool.and_eq_true] at h
  exact part_of_event hid e h.1

lemma confines_replay (hscope : o.owns scope = true) (conversationId : Id) (afterEventId : Option Id)
    (stamp : EventStore.SyncStamp) :
    o.Confines (EventStore.replay scope conversationId afterEventId stamp) fun _ => True := by
  have hrows : o.holds conversationId = true → ∀ afterSequence,
      o.Confines (EventStore.replayRows scope conversationId afterSequence) fun _ => True := by
    intro hid afterSequence
    refine (o.fenced_events.confined_selectFrom fun e he => ?_).bind fun _ _ => confined_pure trivial
    rw [Bool.and_eq_true] at he
    exact part_of_public hid e he.1
  unfold EventStore.replay
  refine (confines_requireConversation hscope _).bind fun conversation hid => ?_
  unfold EventStore.replayAfter
  split
  · exact hrows hid 0
  · refine (o.fenced_events.confined_selectFirst fun e he => ?_).bind fun found _ => ?_
    · rw [Bool.and_eq_true] at he
      exact part_of_public hid e he.1
    · cases found with
      | none => exact confined_pure trivial
      | some cursor => exact hrows hid _

lemma confines_storing (taken : Bool) : o.Confines (storing taken) fun _ => True := by
  cases taken
  · exact .throw _
  · exact confined_pure trivial

lemma confines_append (hscope : o.owns scope = true) (retentionMaxEvents : ℕ) (event : ConnectorEvent)
    {eventId : Id}
    (hid : o.holds eventId = true) (occurredAt : Timestamp) :
    o.Confines (EventStore.append retentionMaxEvents scope event eventId occurredAt) fun _ => True := by
  unfold EventStore.append
  refine .transaction (Confined.bind
    (o.fenced_conversations.confined_updateTable o.agreement (part_of_inConversation hscope) _ ?_)
      fun rows hrows => ?_)
  · exact fun _ hp hw => ⟨hp, hw⟩
  cases hhead : rows.head? with
  | none => exact .throw _
  | some allocation =>
    obtain ⟨c, hc, hwhole, -⟩ := hrows allocation (List.mem_of_head? hhead)
    simp only [inConversation, Bool.and_eq_true, decide_eq_true_eq] at hc
    have hconversation : o.holds event.conversationId = true := hc.2 ▸ hwhole.2
    refine (confines_storing _).bind fun _ _ => (o.fenced_events.confined_insertInto (Holdings.admits_event
      ⟨hconversation, hid, Holdings.within_scope hscope⟩)).bind fun _ _ => ?_
    refine (o.fenced_events.confined_deleteFrom fun e he => ?_).bind fun _ _ => confined_pure trivial
    rw [EventStore.isPruned, Bool.and_eq_true] at he
    exact part_of_event hconversation e he.1

end Events

section Worker

open RunWorker

variable {run : AgentRun}

def namesOf : EventBody → List Id
  | .handoffRequested handoffId => [handoffId]
  | .contactRequested requestId _ _ => [requestId]
  | _ => []

lemma part_of_run {runId : Id} (hid : o.holds runId = true) (r : AgentRun) (h : isRun runId r = true) :
    o.run.part r = true := by
  simp [Holdings.run, of_decide_eq_true h, hid]

lemma confines_startMessage (hrun : o.run.whole run) (now : Timestamp) (participantId : Id) :
    o.Confines (startMessage run now participantId) fun _ => True := by
  unfold startMessage
  refine .transaction ((o.fenced_messages.confined_selectFirst fun m hm => ?_).bind fun found _ => ?_)
  · simp [Holdings.message, of_decide_eq_true hm, hrun.2.2.1]
  cases found with
  | some row => exact .pure trivial
  | none =>
    refine Confined.bind (o.fenced_conversations.confined_updateTable o.agreement (fun c hc => ?_) _ ?_)
      fun rows _ => ?_
    · simp only [RunWorker.ofConversation, Bool.and_eq_true, decide_eq_true_eq] at hc
      simp [Holdings.conversation, hc.2, hrun.1]
    · exact fun _ hp hw => ⟨hp, hw⟩
    refine (Relation.confined_orThrow (ε := ServerError) (P := fun _ => True) fun _ _ => trivial).bind fun _ _ =>
      ?_
    exact o.fenced_messages.confined_insertInto (Holdings.admits_message
      ⟨hrun.1, hrun.2.2.1, hrun.2.2.2⟩)

lemma confines_completeMessage (hrun : o.run.whole run) (now : Timestamp) (parts : List ContentPart) :
    o.Confines (completeMessage run now parts) fun _ => True := by
  unfold completeMessage
  refine Confined.bind (.transaction (o.fenced_messages.confined_updateTable o.agreement (fun m hm => ?_) _ ?_))
    fun result _ => ?_
  · simp only [RunWorker.ofConversation, Bool.and_eq_true, decide_eq_true_eq] at hm
    simp [Holdings.message, hm.2, hrun.2.2.1]
  · exact fun _ hp hw => ⟨hp, hw⟩
  · split
    · exact .throw _
    · exact .pure trivial

lemma confines_requestHandoff (hrun : o.run.whole run) (now : Timestamp) {handoffId : Id}
    (hid : o.holds handoffId = true) : o.Confines (requestHandoff run now handoffId) fun _ => True := by
  unfold requestHandoff
  refine Confined.bind (.transaction (o.fenced_handoffs.confined_insertOrIgnore (Holdings.admits_handoff
    ⟨hrun.1, hid, hrun.2.1, hrun.2.2.2⟩))) fun _ _ => ?_
  refine (o.fenced_handoffs.confined_selectFirstOrThrow fun h hh => ?_).bind fun handoff _ => ?_
  · simp [Holdings.handoff, of_decide_eq_true hh, hid]
  · split
    · exact .throw _
    · exact .pure trivial

lemma confines_requestContact (hrun : o.run.whole run) (now : Timestamp) {requestId : Id}
    (hid : o.holds requestId = true) (prompt : String) (required : Bool) :
    o.Confines (requestContact run now requestId prompt required) fun _ => True := by
  unfold requestContact
  refine .transaction
    ((o.fenced_handoffs.confined_selectFirstOrThrow fun h hh => ?_).bind fun handoff hhandoff => ?_)
  · simp [Holdings.handoff, of_decide_eq_true hh, hrun.2.1]
  refine (o.fenced_inputs.confined_insertOrIgnore (Holdings.admits_input
    ⟨hrun.1, hid, hrun.2.1, hrun.2.2.2⟩)).bind fun _ _ => ?_
  refine (o.fenced_inputs.confined_selectFirstOrThrow fun r hr => ?_).bind fun input _ => ?_
  · simp [Holdings.input, of_decide_eq_true hr, hid]
  split
  · exact .throw _
  refine Confined.bind (o.fenced_handoffs.confined_updateTable o.agreement (fun h hh => ?_) _ ?_) fun _ _ =>
    .pure trivial
  · simp [Holdings.handoff, of_decide_eq_true hh, hhandoff.2.2.1]
  · exact fun _ hp hw => ⟨hp, hw⟩

lemma confines_completeHandoff (hrun : o.run.whole run) (now : Timestamp) (handoffId : Id) :
    o.Confines (completeHandoff run now handoffId) fun _ => True := by
  unfold completeHandoff
  refine Confined.bind (.transaction (o.fenced_handoffs.confined_updateTable o.agreement (fun h hh => ?_) _ ?_))
    fun result _ => ?_
  · simp only [RunWorker.ofConversation, Bool.and_eq_true, decide_eq_true_eq] at hh
    simp [Holdings.handoff, hh.1.2, hrun.2.1]
  · exact fun _ hp hw => ⟨hp, hw⟩
  · split
    · exact .throw _
    · exact .pure trivial

lemma confines_materialize (hrun : o.run.whole run) (now : Timestamp) (participantId : Id) (event : ConnectorEvent)
    (hnames : ∀ id ∈ namesOf event.body, o.holds id = true) :
    o.Confines (materialize run now participantId event) fun _ => True := by
  unfold materialize
  generalize event.body = body at hnames
  cases body with
  | messageStarted => exact confines_startMessage hrun now participantId
  | messageCompleted parts => exact (confines_storing _).bind fun _ _ => confines_completeMessage hrun now parts
  | handoffRequested handoffId => exact confines_requestHandoff hrun now (hnames _ (List.mem_singleton_self _))
  | contactRequested requestId prompt required =>
    refine (confines_storing _).bind fun _ _ => ?_
    exact confines_requestContact hrun now (hnames _ (List.mem_singleton_self _)) prompt required
  | handoffCompleted handoffId => exact confines_completeHandoff hrun now handoffId
  | _ => exact .pure trivial

lemma confines_updateRuns {runId : Id} (hid : o.holds runId = true) {p : AgentRun → Bool}
    (hp : ∀ r, p r = true → isRun runId r = true) {f : AgentRun → AgentRun} (hf : ∀ r, (f r).runId = r.runId)
    (hkeep : ∀ r, o.run.part r = true → o.run.whole r → o.run.part (f r) = true ∧ o.run.whole (f r)) :
    o.Confines (agentRuns.updateTable p f hf) fun _ => True :=
  (o.fenced_runs.confined_updateTable o.agreement (fun r hr => part_of_run hid r (hp r hr)) hf hkeep).mono
    fun _ _ => trivial

variable {runId : Id}

lemma confines_complete (hid : o.holds runId = true) (now : Timestamp) :
    o.Confines (complete runId now) fun _ => True := by
  refine .transaction (Confined.bind (confines_updateRuns hid (fun _ h => h) _ ?_) fun _ _ => .pure trivial)
  exact fun _ hp hw => ⟨hp, hw⟩

lemma confines_waitForInput (hid : o.holds runId = true) (now : Timestamp) :
    o.Confines (waitForInput runId now) fun _ => True := by
  unfold waitForInput
  refine Confined.bind (.transaction (confines_updateRuns hid (fun r h => ?_) _ ?_)) fun result _ => ?_
  · rw [Bool.and_eq_true] at h
    exact h.1
  · exact fun _ hp hw => ⟨hp, hw⟩
  · split
    · exact .throw _
    · exact .pure trivial

lemma confines_isCancellationRequested (hid : o.holds runId = true) :
    o.Confines (isCancellationRequested runId) fun _ => True :=
  (o.fenced_runs.confined_selectFirstOrThrow (part_of_run hid)).bind fun _ _ => .pure trivial

lemma confines_renewLease (options : Options) (hid : o.holds run.runId = true) (dateNow : Timestamp) :
    o.Confines (renewLease options run dateNow) fun _ => True := by
  unfold renewLease
  refine Confined.bind (.transaction (confines_updateRuns hid (fun r h => ?_) _ ?_)) fun result _ => .pure trivial
  · rw [Bool.and_eq_true, Bool.and_eq_true] at h
    exact h.1.1
  · exact fun _ hp hw => ⟨hp, hw⟩

lemma confines_workerCancel (hrun : o.run.whole run) (now : Timestamp) :
    o.Confines (RunWorker.cancel run now) fun _ => True := by
  unfold RunWorker.cancel
  refine .transaction (Confined.bind (confines_updateRuns hrun.2.1 (fun _ h => h) _ ?_) fun _ _ => ?_)
  · exact fun _ hp hw => ⟨hp, hw⟩
  refine Confined.bind (o.fenced_messages.confined_updateTable o.agreement (fun m hm => ?_) _ ?_)
    fun _ _ => .pure trivial
  · rw [Bool.and_eq_true, decide_eq_true_eq] at hm
    simp [Holdings.message, hm.1, hrun.2.2.1]
  · exact fun _ hp hw => ⟨hp, hw⟩

lemma confines_fail (hid : o.holds runId = true) (code : String) (now : Timestamp) :
    o.Confines (fail runId code now) fun _ => True := by
  unfold fail
  refine .transaction (Confined.bind (confines_updateRuns hid (fun _ h => h) _ ?_) fun _ _ => ?_)
  · exact fun _ hp hw => ⟨hp, hw⟩
  refine Confined.bind (o.fenced_handoffs.confined_updateTable o.agreement (fun h hh => ?_) _ ?_)
    fun _ _ => .pure trivial
  · rw [Bool.and_eq_true, decide_eq_true_eq] at hh
    simp [Holdings.handoff, hh.1, hid]
  · exact fun _ hp hw => ⟨hp, hw⟩

lemma confines_liftResult (result : Except ServerError α) : o.Confines (liftResult result) fun _ => True := by
  cases result with
  | ok a => exact .pure trivial
  | error e => exact .throw e

lemma confines_loadContext (hrun : o.run.whole run) (orders : Orders) :
    o.Confines (loadContext run orders) fun _ => True := by
  have hof : ∀ tenantId siteId conversationId : Id, RunWorker.ofConversation run tenantId siteId
    conversationId = true →
      o.holds conversationId = true := by
    intro tenantId siteId conversationId h
    simp only [RunWorker.ofConversation, Bool.and_eq_true, decide_eq_true_eq] at h
    rw [h.2, hrun.1]
  unfold loadContext
  refine (o.fenced_messages.confined_selectFirstOrThrow fun m hm => ?_).bind fun currentMessage _ => ?_
  · rw [Bool.and_eq_true] at hm
    simp [Holdings.message, hof _ _ _ hm.1]
  refine (o.fenced_conversations.confined_selectFirstOrThrow fun c hc => ?_).bind
    fun conversation hconversation => ?_
  · simp [Holdings.conversation, hof _ _ _ hc]
  refine (o.fenced_messages.confined_selectFrom fun m hm => ?_).bind fun history _ => ?_
  · simp [Holdings.message, hof _ _ _ hm]
  refine (o.fenced_participants.confined_selectFrom fun p hp => ?_).bind fun participants _ => ?_
  · simp [Holdings.participant, hof _ _ _ hp]
  refine (o.fenced_principals.confined_selectFirstOrThrow fun p hp => ?_).bind fun principal _ => ?_
  · obtain ⟨hc, hscope, -⟩ := hconversation
    simp only [RunWorker.ofConversation, Bool.and_eq_true, decide_eq_true_eq] at hc hp
    simp [Holdings.principal, hp.1.1, hp.1.2, hp.2, ← hc.1.1, ← hc.1.2, hscope]
  refine (o.fenced_inputs.confined_selectFrom fun i hi => ?_).bind fun inputs _ => ?_
  · rw [isResolved, Bool.and_eq_true, Bool.and_eq_true] at hi
    simp [Holdings.input, hof _ _ _ hi.1.1]
  dsimp only
  split
  · refine (confines_liftResult _).bind fun resolved _ => ?_
    split
    · exact .pure trivial
    · exact .throw _
  · exact .throw _

end Worker

end Isolation

end ChatCore.Services
