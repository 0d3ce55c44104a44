import ChatCore.Services.Effects
import ChatCore.Services.Idempotency

namespace ChatCore.Services

open Protocol Relational Database

variable {server : Deployment} {a b db : Tables}

structure Beside (a b : Tables) : Prop where
  messages : b.messages = a.messages
  runs : b.agentRuns = a.agentRuns
  handoffs : b.handoffs = a.handoffs
  inputs : b.structuredInputRequests = a.structuredInputRequests
  events : b.conversationEvents = a.conversationEvents

lemma beside_refl (db : Tables) : Beside db db := ⟨rfl, rfl, rfl, rfl, rfl⟩

lemma beside_of_eq (h : b = a) : Beside a b := h ▸ beside_refl a

lemma Beside.trans {c : Tables} (h : Beside a b) (h' : Beside b c) : Beside a c :=
  ⟨h'.messages.trans h.messages, h'.runs.trans h.runs, h'.handoffs.trans h.handoffs, h'.inputs.trans h.inputs,
    h'.events.trans h.events⟩

structure NewRun (a : Tables) (r : AgentRun) : Prop where
  absent : a.agentRuns.find? r.runId = none
  unanswered : ∀ s ∈ a.agentRuns, s.assistantMessageId ≠ r.assistantMessageId

lemma newRun_of_broken {v : Tables} {r : AgentRun} (h : agentRuns.broken v r = none)
    (hv : v.agentRuns = a.agentRuns) :
    NewRun a r := by
  obtain ⟨-, hfind, hviolation⟩ := agentRuns.broken_eq_none.mp h
  refine ⟨hv ▸ hfind, fun s hs he => ?_⟩
  have hunique := failing_eq_none.mp (Option.or_eq_none_iff.mp hviolation).1
  exact of_decide_eq_true (List.all_eq_true.mp hunique s (hv ▸ hs)) he

section Commands

variable {α : Type} {k : CommandKey}

lemma exec_withIdempotency (platform : Platform) (replay : CommandIdempotency → Query α) (fresh : Query α)
    (c v : Tables) : (withIdempotency platform k replay fresh).exec c v =
      match v.commandIdempotency.find? k with
      | some previous => (replay previous).exec c v
      | none => fresh.exec c v := by
  refine (Program.exec_bind_ok (Program.exec_lock _ _ _)).trans
    ((Program.exec_bind_ok (Relation.exec_selectFirst_key (t := commandIdempotency))).trans ?_)
  change Program.exec (match v.commandIdempotency.find? k with | some previous => _ | none => _) c v = _
  cases v.commandIdempotency.find? k <;> rfl

lemma single_withIdempotency {platform : Platform} {replay : CommandIdempotency → Query α} {fresh : Query α}
    (hr : ∀ previous, (replay previous).Single) (hf : fresh.Single) :
    (withIdempotency platform k replay fresh).Single := by
  refine Program.Single.bind (fun v => trivial) fun _ => Program.Single.bind (fun v => trivial) fun previous => ?_
  cases previous with
  | some previous => exact hr previous
  | none => exact hf

lemma single_sameRequest (hash : String) (previous : CommandIdempotency) : (sameRequest hash previous).Single := by
  rw [sameRequest]
  split <;> trivial

lemma exec_sameRequest_inv {hash id : String} {previous : CommandIdempotency} {c v : Tables} {w : Tables × Tables}
    (h : (sameRequest hash previous).exec c v = (.ok id, w)) : w = (c, v) := by
  rw [sameRequest] at h
  split at h
  · cases h
  · exact (Program.exec_pure_inv h).2

lemma exec_requireConversation_inv {scope : Scope} {conversationId : Id} {c v : Tables} {x : Conversation}
    {w : Tables × Tables} (h : (requireConversation scope conversationId).exec c v = (.ok x, w)) :
    x ∈ v.conversations ∧ inConversation scope conversationId x = true ∧ w = (c, v) := by
  have h' := (Program.exec_bind_ok (conversations.exec_selectFirst _ c v)).symm.trans h
  cases hx : (conversations.matching (inConversation scope conversationId) v).head? with
  | none =>
    rw [hx] at h'
    cases h'
  | some y =>
    rw [hx] at h'
    cases h'
    obtain ⟨hm, hin⟩ := List.mem_filter.mp (List.mem_of_head? hx)
    exact ⟨hm, hin, rfl⟩

end Commands

section Submit

variable (scope : Scope) (conversationId : Id) (request : MessageService.SubmitMessageRequest)
  (ids : MessageService.SubmitIds) (now time : Timestamp)

structure Submitted (a b : Tables) : Prop where
  message : ∃ participantId sequence, a.messages.find? ids.id = none ∧ 1 ≤ sequence ∧
    b.messages = a.messages.insert
    (MessageService.newMessage scope conversationId participantId request ids.id sequence now time)
  run : ∃ agentRef r, r = MessageService.newRun scope conversationId ids.id ids.runId
    ids.assistantMessageId agentRef
    .message time ∧ NewRun a r ∧ b.agentRuns = a.agentRuns.insert r
  conversation : ∃ c ∈ a.conversations, inConversation scope conversationId c = true
  handoffs : b.handoffs = a.handoffs
  inputs : b.structuredInputRequests = a.structuredInputRequests
  events : b.conversationEvents = a.conversationEvents

lemma exec_insertMessage {platform : Platform} {k : CommandKey} {id : Id} {c v : Tables}
    (h : (MessageService.insertMessage platform scope conversationId request k ids now time).exec a a =
      (.ok id, c, v)) : Submitted scope conversationId request ids now time a v := by
  obtain ⟨conversation, c₁, v₁, h₁, h⟩ := Program.exec_bind_inv h
  obtain ⟨hconversation, hin, he⟩ := exec_requireConversation_inv h₁
  cases he
  obtain ⟨participant, c₂, v₂, h₂, h⟩ := Program.exec_bind_inv h
  obtain ⟨-, he⟩ := Relation.exec_selectFirstOrThrow_inv h₂
  cases he
  obtain ⟨rows, c₃, v₃, h₃, h⟩ := Program.exec_bind_inv h
  obtain ⟨hrows, he⟩ := Relation.exec_updateTable_inv h₃
  cases he
  obtain ⟨updated, c₄, v₄, h₄, h⟩ := Program.exec_bind_inv h
  obtain ⟨-, he⟩ := Relation.exec_orThrow_inv h₄
  cases he
  obtain ⟨u, c₅, v₅, h₅, h⟩ := Program.exec_bind_inv h
  obtain ⟨hmessage, he⟩ := Relation.exec_insertInto_inv h₅
  cases he
  obtain ⟨u', c₆, v₆, h₆, h⟩ := Program.exec_bind_inv h
  obtain ⟨hrun, he⟩ := Relation.exec_insertInto_inv h₆
  cases he
  obtain ⟨u'', c₇, v₇, h₇, h⟩ := Program.exec_bind_inv h
  obtain ⟨-, he⟩ := Relation.exec_insertInto_inv h₇
  cases he
  cases h
  obtain ⟨hcheck, hfind, -⟩ := messages.broken_eq_none.mp hmessage
  have hs : 1 ≤ updated.nextMessageSequence - 1 := by
    refine Nat.one_le_iff_ne_zero.mpr ?_
    simpa [messages, failing, MessageService.newMessage] using hcheck
  exact ⟨⟨_, _, hfind, hs, rfl⟩, ⟨_, _, rfl, newRun_of_broken hrun rfl, rfl⟩,
    ⟨conversation, hconversation, hin⟩, rfl, rfl, rfl⟩

lemma single_insertMessage (platform : Platform) (k : CommandKey) :
    (MessageService.insertMessage platform scope conversationId request k ids now time).Single := by
  refine (single_requireConversation _ _).bind fun c => ?_
  refine (Relation.single_selectFirstOrThrow _ _).bind fun p => ?_
  refine Program.Single.bind (conversations.single_updateTable _ _ _) fun rows => ?_
  refine Program.Single.bind (Relation.single_orThrow _) fun updated => ?_
  refine Program.Single.bind (Relation.single_insertInto _) fun _ => ?_
  refine Program.Single.bind (Relation.single_insertInto _) fun _ => ?_
  exact Program.Single.bind (Relation.single_insertInto _) fun _ => trivial

lemma run_submitMessage (platform : Platform) (key : String) :
    Beside a ((MessageService.submit platform scope conversationId request key ids now time).run a).2 ∨
    Submitted scope conversationId request ids now time a
      ((MessageService.submit platform scope conversationId request key ids now time).run a).2 := by
  obtain ⟨e, h⟩ | ⟨id, v, h, hv⟩ := Program.run_transaction_bind (single_withIdempotency
    (single_sameRequest (MessageService.requestHash platform request))
    (single_insertMessage scope conversationId request ids now time platform
      (commandKey scope (MessageService.operation conversationId) key)))
    (fun id => keeps_messageGet (fun _ => rfl) scope conversationId id) a
  · exact Or.inl (beside_of_eq (congrArg Prod.snd h))
  · rw [exec_withIdempotency] at h
    rw [MessageService.submit, hv]
    split at h
    · exact Or.inl (beside_of_eq (congrArg Prod.snd (exec_sameRequest_inv h)))
    · exact Or.inr (exec_insertMessage scope conversationId request ids now time h)

end Submit

section EmailHandoff

variable (scope : Scope) (conversationId : Id) (request : EmailHandoffService.CreateEmailHandoffRequest)
  (ids : EmailHandoffService.CreateIds) (now time : Timestamp)

structure HandedOff (a b : Tables) : Prop where
  run : ∃ agentRef trigger r, trigger ∈ a.messages ∧ EmailHandoffService.isTrigger scope conversationId
    trigger = true ∧
    r = MessageService.newRun scope conversationId trigger.messageId ids.runId ids.assistantMessageId agentRef
      .agentEmailHandoff time ∧ NewRun a r ∧ b.agentRuns = a.agentRuns.insert r
  conversation : ∃ c ∈ a.conversations, inConversation scope conversationId c = true
  messages : b.messages = a.messages
  absent : a.handoffs.find? ids.id = none ∧ a.structuredInputRequests.find? ids.id = none
  handoffs : b.handoffs = a.handoffs.insert (EmailHandoffService.newHandoff scope conversationId ids now)
  inputs : b.structuredInputRequests = a.structuredInputRequests.insert
    (EmailHandoffService.newInput scope conversationId (EmailHandoffService.normalize request.email) ids now)
  events : b.conversationEvents = a.conversationEvents

lemma exec_insertHandoff {platform : Platform} {k : CommandKey} {id : Id} {c v : Tables}
    (h : (EmailHandoffService.insertHandoff platform scope conversationId request k ids now time).exec a a =
      (.ok id, c, v)) : HandedOff scope conversationId request ids now time a v := by
  obtain ⟨conversation, c₁, v₁, h₁, h⟩ := Program.exec_bind_inv h
  obtain ⟨hconversation, hin, he⟩ := exec_requireConversation_inv h₁
  cases he
  obtain ⟨candidates, c₂, v₂, h₂, h⟩ := Program.exec_bind_inv h
  cases h₂
  dsimp only at h
  cases ht : ((Database.messages.matching (EmailHandoffService.isTrigger scope conversationId) a).mergeSort
      EmailHandoffService.laterFirst).head? with
  | none =>
    rw [ht] at h
    cases h
  | some trigger =>
    rw [ht] at h
    obtain ⟨hmem, htrigger⟩ := List.mem_filter.mp (List.mem_mergeSort.mp (List.mem_of_head? ht))
    obtain ⟨u, c₃, v₃, h₃, h⟩ := Program.exec_bind_inv h
    obtain ⟨hrun, he⟩ := Relation.exec_insertInto_inv h₃
    cases he
    obtain ⟨u₁, c₄, v₄, h₄, h⟩ := Program.exec_bind_inv h
    obtain ⟨hhandoff, he⟩ := Relation.exec_insertInto_inv h₄
    cases he
    obtain ⟨u₂, c₅, v₅, h₅, h⟩ := Program.exec_bind_inv h
    obtain ⟨hinput, he⟩ := Relation.exec_insertInto_inv h₅
    cases he
    obtain ⟨u₃, c₆, v₆, h₆, h⟩ := Program.exec_bind_inv h
    obtain ⟨-, he⟩ := Relation.exec_insertInto_inv h₆
    cases he
    cases h
    exact ⟨⟨_, trigger, _, hmem, htrigger, rfl, newRun_of_broken hrun rfl, rfl⟩,
      ⟨conversation, hconversation, hin⟩,
      rfl, ⟨(Database.handoffs.broken_eq_none.mp hhandoff).2.1,
        (structuredInputRequests.broken_eq_none.mp hinput).2.1⟩,
      rfl, rfl, rfl⟩

lemma single_insertHandoff (platform : Platform) (k : CommandKey) :
    (EmailHandoffService.insertHandoff platform scope conversationId request k ids now time).Single := by
  refine (single_requireConversation _ _).bind fun c => (Relation.single_selectFrom _ _).bind fun candidates => ?_
  cases (candidates.mergeSort EmailHandoffService.laterFirst).head? with
  | none => trivial
  | some trigger =>
    refine Program.Single.bind (Relation.single_insertInto _) fun _ => ?_
    refine Program.Single.bind (Relation.single_insertInto _) fun _ => ?_
    refine Program.Single.bind (Relation.single_insertInto _) fun _ => ?_
    exact Program.Single.bind (Relation.single_insertInto _) fun _ => trivial

lemma run_createEmailHandoff (platform : Platform) (key : String) :
    Beside a ((EmailHandoffService.create platform scope conversationId request key ids now time).run a).2 ∨
    HandedOff scope conversationId request ids now time a
      ((EmailHandoffService.create platform scope conversationId request key ids now time).run a).2 := by
  obtain ⟨e, h⟩ | ⟨id, v, h, hv⟩ := Program.run_transaction_bind (single_withIdempotency
    (single_sameRequest (EmailHandoffService.requestHash platform request))
    (single_insertHandoff scope conversationId request ids now time platform
      (commandKey scope (EmailHandoffService.operation conversationId) key)))
    (fun id => show (EmailHandoffService.get scope conversationId id).Keeps Eq from
      (Relation.keeps_selectFirstOrThrow _ (fun _ => rfl) _).bind fun _ => trivial) a
  · exact Or.inl (beside_of_eq (congrArg Prod.snd h))
  · rw [exec_withIdempotency] at h
    rw [EmailHandoffService.create, hv]
    split at h
    · exact Or.inl (beside_of_eq (congrArg Prod.snd (exec_sameRequest_inv h)))
    · exact Or.inr (exec_insertHandoff scope conversationId request ids now time h)

end EmailHandoff

section Cancel

open RunService

variable (scope : Scope) (conversationId : Id) (key : String) (order : Arrangement AgentRun) (now time : Timestamp)

/-- The run that a cancel selects: the latest of its conversation, unless the key has been used. -/
def selectedRun (db : Tables) : Option AgentRun :=
  match db.commandIdempotency.find? (commandKey scope (operation conversationId) key) with
  | some _ => none
  | none => (conversations.matching (inConversation scope conversationId) db).head?.bind fun _ =>
      (order.sorted RunService.latestFirst (agentRuns.matching (ofConversation scope conversationId) db)).head?

lemma runId_decided (r : AgentRun) : (Idempotency.decided now r).runId = r.runId := by
  unfold Idempotency.decided
  split <;> rfl

def cancelled (platform : Platform) (r : AgentRun) (db : Tables) : Tables :=
  { db with
    agentRuns := db.agentRuns.update (RunWorker.isRun r.runId) (Idempotency.decided now) (runId_decided now)
    commandIdempotency := db.commandIdempotency.insert ⟨commandKey scope (operation conversationId) key,
      requestHash platform, encodeOutcome r.runId (Idempotency.decision r.status), time⟩ }

variable {now} {r : AgentRun}

lemma exec_updateRun {f : AgentRun → AgentRun} {hf : ∀ r, (f r).runId = r.runId} {c : Tables}
    (hr : r ∈ a.agentRuns)
    (hd : f r = Idempotency.decided now r) : (updateRun r.runId f hf).exec c a = (.ok (), c, agentRuns.put a
      (a.agentRuns.update (RunWorker.isRun r.runId) (Idempotency.decided now) (runId_decided now))) := by
  refine (Program.exec_bind_ok (agentRuns.exec_updateTable_ok fun _ _ _ => rfl)).trans ?_
  have hsame : a.agentRuns.update (fun s => decide (s.runId = r.runId)) f hf =
      a.agentRuns.update (RunWorker.isRun r.runId) (Idempotency.decided now) (runId_decided now) := by
    refine Table.ext (List.map_congr_left fun s hs => ?_)
    by_cases hk : s.runId = r.runId
    · rw [Table.key_injective hs hr hk, if_pos (by simp), if_pos (by simp [RunWorker.isRun]), hd]
    · rw [if_neg (by simp [hk]), if_neg (by simp [RunWorker.isRun, hk])]
  exact Prod.ext rfl (Prod.ext rfl (congrArg (agentRuns.put a) hsame))

lemma exec_cancelRun {c : Tables} (hr : r ∈ a.agentRuns) : (cancelRun r now).exec c a =
    (.ok (Idempotency.decision r.status), c, agentRuns.put a
      (a.agentRuns.update (RunWorker.isRun r.runId) (Idempotency.decided now) (runId_decided now))) := by
  have hwrite : ∀ (f : AgentRun → AgentRun) (hf : ∀ r, (f r).runId = r.runId) (status : CancellationStatus),
      f r = Idempotency.decided now r → (do updateRun r.runId f hf; return status : Query _).exec c a =
        (.ok status, c, agentRuns.put a
          (a.agentRuns.update (RunWorker.isRun r.runId) (Idempotency.decided now) (runId_decided now))) :=
    fun f hf status hd => Program.exec_bind_ok (exec_updateRun hr hd)
  have hsame : Idempotency.decided now r = r → a.agentRuns.update (RunWorker.isRun r.runId)
    (Idempotency.decided now)
      (runId_decided now) = a.agentRuns := by
    intro hd
    refine Table.ext ((List.map_congr_left fun s hs => ?_).trans (List.map_id _))
    by_cases hk : s.runId = r.runId
    · rw [Table.key_injective hs hr hk, if_pos (by simp [RunWorker.isRun]), hd]
      rfl
    · rw [if_neg (by simp [RunWorker.isRun, hk])]
      rfl
  unfold cancelRun
  cases hs : r.status with
  | queued => exact hwrite _ _ _ (by rw [Idempotency.decided, hs])
  | running | cancelRequested => exact hwrite _ _ _ (by rw [Idempotency.decided, hs])
  | waitingForInput | completed | failed | cancelled =>
    rw [hsame (by rw [Idempotency.decided, hs])]
    rfl

lemma mem_of_selectedRun (h : selectedRun scope conversationId key order a = some r) :
    r ∈ a.agentRuns ∧ ofConversation scope conversationId r = true := by
  unfold selectedRun at h
  split at h
  · cases h
  · obtain ⟨c, -, h⟩ := Option.bind_eq_some_iff.mp h
    exact List.mem_filter.mp (Arrangement.mem_sorted.mp (List.mem_of_head? h))

variable (now) (platform : Platform)

lemma run_cancelRun (h : selectedRun scope conversationId key order a = some r) :
    (RunService.cancel platform scope conversationId key order now time).run a =
      (.ok ⟨conversationId, r.runId, Idempotency.decision r.status⟩,
        cancelled scope conversationId key now time platform r a) := by
  obtain ⟨hr, -⟩ := mem_of_selectedRun scope conversationId key order h
  unfold selectedRun at h
  refine Program.run_of_exec (Program.exec_transaction_ok ((exec_withIdempotency _ _ _ _ _).trans ?_))
  cases hk : a.commandIdempotency.find? (commandKey scope (operation conversationId) key) with
  | some previous => rw [hk] at h; cases h
  | none =>
    rw [hk] at h
    obtain ⟨c, hc, h⟩ := Option.bind_eq_some_iff.mp h
    have hconversation : (requireConversation scope conversationId).exec a a = (.ok c, a, a) := by
      refine (Program.exec_bind_ok (conversations.exec_selectFirst _ _ _)).trans ?_
      rw [hc]
      rfl
    refine (Program.exec_bind_ok hconversation).trans
      ((Program.exec_bind_ok (agentRuns.exec_forUpdate _ _ _)).trans ?_)
    rw [h]
    refine (Program.exec_bind_ok (exec_cancelRun hr)).trans (Program.exec_bind_ok (Relation.exec_insertInto_ok ?_))
    exact commandIdempotency.broken_eq_none.mpr ⟨rfl, hk, rfl⟩

lemma exec_decodeOutcome (resourceId : String) (db : Tables) :
    ((decodeOutcome conversationId resourceId).exec db db).2 = (db, db) := by
  unfold decodeOutcome
  dsimp only
  split
  · split <;> rfl
  · rfl

lemma run_cancelRun_none (h : selectedRun scope conversationId key order a = none) :
    ((RunService.cancel platform scope conversationId key order now time).run a).2 = a ∧
    ∀ response, ((RunService.cancel platform scope conversationId key order now time).run a).1 = .ok response →
      ∃ previous, a.commandIdempotency.find? (commandKey scope (operation conversationId) key) = some previous ∧
        ((decodeOutcome conversationId previous.resourceId).run a).1 = .ok response := by
  have hexec := exec_withIdempotency (k := commandKey scope (operation conversationId) key) platform
    (fun previous => decodeOutcome conversationId previous.resourceId)
    (cancelLatest platform scope conversationId (commandKey scope (operation conversationId) key) order
      now time) a a
  unfold selectedRun at h
  cases hk : a.commandIdempotency.find? (commandKey scope (operation conversationId) key) with
  | some previous =>
    rw [hk] at hexec
    have hdecode := exec_decodeOutcome conversationId previous.resourceId a
    rcases hd : (decodeOutcome conversationId previous.resourceId).exec a a with ⟨result, c, v⟩
    rw [hd] at hdecode
    cases hdecode
    have hrun : (RunService.cancel platform scope conversationId key order now time).run a = (result, a) := by
      cases result with
      | ok response => exact Program.run_of_exec (Program.exec_transaction_ok (hexec.trans hd))
      | error e => exact Program.run_of_exec (Program.exec_transaction_error (hexec.trans hd))
    rw [hrun]
    exact ⟨rfl, fun response he => ⟨previous, rfl, by rw [Program.run, hd]; exact he⟩⟩
  | none =>
    rw [hk] at h hexec
    obtain ⟨e, hlatest⟩ : ∃ e, (cancelLatest platform scope conversationId
        (commandKey scope (operation conversationId) key) order now time).exec a a = (.error e, a, a) := by
      cases hc : (conversations.matching (inConversation scope conversationId) a).head? with
      | none =>
        refine ⟨conversationNotFound, Program.exec_bind_error ?_⟩
        refine (Program.exec_bind_ok (conversations.exec_selectFirst _ _ _)).trans ?_
        rw [hc]
        rfl
      | some c =>
        rw [hc] at h
        have hconversation : (requireConversation scope conversationId).exec a a = (.ok c, a, a) := by
          refine (Program.exec_bind_ok (conversations.exec_selectFirst _ _ _)).trans ?_
          rw [hc]
          rfl
        refine ⟨runNotFound, (Program.exec_bind_ok hconversation).trans
          ((Program.exec_bind_ok (agentRuns.exec_forUpdate _ _ _)).trans ?_)⟩
        change (order.sorted RunService.latestFirst
          (agentRuns.matching (ofConversation scope conversationId) a)).head? = none at h
        rw [h]
        rfl
    have hrun : (RunService.cancel platform scope conversationId key order now time).run a = (.error e, a) :=
      Program.run_of_exec (Program.exec_transaction_error (hexec.trans hlatest))
    rw [hrun]
    exact ⟨rfl, fun response hr => by cases hr⟩

end Cancel

section StructuredInput

variable (scope : Scope) (conversationId requestId : Id)
  (request : StructuredInputService.SubmitStructuredInputRequest) (now time : Timestamp)

structure Resumed (a b : Tables) : Prop where
  input : ∃ i, a.structuredInputRequests.find? requestId = some i ∧
    StructuredInputService.matchesInput scope conversationId requestId i = true ∧ i.status = .pending ∧
    (∃ r, a.agentRuns.find? i.runId = some r ∧ r.status = .waitingForInput) ∧
    b.agentRuns = a.agentRuns.update (fun r => decide (r.runId = i.runId) && decide (r.status = .waitingForInput))
      (StructuredInputService.requeue now) (fun _ => rfl) ∧
    b.handoffs = match request with
      | .submitted _ =>
        a.handoffs.update (fun h => decide (h.runId = i.runId)) (StructuredInputService.deliver now)
          (fun _ => rfl)
      | .declined => a.handoffs
  inputs : b.structuredInputRequests = a.structuredInputRequests.update (fun r => decide (r.requestId = requestId))
    (StructuredInputService.resolve request now) (fun _ => rfl)
  messages : b.messages = a.messages
  events : b.conversationEvents = a.conversationEvents

lemma exec_resolveInput {platform : Platform} {k : CommandKey} {u : Unit} {c v : Tables}
    (h : (StructuredInputService.resolveInput platform scope conversationId requestId request k
        now time).exec a a =
      (.ok u, c, v)) : Resumed scope conversationId requestId request now a v := by
  obtain ⟨conversation, c₁, v₁, h₁, h⟩ := Program.exec_bind_inv h
  obtain ⟨-, -, he⟩ := exec_requireConversation_inv h₁
  cases he
  obtain ⟨inputs, c₂, v₂, h₂, h⟩ := Program.exec_bind_inv h
  cases h₂
  cases hi : (structuredInputRequests.matching
      (StructuredInputService.matchesInput scope conversationId requestId) a).head? with
  | none =>
    dsimp only at h
    rw [hi] at h
    cases h
  | some input =>
    dsimp only at h
    rw [hi] at h
    dsimp only at h
    obtain ⟨hmem, hmatches⟩ := List.mem_filter.mp (List.mem_of_head? hi)
    have hid : input.requestId = requestId := by
      rw [StructuredInputService.matchesInput, Bool.and_eq_true, decide_eq_true_eq] at hmatches
      exact hmatches.2
    split at h
    · cases h
    rename_i hpending
    obtain ⟨updated, c₃, v₃, h₃, h⟩ := Program.exec_bind_inv h
    obtain ⟨-, he⟩ := Relation.exec_updateTable_inv h₃
    cases he
    split at h
    · cases h
    obtain ⟨requeued, c₄, v₄, h₄, h⟩ := Program.exec_bind_inv h
    obtain ⟨hrequeued, he⟩ := Relation.exec_updateTable_inv h₄
    cases he
    split at h
    · cases h
    rename_i hone
    have hrun : ∃ r, a.agentRuns.find? input.runId = some r ∧ r.status = .waitingForInput := by
      have hmatching : agentRuns.matching (fun r => RunWorker.isRun input.runId r &&
          decide (r.status = .waitingForInput)) a = _ := matching_run _
      rw [hrequeued, List.length_map, not_not] at hone
      cases hr : (a.agentRuns.find? input.runId).filter fun r => decide (r.status = .waitingForInput) with
      | none =>
        rw [hr] at hmatching
        exact absurd (hone.symm.trans (congrArg List.length hmatching)) (by decide)
      | some r =>
        obtain ⟨hr, hs⟩ := Option.filter_eq_some_iff.mp hr
        exact ⟨r, hr, of_decide_eq_true hs⟩
    have hfind : a.structuredInputRequests.find? requestId = some input := Table.find?_eq_some.mpr ⟨hmem, hid⟩
    obtain ⟨u₁, c₅, v₅, h₅, h⟩ := Program.exec_bind_inv h
    obtain ⟨-, he⟩ := Relation.exec_insertInto_inv h
    cases he
    cases request with
    | submitted value =>
      obtain ⟨u₂, c₆, v₆, h₆, h₅⟩ := Program.exec_bind_inv h₅
      obtain ⟨-, he⟩ := Relation.exec_updateTable_inv h₆
      cases he
      cases h₅
      exact ⟨⟨input, hfind, hmatches, not_not.mp hpending, hrun, rfl, rfl⟩, by rw [← hid]; rfl, rfl, rfl⟩
    | declined =>
      cases h₅
      exact ⟨⟨input, hfind, hmatches, not_not.mp hpending, hrun, rfl, rfl⟩, by rw [← hid]; rfl, rfl, rfl⟩

lemma single_resolveInput (platform : Platform) (k : CommandKey) :
    (StructuredInputService.resolveInput platform scope conversationId requestId request k now time).Single := by
  refine (single_requireConversation _ _).bind fun c => (Relation.single_forUpdate _ _).bind fun inputs => ?_
  cases inputs.head? with
  | none => trivial
  | some input =>
    dsimp only
    split
    · trivial
    refine Program.Single.bind (structuredInputRequests.single_updateTable _ _ _) fun updated => ?_
    split
    · trivial
    refine Program.Single.bind (agentRuns.single_updateTable _ _ _) fun requeued => ?_
    split
    · trivial
    refine Program.Single.bind ?_ fun _ => Relation.single_insertInto _
    cases request with
    | submitted value => exact Program.Single.bind (handoffs.single_updateTable _ _ _) fun _ => trivial
    | declined => trivial

lemma run_submitStructuredInput (platform : Platform) (key : String) :
    Beside a
        ((StructuredInputService.submit platform scope conversationId requestId request key now time).run a).2 ∨
    Resumed scope conversationId requestId request now a
      ((StructuredInputService.submit platform scope conversationId requestId request key now time).run a).2 := by
  obtain ⟨e, h⟩ | ⟨u, v, h, hv⟩ := Program.run_transaction_bind (single_withIdempotency
    (fun previous => (single_sameRequest (StructuredInputService.hashRequest platform request) previous).bind
      fun _ => single_pure ())
    (single_resolveInput scope conversationId requestId request now time platform
      (commandKey scope (StructuredInputService.operation conversationId requestId) key)))
    (fun _ => keeps_inputGet (fun _ => rfl) scope conversationId requestId) a
  · exact Or.inl (beside_of_eq (congrArg Prod.snd h))
  · rw [exec_withIdempotency] at h
    rw [StructuredInputService.submit, hv]
    split at h
    · obtain ⟨id, c₁, v₁, h₁, h⟩ := Program.exec_bind_inv h
      cases exec_sameRequest_inv h₁
      cases h
      exact Or.inl (beside_refl a)
    · exact Or.inr (exec_resolveInput scope conversationId requestId request now time h)

end StructuredInput

section Conversations

structure Continues (c c' : Conversation) : Prop where
  conversationId : c'.conversationId = c.conversationId
  tenantId : c'.tenantId = c.tenantId
  siteId : c'.siteId = c.siteId
  events : c.nextEventSequence ≤ c'.nextEventSequence

lemma continues_refl (c : Conversation) : Continues c c := ⟨rfl, rfl, rfl, Nat.le_refl _⟩

lemma Continues.trans {c c' c'' : Conversation} (h : Continues c c') (h' : Continues c' c'') : Continues c c'' :=
  ⟨h'.conversationId.trans h.conversationId, h'.tenantId.trans h.tenantId, h'.siteId.trans h.siteId,
    Nat.le_trans h.events h'.events⟩

structure Lasting (ids : List Id) (a b : Tables) : Prop where
  kept : ∀ c ∈ a.conversations, ∃ c' ∈ b.conversations, Continues c c'
  origin : ∀ c' ∈ b.conversations, (∃ c ∈ a.conversations, Continues c c') ∨ c'.conversationId ∈ ids

variable {ids : List Id}

lemma lasting_of_same (h : b.conversations = a.conversations) : Lasting ids a b :=
  ⟨fun c hc => ⟨c, h ▸ hc, continues_refl c⟩, fun c hc => Or.inl ⟨c, h ▸ hc, continues_refl c⟩⟩

lemma Lasting.trans {c : Tables} (h : Lasting ids a b) (h' : Lasting ids b c) : Lasting ids a c := by
  refine ⟨fun x hx => ?_, fun z hz => ?_⟩
  · obtain ⟨y, hy, hxy⟩ := h.kept x hx
    obtain ⟨z, hz, hyz⟩ := h'.kept y hy
    exact ⟨z, hz, hxy.trans hyz⟩
  · rcases h'.origin z hz with ⟨y, hy, hyz⟩ | hz
    · rcases h.origin y hy with ⟨x, hx, hxy⟩ | hy
      · exact Or.inl ⟨x, hx, hxy.trans hyz⟩
      · exact Or.inr (hyz.conversationId ▸ hy)
    · exact Or.inr hz

lemma lasting_update {q : Conversation → Bool} {f : Conversation → Conversation}
    {hf : ∀ c, (f c).conversationId = c.conversationId} (h : ∀ c, Continues c (f c)) :
    Lasting ids a (conversations.put a (a.conversations.update q f hf)) := by
  have hone : ∀ c, Continues c (if q c then f c else c) := by
    intro c
    split
    · exact h c
    · exact continues_refl c
  have hmem : ∀ c', c' ∈ a.conversations.update q f hf ↔ ∃ c ∈ a.conversations, c' = if q c then f c else c :=
    fun c' => Table.mem_update
  refine ⟨fun c hc => ⟨_, (hmem _).mpr ⟨c, hc, rfl⟩, hone c⟩, fun c' hc' => ?_⟩
  obtain ⟨c, hc, rfl⟩ := (hmem c').mp hc'
  exact Or.inl ⟨c, hc, hone c⟩

def created : Call → List Id
  | .createConversation _ _ _ ids _ => [ids.id]
  | _ => []

theorem lasting_body (server : Deployment) (call : Call) (a : Tables) :
    Lasting (created call) a ((body server call).run a).2 := by
  have hsame : ∀ {ids} {a b : Tables}, b.conversations = a.conversations → Lasting ids a b := lasting_of_same
  refine Program.Keeps.run (fun a => hsame rfl) (fun _ _ _ => Lasting.trans)
    (keeps_body (fun a => hsame rfl) server ?_) a
  have hmessage : ∀ {ids} now, conversations.Updates (Lasting ids) (MessageService.takeMessageSequence now)
      (fun _ => rfl) := fun now base q => lasting_update fun c => ⟨rfl, rfl, rfl, Nat.le_refl _⟩
  cases call with
  | createConversation scope agentRef key ids time =>
    refine ⟨fun r _ db => hsame rfl, fun db => ⟨fun c hc => ?_, fun c hc => ?_⟩, fun p db => hsame rfl⟩
    · exact ⟨c, Table.mem_insert_of_mem hc, continues_refl c⟩
    · rcases Table.mem_of_mem_insert hc with hc | rfl
      · exact Or.inl ⟨c, hc, continues_refl c⟩
      · exact Or.inr (List.mem_singleton.mpr rfl)
  | submitMessage scope c request key ids now time =>
    exact ⟨fun r _ db => hsame rfl, hmessage now, fun m db => hsame rfl, fun r db => hsame rfl⟩
  | createEmailHandoff scope c request key ids now time =>
    exact ⟨fun r _ db => hsame rfl, fun r db => hsame rfl, fun h db => hsame rfl, fun db => hsame rfl⟩
  | cancelRun scope c key order now time =>
    exact ⟨fun r _ db => hsame rfl, fun db q => hsame rfl, fun db q => hsame rfl⟩
  | submitStructuredInput scope c r request key now time =>
    exact ⟨fun r _ db => hsame rfl, fun db q => hsame rfl, fun db q => hsame rfl, fun db q => hsame rfl⟩
  | appendEvent scope event eventId time =>
    refine ⟨fun base q => lasting_update fun c => ⟨rfl, rfl, rfl, Nat.le_succ _⟩, fun e db => hsame rfl,
      fun db q => hsame rfl⟩
  | materialize run now participantId event =>
    change MaterialWrites _ run now event.body
    cases hb : event.body
    case messageStarted => exact ⟨hmessage now, fun m db => hsame rfl⟩
    case contactRequested => exact ⟨fun db => hsame rfl, fun db q => hsame rfl⟩
    case handoffRequested => exact fun db => hsame rfl
    case messageCompleted | handoffCompleted => exact fun db q => hsame rfl
    all_goals trivial
  | claim | complete | waitForInput | renewLease => exact fun db q => hsame rfl
  | cancel | fail => exact ⟨fun db q => hsame rfl, fun db q => hsame rfl⟩
  | replayEvents | loadContext | isCancellationRequested => trivial

end Conversations

section Others

lemma run_createConversation (platform : Platform) (scope : Scope) (agentRef : Id) (key : String)
    (ids : ConversationService.CreateIds) (time : Timestamp) :
    Beside a ((ConversationService.create platform scope agentRef key ids time).run a).2 := by
  refine Program.Keeps.run beside_refl (fun _ _ _ => Beside.trans) ?_ a
  exact keeps_createConversation beside_refl scope agentRef key ids time (fun r _ db => ⟨rfl, rfl, rfl, rfl, rfl⟩)
    (fun db => ⟨rfl, rfl, rfl, rfl, rfl⟩) (fun db => ⟨rfl, rfl, rfl, rfl, rfl⟩) fun db => ⟨rfl, rfl, rfl, rfl, rfl⟩

lemma run_replay (scope : Scope) (conversationId : Id) (afterEventId : Option Id) (stamp : EventStore.SyncStamp) :
    ((EventStore.replay scope conversationId afterEventId stamp).run a).2 = a :=
  (keeps_replay (fun _ => rfl) scope conversationId afterEventId stamp).run_eq a

end Others

end ChatCore.Services
