import ChatCore.Relational.Alone
import ChatCore.Relational.Trails
import ChatCore.Services.MessageOrder
import ChatCore.Services.Replays
import Mathlib.Data.List.TakeDrop

namespace ChatCore.Services.Histories

open Protocol Relational Database MessageOrder

section Request

variable (run : AgentRun) (orders : RunWorker.Orders)

def isTrigger (m : Message) : Bool :=
  RunWorker.ofConversation run m.tenantId m.siteId m.conversationId && decide (m.messageId = run.triggerMessageId)

def transcript (db : Tables) : List Message :=
  messages.matching (fun m => RunWorker.ofConversation run m.tenantId m.siteId m.conversationId) db

def historyOf (db : Tables) : List MessageResource :=
  ((((transcript run db).mergeSort RunWorker.newestFirst).take 1000).reverse).map mapMessage

def afterHistory (currentMessage : Message) (conversation : Conversation) (history : List Message) :
    Query RunWorker.RunContext := do
  let participants ← conversationParticipants.selectFrom (fun p =>
    RunWorker.ofConversation run p.tenantId p.siteId p.conversationId)
  let principal ← principals.selectFirstOrThrow (fun p => decide (p.tenantId = run.tenantId) &&
    decide (p.siteId = run.siteId) && decide (p.principalId = conversation.principalId))
  let inputs ← structuredInputRequests.selectFrom (RunWorker.isResolved run)
  let ofKind (kind : ParticipantKind) : Option Id :=
    ((orders.participants.arrange participants).find? (fun p => decide (p.kind = kind))).bind
      (fun p => present p.participantId)
  match ofKind .user, ofKind .agent with
  | some userParticipantId, some assistantParticipantId => do
    let resolvedInputs ← RunWorker.liftResult ((orders.inputs.sorted RunWorker.createdFirst inputs).mapM
      RunWorker.resolvedInput)
    let request : RunWorker.ConnectorRunRequest := {
      runId := run.runId
      conversationId := run.conversationId
      agentRef := conversation.agentRef
      triggerType := run.triggerType
      currentMessage := mapMessage currentMessage
      userParticipantId := userParticipantId
      history := (((history.mergeSort RunWorker.newestFirst).take 1000).reverse).map mapMessage
      principalId := principal.principalId
      resolvedInputs := resolvedInputs }
    if RunWorker.validateConnectorRunRequestContext request
        ⟨run.conversationId, run.runId, run.agentRef, userParticipantId, run.triggerMessageId⟩ then
      return ⟨request, assistantParticipantId, ⟨run.tenantId, run.siteId, conversation.principalId⟩⟩
    else .throw (.error "Connector run context is inconsistent.")
  | _, _ => .throw (.error "Run participants missing.")

def readHistory (currentMessage : Message) (conversation : Conversation) : Query RunWorker.RunContext := do
  let history ← messages.selectFrom (fun m => RunWorker.ofConversation run m.tenantId m.siteId m.conversationId)
  afterHistory run orders currentMessage conversation history

lemma loadContext_eq : RunWorker.loadContext run orders = (do
    let currentMessage ← messages.selectFirstOrThrow (isTrigger run)
    let conversation ← conversations.selectFirstOrThrow (fun c =>
      RunWorker.ofConversation run c.tenantId c.siteId c.conversationId)
    readHistory run orders currentMessage conversation) := rfl

lemma returns_afterHistory (currentMessage : Message) (conversation : Conversation) (history : List Message) :
    (afterHistory run orders currentMessage conversation history).Returns fun context =>
      context.request.history = (((history.mergeSort RunWorker.newestFirst).take 1000).reverse).map mapMessage ∧
      context.request.currentMessage = mapMessage currentMessage ∧
      context.request.conversationId = run.conversationId ∧
      ∃ m ∈ context.request.history, m.messageId = run.triggerMessageId := by
  unfold afterHistory
  refine (Program.returns_true _).bind fun participants _ => ?_
  refine (Program.returns_true _).bind fun principal _ => ?_
  refine (Program.returns_true _).bind fun inputs _ => ?_
  dsimp only
  split
  · refine (Program.returns_true _).bind fun resolvedInputs _ => ?_
    split
    · rename_i hvalid
      simp only [RunWorker.validateConnectorRunRequestContext, Bool.and_eq_true] at hvalid
      obtain ⟨m, hm, hid⟩ := List.any_eq_true.mp hvalid.1.2
      exact ⟨rfl, rfl, rfl, m, hm, of_decide_eq_true hid⟩
    · trivial
  · trivial

end Request

section Built

variable {run : AgentRun} {orders : RunWorker.Orders} {db : Tables} {m : Message} {c : Conversation}
  {p : Principal}
  {user assistant : Id} {resolved : List RunWorker.ResolvedInput}

def requestOf (run : AgentRun) (m : Message) (c : Conversation) (p : Principal) (user : Id)
    (resolved : List RunWorker.ResolvedInput) (db : Tables) : RunWorker.ConnectorRunRequest where
  runId := run.runId
  conversationId := run.conversationId
  agentRef := c.agentRef
  triggerType := run.triggerType
  currentMessage := mapMessage m
  userParticipantId := user
  history := historyOf run db
  principalId := p.principalId
  resolvedInputs := resolved

def participantOf (run : AgentRun) (orders : RunWorker.Orders) (db : Tables)
    (kind : ParticipantKind) : Option Id :=
  ((orders.participants.arrange (conversationParticipants.matching (fun p =>
    RunWorker.ofConversation run p.tenantId p.siteId p.conversationId) db)).find? fun p =>
      decide (p.kind = kind)).bind
      fun p => present p.participantId

lemma run_loadContext (hm : (messages.matching (isTrigger run) db).head? = some m)
    (hc : (conversations.matching (fun c => RunWorker.ofConversation run c.tenantId c.siteId c.conversationId)
      db).head? = some c)
    (hp : (principals.matching (fun p => decide (p.tenantId = run.tenantId) && decide (p.siteId = run.siteId) &&
      decide (p.principalId = c.principalId)) db).head? = some p)
    (hu : participantOf run orders db .user = some user) (ha : participantOf run orders db .agent = some assistant)
    (hi : (orders.inputs.sorted RunWorker.createdFirst (structuredInputRequests.matching (RunWorker.isResolved run)
      db)).mapM RunWorker.resolvedInput = .ok resolved)
    (hv : RunWorker.validateConnectorRunRequestContext (requestOf run m c p user resolved db)
      ⟨run.conversationId, run.runId, run.agentRef, user, run.triggerMessageId⟩ = true) :
    (RunWorker.loadContext run orders).run db = (.ok ⟨requestOf run m c p user resolved db, assistant,
      ⟨run.tenantId, run.siteId, c.principalId⟩⟩, db) := by
  have hrest : (afterHistory run orders m c (transcript run db)).exec db db =
    (.ok ⟨requestOf run m c p user resolved db,
      assistant, ⟨run.tenantId, run.siteId, c.principalId⟩⟩, db, db) := by
    unfold afterHistory
    rw [Program.exec_bind_ok (Relation.exec_selectFrom _ _ _ _)]
    rw [Program.exec_bind_ok (by rw [Relation.exec_selectFirstOrThrow, hp])]
    rw [Program.exec_bind_ok (Relation.exec_selectFrom _ _ _ _)]
    unfold participantOf at hu ha
    simp only [hu, ha, hi]
    change Program.exec (if RunWorker.validateConnectorRunRequestContext (requestOf run m c p user resolved db)
      ⟨run.conversationId, run.runId, run.agentRef, user, run.triggerMessageId⟩ = true then _ else _) db db = _
    rw [if_pos hv]
    rfl
  refine Program.run_of_exec (c := db) ?_
  rw [loadContext_eq, Program.exec_bind_ok (by rw [Relation.exec_selectFirstOrThrow, hm])]
  rw [Program.exec_bind_ok (by rw [Relation.exec_selectFirstOrThrow, hc])]
  exact (Program.exec_bind_ok (Relation.exec_selectFrom _ _ _ _)).trans hrest

end Built

section Ordered

variable {run : AgentRun} {db : Tables}

lemma pairwise_transcript (h : MessageLog run.conversationId db) :
    (transcript run db).Pairwise fun a b => a.sequence < b.sequence := by
  have hall : (db.messages.rows.filter fun m => decide (m.conversationId = run.conversationId)).Pairwise
      fun a b => a.sequence < b.sequence := by
    have hsequences : ((sequencesOf run.conversationId db.messages).map Prod.snd).Pairwise (· < ·) := by
      cases hc : db.conversations.find? run.conversationId with
      | none => rw [h.absent hc, List.map_nil]; exact List.Pairwise.nil
      | some c =>
        rw [(h.counter c hc).numbers]
        exact List.pairwise_lt_range'
    rw [sequencesOf, List.map_map, List.pairwise_map] at hsequences
    exact hsequences
  have hsub : transcript run db =
    (db.messages.rows.filter fun m => decide (m.conversationId = run.conversationId)).filter
      fun m => RunWorker.ofConversation run m.tenantId m.siteId m.conversationId := by
    rw [List.filter_filter]
    refine List.filter_congr fun m _ => ?_
    rw [RunWorker.ofConversation, Bool.and_assoc, Bool.and_assoc, Bool.and_assoc, Bool.and_self]
  rw [hsub]
  exact hall.filter _

lemma nodup_transcript (run : AgentRun) (db : Tables) : ((transcript run db).map Message.messageId).Nodup :=
  db.messages.keys_nodup.sublist (List.filter_sublist.map _)

lemma sorted_transcript {rows : List Message} (h : rows.Pairwise fun a b => a.sequence < b.sequence) :
    ((rows.mergeSort RunWorker.newestFirst).take 1000).reverse = rows.drop (rows.length - 1000) := by
  have hsorted : rows.mergeSort RunWorker.newestFirst = rows.reverse := by
    have hpairwise : (rows.mergeSort RunWorker.newestFirst).Pairwise
        fun a b => RunWorker.newestFirst a b = true := by
      refine List.pairwise_mergeSort (fun a b c hab hbc => ?_) (fun a b => ?_) rows
      · simp only [RunWorker.newestFirst, decide_eq_true_eq] at hab hbc ⊢
        omega
      · simp only [RunWorker.newestFirst, Bool.or_eq_true, decide_eq_true_eq]
        omega
    have hreverse : rows.reverse.Pairwise fun a b => RunWorker.newestFirst a b = true := by
      refine List.pairwise_reverse.mpr (h.imp fun hab => ?_)
      simp only [RunWorker.newestFirst, decide_eq_true_eq]
      omega
    refine List.Perm.eq_of_pairwise (fun a b ha hb hab hba => ?_) hpairwise hreverse
      ((List.mergeSort_perm _ _).trans (List.reverse_perm _).symm)
    simp only [RunWorker.newestFirst, decide_eq_true_eq] at hab hba
    have hinj := List.inj_on_of_nodup_map (List.pairwise_map.mpr (h.imp Nat.ne_of_lt))
    exact hinj (List.mem_mergeSort.mp ha) (List.mem_reverse.mp hb) (by omega)
  rw [hsorted, List.take_reverse, List.reverse_reverse]

lemma historyOf_of_pairwise (h : (transcript run db).Pairwise fun a b => a.sequence < b.sequence) :
    historyOf run db = ((transcript run db).drop ((transcript run db).length - 1000)).map mapMessage := by
  rw [historyOf, sorted_transcript h]

structure EndsWithCurrent (request : RunWorker.ConnectorRunRequest) : Prop where
  conversation : ∀ m ∈ request.history, m.conversationId = request.conversationId
  ordered : request.history.Pairwise fun a b => a.sequence < b.sequence
  last : request.history.getLast?.map MessageResource.messageId = some request.currentMessage.messageId

def Newest (run : AgentRun) (db : Tables) : Prop := ∀ t ∈ transcript run db, t.messageId = run.triggerMessageId →
  ∀ m ∈ transcript run db, m.sequence ≤ t.sequence

lemma last_iff {request : RunWorker.ConnectorRunRequest} (hlog : MessageLog run.conversationId db)
    (hhistory : request.history = historyOf run db) (hconversation : request.conversationId = run.conversationId)
    (hcurrent : request.currentMessage.messageId = run.triggerMessageId)
    (htrigger : ∃ m ∈ request.history, m.messageId = run.triggerMessageId) :
    EndsWithCurrent request ↔ Newest run db := by
  have hpairwise := pairwise_transcript hlog
  rw [historyOf, sorted_transcript hpairwise] at hhistory
  obtain ⟨t', ht', hid⟩ := htrigger
  rw [hhistory] at ht'
  obtain ⟨t, ht, rfl⟩ := List.mem_map.mp ht'
  have hmem := List.mem_of_mem_drop ht
  have hne : transcript run db ≠ [] := List.ne_nil_of_mem hmem
  have hlast : request.history.getLast? = some (mapMessage ((transcript run db).getLast hne)) := by
    rw [hhistory, List.getLast?_map, List.getLast?_drop, if_neg, List.getLast?_eq_some_getLast hne]
    · rfl
    · have hlength := List.length_pos_of_mem ht
      rw [List.length_drop] at hlength
      omega
  have hgreatest : ∀ m ∈ transcript run db, m.sequence ≤ ((transcript run db).getLast hne).sequence := by
    intro m hm
    have hsplit := hpairwise
    rw [← List.dropLast_append_getLast hne] at hm hsplit
    rcases List.mem_append.mp hm with hm | hm
    · exact Nat.le_of_lt ((List.pairwise_append.mp hsplit).2.2 m hm _ (List.mem_singleton_self _))
    · exact Nat.le_of_eq (congrArg _ (List.mem_singleton.mp hm))
  have hinj := List.inj_on_of_nodup_map (List.pairwise_map.mpr (hpairwise.imp Nat.ne_of_lt))
  have hkeys := List.inj_on_of_nodup_map (nodup_transcript run db)
  constructor
  · intro h s hs hsid m hm
    have hids := h.last
    rw [hlast, hcurrent, Option.map_some, Option.some.injEq] at hids
    have hsame : s = (transcript run db).getLast hne := hkeys hs (List.getLast_mem hne) (hsid.trans hids.symm)
    exact hsame ▸ hgreatest m hm
  · intro h
    have hsame : (transcript run db).getLast hne = t := by
      refine hinj (List.getLast_mem hne) hmem
        (Nat.le_antisymm (h t hmem hid _ (List.getLast_mem hne)) (hgreatest t hmem))
    refine ⟨fun m hm => ?_, ?_, ?_⟩
    · rw [hhistory] at hm
      obtain ⟨r, hr, rfl⟩ := List.mem_map.mp hm
      have hof := (List.mem_filter.mp (List.mem_of_mem_drop hr)).2
      simp only [RunWorker.ofConversation, Bool.and_eq_true, decide_eq_true_eq] at hof
      exact hof.2.trans hconversation.symm
    · rw [hhistory, List.pairwise_map]
      exact hpairwise.sublist (List.drop_sublist _ _)
    · rw [hlast, hsame, hcurrent]
      exact congrArg some hid

end Ordered

section Loads

variable {server : Deployment} {principals : Table Principal.principalId}
  {browserSessions : Table BrowserSession.sessionId} {bootstraps : Table SessionBootstrapIdempotency.key}

lemma messageLog_run (moves : List ServerMove) (k : Id) :
    MessageLog k (Replays.run server principals browserSessions bootstraps moves).db := by
  have hleads := World.exec_leads (body server) (unused principals browserSessions bootstraps) moves
  have hsound := @sound server (unused principals browserSessions bootstraps) moves
  refine hleads.preserves (I := MessageLog k) ⟨fun _ hc => by simp [unused] at hc, fun _ => rfl⟩
    fun id call before after hm h => h.step ?_
  obtain ⟨h₁, h₂, he⟩ := List.append_of_mem hm
  exact hsound.holds.good h₁ _ h₂ he

/-- In every run of the server, a request that was built is as the protocol asks if and only if no message of the
conversation was newer than the trigger of the run when the history was read. -/
theorem history_ends_iff (server : Deployment) (principals : Table Principal.principalId)
    (browserSessions : Table BrowserSession.sessionId) (bootstraps : Table SessionBootstrapIdempotency.key)
    (moves : List ServerMove) (id : ℕ) (run : AgentRun) (orders : RunWorker.Orders)
    (context : RunWorker.RunContext)
    (h : .finished id (.loadContext run orders) (.ok (.context context)) ∈
      (Replays.run server principals browserSessions bootstraps moves).history) :
    ∃ earlier later currentMessage conversation, moves = earlier ++ .advance id :: later ∧
      let w := Replays.run server principals browserSessions bootstraps earlier
      w.Faces id (.loadContext run orders)
        (Outcome.context <$> readHistory run orders currentMessage conversation) w.db ∧
        (EndsWithCurrent context.request ↔ Newest run w.db) := by
  have htrail := World.trail_of_finished h
  change Program.Trail _ (Outcome.context <$> RunWorker.loadContext run orders) _ at htrail
  rw [map_eq_pure_bind, loadContext_eq] at htrail
  obtain ⟨context', hload, hreturned⟩ := htrail.bind_pure
  cases hreturned.of_pure
  obtain ⟨currentMessage, hcurrent, hload⟩ := hload.bind_pure
  obtain ⟨conversation, -, hload⟩ := hload.bind_pure
  obtain ⟨rows, hrows, hrest⟩ := hload.bind_pure
  obtain ⟨db, hfaced, rfl⟩ := hrows.select_pure
  have hreads : (body server (.loadContext run orders)).Keeps Eq :=
    (keeps_loadContext (fun _ => rfl) run orders).map _
  obtain ⟨earlier, later, hmoves, rfl, hfaces⟩ := World.Faced.committed hfaced hreads
  obtain ⟨db₁, -, hhead⟩ := Relation.trail_selectFirstOrThrow hcurrent
  have htrigger := (List.mem_filter.mp (List.mem_of_mem_head? hhead)).2
  have hid : currentMessage.messageId = run.triggerMessageId := by
    simp only [isTrigger, Bool.and_eq_true, decide_eq_true_eq] at htrigger
    exact htrigger.2
  obtain ⟨hhistory, hmessage, hconversation, hmem⟩ :=
    hrest.returns (returns_afterHistory run orders currentMessage conversation _)
  refine ⟨earlier, later, currentMessage, conversation, hmoves, ?_, ?_⟩
  · rw [map_eq_pure_bind]
    exact hfaces
  · exact last_iff (messageLog_run earlier run.conversationId) hhistory hconversation
      (by rw [hmessage]; exact hid) hmem

end Loads

section Scenario

lemma lease_positive : 1 ≤ 1000 := by decide

lemma attempts_positive : 1 ≤ 2 := by decide

def patience : RunWorker.Options := ⟨1000, 2, lease_positive, attempts_positive⟩

def asStored {ρ : Type} : Arrangement ρ := ⟨id, List.Perm.refl⟩

lemma greeting_ne_nil : ["Hello"] ≠ [] := by simp

def submits (messageId runId answerId : Id) (key : String) : ServerMove := .start (.submitMessage Replays.visitor
  "conversation" ⟨["Hello"], greeting_ne_nil⟩ key ⟨messageId, runId, answerId⟩ 0 0)

def claimed : AgentRun where
  runId := "run"
  tenantId := "tenant"
  siteId := "site"
  conversationId := "conversation"
  triggerMessageId := "message"
  triggerType := .message
  assistantMessageId := "answer"
  agentRef := "agent"
  status := .running
  attempt := 1
  availableAt := 0
  claimedAt := some 0
  leaseExpiresAt := some 1000000
  cancelRequestedAt := none
  errorCode := none
  createdAt := 0
  updatedAt := 0
  completedAt := none

def opened : List ServerMove :=
  .start (.createConversation Replays.visitor "agent" "" ⟨"conversation", "user", "assistant"⟩ 0) ::
    List.replicate 10 (.advance 0) ++ submits "message" "run" "answer" "first" :: List.replicate 12 (.advance 1)

def prompt : List ServerMove := opened ++ .start (.claim patience asStored 0) :: List.replicate 5 (.advance 2) ++
  .start (.loadContext claimed ⟨asStored, asStored⟩) :: List.replicate 8 (.advance 3)

def hasty : List ServerMove := opened ++ .start (.claim patience asStored 0) :: List.replicate 5 (.advance 2) ++
  submits "second" "run2" "answer2" "second" :: List.replicate 12 (.advance 3)

def claims : ServerRecord → Option AgentRun
  | .finished _ (.claim ..) (.ok (.claimed run)) => run
  | _ => none

def contexts : ServerRecord → Option (ℕ × AgentRun × RunWorker.RunContext)
  | .finished id (.loadContext run _) (.ok (.context context)) => some (id, run, context)
  | _ => none

lemma finished_of_contexts {h : List ServerRecord} {id : ℕ} {run : AgentRun} {context : RunWorker.RunContext}
    (hc : (id, run, context) ∈ h.filterMap contexts) :
    ∃ orders, .finished id (.loadContext run orders) (.ok (.context context)) ∈ h := by
  obtain ⟨r, hm, hr⟩ := List.mem_filterMap.mp hc
  unfold contexts at hr
  split at hr
  · cases hr
    exact ⟨_, hm⟩
  · cases hr

def greeting (messageId : Id) (sequence : ℕ) : Message where
  messageId := messageId
  tenantId := "tenant"
  siteId := "site"
  conversationId := "conversation"
  sequence := sequence
  participantId := "user"
  role := .user
  status := .completed
  parts := [.text "Hello"]
  createdAt := 0
  completedAt := some 0

def conversing (messages : ℕ) : Conversation where
  conversationId := "conversation"
  tenantId := "tenant"
  siteId := "site"
  principalId := "visitor"
  agentRef := "agent"
  status := .active
  nextMessageSequence := messages + 1
  nextEventSequence := 1
  createdAt := 0
  updatedAt := 0

def served (moves : List ServerMove) : ServerWorld := Replays.run Replays.forgetful Replays.visitors ∅ ∅ moves

def promptContext : RunWorker.RunContext where
  request := {
    runId := "run"
    conversationId := "conversation"
    agentRef := "agent"
    triggerType := .message
    currentMessage := mapMessage (greeting "message" 1)
    userParticipantId := "user"
    history := [mapMessage (greeting "message" 1)]
    principalId := "visitor"
    resolvedInputs := [] }
  assistantParticipantId := "assistant"
  scope := Replays.visitor

theorem prompt_history_ends : ∃ orders earlier later currentMessage conversation,
    prompt = earlier ++ .advance 3 :: later ∧
      (served earlier).Faces 3 (.loadContext claimed orders)
        (Outcome.context <$> readHistory claimed orders currentMessage conversation) (served earlier).db ∧
      (EndsWithCurrent promptContext.request ↔ Newest claimed (served earlier).db) := by
  obtain ⟨orders, h⟩ := @finished_of_contexts (served prompt).history 3 claimed promptContext (by decide +kernel)
  exact ⟨orders, history_ends_iff Replays.forgetful Replays.visitors ∅ ∅ prompt 3 claimed orders promptContext h⟩

def hastyHistory : List MessageResource := [mapMessage (greeting "message" 1), mapMessage (greeting "second" 2)]

lemma history_hasty : historyOf claimed (served hasty).db = hastyHistory := by
  rw [historyOf_of_pairwise (by decide +kernel)]
  decide +kernel

/-- The first attempt at the run of the first message is given the second message last. -/
theorem newer_message_last : some claimed ∈ (served hasty).history.map claims ∧ claimed.attempt = 1 ∧
    claimed.triggerType = .message ∧ ∃ context,
      ((RunWorker.loadContext claimed ⟨asStored, asStored⟩).run (served hasty).db).1 = .ok context ∧
      context.request.history = hastyHistory ∧ ¬ EndsWithCurrent context.request := by
  have hrun := @run_loadContext claimed ⟨asStored, asStored⟩ (served hasty).db (greeting "message" 1)
    (conversing 2)
    ⟨"visitor", "tenant", "site", "", 0⟩ "user" "assistant" [] (by decide +kernel) (by decide +kernel)
      (by decide +kernel)
    (by decide +kernel) (by decide +kernel) (by decide +kernel) (by rw [requestOf, history_hasty]; decide +kernel)
  refine ⟨by decide +kernel, rfl, rfl, _, congrArg Prod.fst hrun, history_hasty, fun h => ?_⟩
  have hlast := h.last
  rw [requestOf, history_hasty] at hlast
  exact absurd hlast (by decide)

end Scenario

end ChatCore.Services.Histories
