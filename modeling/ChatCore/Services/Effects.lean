import ChatCore.Relational.Alone
import ChatCore.Services.Writes

namespace ChatCore.Services

open Protocol Relational Database RunWorker

variable (server : Deployment) (db : Tables)

def Sequenced : Prop := ∀ m ∈ db.messages, 1 ≤ m.sequence

section Status

variable (run : AgentRun) (runId : Id) (code : String) (now : Timestamp) (options : RunWorker.Options)

lemma run_complete : (complete runId now).run db =
    (.ok (), { db with agentRuns := db.agentRuns.update (isRun runId) (markCompleted now) fun _ => rfl }) :=
  Program.run_of_exec (Program.exec_transaction_ok
    (Program.exec_bind_ok (agentRuns.exec_updateTable_ok fun _ _ _ => rfl)))

lemma run_fail : (fail runId code now).run db = (.ok (), { db with
    agentRuns := db.agentRuns.update (isRun runId) (markFailed code now) fun _ => rfl
    handoffs := db.handoffs.update (fun h => decide (h.runId = runId) &&
      !(decide (h.status = .completed) || decide (h.status = .failed))) (failHandoff now) fun _ => rfl }) :=
  Program.run_of_exec (Program.exec_transaction_ok
    ((Program.exec_bind_ok (agentRuns.exec_updateTable_ok fun _ _ _ => rfl)).trans
      (Program.exec_bind_ok (handoffs.exec_updateTable_ok fun _ _ _ => rfl))))

variable {db}

lemma check_message {m : Message} (h : 1 ≤ m.sequence) : messages.check m = none := by
  simp [messages, failing, h]

lemma run_cancel (h : Sequenced db) : (cancel run now).run db = (.ok (), { db with
    agentRuns := db.agentRuns.update (isRun run.runId) (markCancelled now) fun _ => rfl
    messages := db.messages.update (fun m => decide (m.messageId = run.assistantMessageId) &&
      (decide (m.status = .pending) || decide (m.status = .streaming))) (cancelMessage now) fun _ => rfl }) :=
  Program.run_of_exec (Program.exec_transaction_ok
    ((Program.exec_bind_ok (agentRuns.exec_updateTable_ok fun _ _ _ => rfl)).trans
      (Program.exec_bind_ok (messages.exec_updateTable_ok fun m hm _ => check_message (h m hm)))))

variable {runId} {r : AgentRun}

lemma matching_run (q : AgentRun → Bool) : agentRuns.matching (fun r => isRun runId r && q r) db =
    ((db.agentRuns.find? runId).filter q).toList := db.agentRuns.filter_key_and runId q

lemma run_waitForInput_running (hr : db.agentRuns.find? runId = some r) (hs : r.status = .running) :
    (waitForInput runId now).run db = (.ok (), { db with
      agentRuns := db.agentRuns.update (fun r => isRun runId r && decide (r.status = .running)) (markWaiting now)
        fun _ => rfl }) := by
  refine (Program.run_bind (Program.exec_transaction_ok (agentRuns.exec_updateTable_ok fun _ _ _ => rfl))).trans ?_
  rw [matching_run, hr]
  simp only [Option.filter, hs, decide_true, if_true, Option.toList_some, List.map_cons, List.map_nil,
    List.length_singleton, ne_eq, not_true_eq_false, if_false]
  rfl

lemma update_runs_eq {q : AgentRun → Bool} {f : AgentRun → AgentRun} {hf : ∀ r, (f r).runId = r.runId}
    (h : ∀ r, db.agentRuns.find? runId = some r → q r = false) :
    { db with agentRuns := db.agentRuns.update (fun r => isRun runId r && q r) f hf } = db := by
  have hsame : db.agentRuns.update (fun r => isRun runId r && q r) f hf = db.agentRuns := by
    refine Table.update_of_not fun r hr => ?_
    by_cases hk : r.runId = runId
    · simp [isRun, hk, h r (Table.find?_eq_some.mpr ⟨hr, hk⟩)]
    · simp [isRun, hk]
  rw [hsame]

lemma run_waitForInput_error (h : ∀ r, db.agentRuns.find? runId = some r → r.status ≠ .running) :
    ∃ e, (waitForInput runId now).run db = (.error e, db) := by
  have hq : ∀ r, db.agentRuns.find? runId = some r → decide (r.status = .running) = false :=
    fun r hr => decide_eq_false (h r hr)
  refine ⟨.error "Run cannot wait for input.", (Program.run_bind (Program.exec_transaction_ok
    (agentRuns.exec_updateTable_ok fun _ _ _ => rfl))).trans ?_⟩
  have hnone : (db.agentRuns.find? runId).filter (fun r => decide (r.status = .running)) = none :=
    Option.filter_eq_none_iff.mpr fun r hr => by simp [hq r hr]
  rw [matching_run, hnone]
  have hsame : { db with
      agentRuns := db.agentRuns.update (fun r => isRun runId r && decide (r.status = .running)) (markWaiting now)
        fun _ => rfl } = db := update_runs_eq hq
  exact Prod.ext rfl hsame

lemma renews (r : AgentRun) :
    (isRun run.runId r && decide (r.status = .running) && decide (r.attempt = run.attempt)) =
    (isRun run.runId r && (decide (r.status = .running) && decide (r.attempt = run.attempt))) :=
  Bool.and_assoc _ _ _

lemma run_renewLease_held (hr : db.agentRuns.find? run.runId = some r) (hs : r.status = .running)
    (ha : r.attempt = run.attempt) : (renewLease options run now).run db = (.ok true, { db with
      agentRuns := db.agentRuns.update (fun r => isRun run.runId r && (decide (r.status = .running) &&
        decide (r.attempt = run.attempt))) (extendLease options now) fun _ => rfl }) := by
  rw [renewLease, funext (renews run)]
  refine (Program.run_bind (Program.exec_transaction_ok (agentRuns.exec_updateTable_ok fun _ _ _ => rfl))).trans ?_
  rw [matching_run, hr]
  simp only [Option.filter, hs, ha, decide_true, Bool.and_self, if_true, Option.toList_some,
    List.map_cons, List.map_nil,
    List.length_singleton]
  rfl

lemma run_renewLease_lost (h : ∀ r, db.agentRuns.find? run.runId = some r → ¬ (r.status = .running ∧
    r.attempt = run.attempt)) : (renewLease options run now).run db = (.ok false, db) := by
  have hq : ∀ r, db.agentRuns.find? run.runId = some r →
      (decide (r.status = .running) && decide (r.attempt = run.attempt)) = false := by
    intro r hr
    rw [← Bool.not_eq_true, Bool.and_eq_true, decide_eq_true_eq, decide_eq_true_eq]
    exact h r hr
  rw [renewLease, funext (renews run)]
  refine (Program.run_bind (Program.exec_transaction_ok (agentRuns.exec_updateTable_ok fun _ _ _ => rfl))).trans ?_
  have hnone : (db.agentRuns.find? run.runId).filter
      (fun r => decide (r.status = .running) && decide (r.attempt = run.attempt)) = none :=
    Option.filter_eq_none_iff.mpr fun r hr => by simp [hq r hr]
  rw [matching_run, hnone]
  have hsame : { db with
      agentRuns := db.agentRuns.update (fun r => isRun run.runId r && (decide (r.status = .running) &&
        decide (r.attempt = run.attempt))) (extendLease options now) fun _ => rfl } = db := update_runs_eq hq
  exact Prod.ext rfl hsame

lemma run_isCancellationRequested : (isCancellationRequested runId).run db = match db.agentRuns.find? runId with
    | some r => (.ok (decide (r.status = .cancelRequested) || decide (r.status = .cancelled)), db)
    | none => (.error .noResult, db) := by
  have hmatching : agentRuns.matching (isRun runId) db = (db.agentRuns.find? runId).toList :=
    db.agentRuns.filter_key runId
  rw [isCancellationRequested, Program.run, Program.exec_bind, Relation.exec_selectFirstOrThrow, hmatching]
  cases db.agentRuns.find? runId <;> rfl

lemma run_claim (order : Arrangement AgentRun) : (claim options order now).run db = (.ok none, db) ∨
    ∃ candidate ∈ db.agentRuns, claimable options now candidate = true ∧ (claim options order now).run db =
      (.ok (some (startAttempt options now candidate)), { db with
        agentRuns := db.agentRuns.update (isRun candidate.runId) (startAttempt options now) fun _ => rfl }) := by
  cases hc : (order.sorted claimOrder (agentRuns.matching (claimable options now) db)).head? with
  | none =>
    refine Or.inl (Program.run_of_exec (Program.exec_transaction_ok
      ((Program.exec_bind_ok (agentRuns.exec_skipLocked _ _ _)).trans ?_)))
    rw [hc]
    rfl
  | some candidate =>
    obtain ⟨hm, hq⟩ := List.mem_filter.mp (Arrangement.mem_sorted.mp (List.mem_of_head? hc))
    refine Or.inr ⟨candidate, hm, hq, Program.run_of_exec (Program.exec_transaction_ok
      ((Program.exec_bind_ok (agentRuns.exec_skipLocked _ _ _)).trans ?_))⟩
    rw [hc]
    refine (Program.exec_bind_ok (agentRuns.exec_updateTable_ok fun _ _ _ => rfl)).trans ?_
    have hmatching : agentRuns.matching (isRun candidate.runId) db = [candidate] := by
      have hfind : db.agentRuns.find? candidate.runId = some candidate := Table.find?_key hm
      have hkey := db.agentRuns.filter_key candidate.runId
      rw [hfind] at hkey
      exact hkey
    rw [show agentRuns.matching (fun r => decide (r.runId = candidate.runId)) db = [candidate] from hmatching]
    rfl

end Status

section Events

variable (scope : Scope) (event : ConnectorEvent) (eventId : Id) (time : Timestamp) (retentionMaxEvents : ℕ)

def numbered (db : Tables) : Tables :=
  conversations.put db ((conversations.get db).update (inConversation scope event.conversationId)
    EventStore.takeEventSequence EventStore.takeEventSequence_conversationId)

def appendTo (sequence : ℕ) (db : Tables) : Tables :=
  conversationEvents.put (numbered scope event db)
    ((db.conversationEvents.insert (EventStore.newEvent scope event sequence eventId time)).delete
      (EventStore.isPruned scope event.conversationId ((sequence : Int) - retentionMaxEvents)))

lemma run_append (db : Tables) :
    (∃ e, (EventStore.append retentionMaxEvents scope event eventId time).run db = (.error e, db)) ∨
    ∃ c ∈ db.conversations, inConversation scope event.conversationId c = true ∧
      conversationEvents.broken (numbered scope event db)
        (EventStore.newEvent scope event c.nextEventSequence eventId time) = none ∧
      (EventStore.append retentionMaxEvents scope event eventId time).run db =
        (.ok ⟨event, eventId, c.nextEventSequence, toISOString time⟩,
          appendTo scope event eventId time retentionMaxEvents c.nextEventSequence db) := by
  have hupdate : (conversations.updateTable (inConversation scope event.conversationId)
    EventStore.takeEventSequence
      (fun _ => rfl) : Query _).exec db db = _ := conversations.exec_updateTable_ok fun _ _ _ => rfl
  cases hrows : conversations.matching (inConversation scope event.conversationId) db with
  | nil =>
    refine Or.inl ⟨conversationNotFound, Program.run_of_exec (Program.exec_transaction_error
      ((Program.exec_bind_ok hupdate).trans ?_))⟩
    rw [hrows]
    rfl
  | cons c rows =>
    have hc : c ∈ conversations.matching (inConversation scope event.conversationId) db :=
      hrows ▸ List.mem_cons_self ..
    obtain ⟨hm, hin⟩ := List.mem_filter.mp hc
    cases hstorable : event.isStorable
    · refine Or.inl ⟨.error "unsupported Unicode escape sequence",
        Program.run_of_exec (Program.exec_transaction_error
        ((Program.exec_bind_ok hupdate).trans ?_))⟩
      rw [hrows, hstorable]
      rfl
    have hinsert := conversationEvents.exec_insertInto (ε := ServerError)
      (EventStore.newEvent scope event c.nextEventSequence eventId time) db (numbered scope event db)
    cases hb : conversationEvents.broken (numbered scope event db)
        (EventStore.newEvent scope event c.nextEventSequence eventId time) with
    | some name =>
      rw [hb] at hinsert
      refine Or.inl ⟨.constraint name, Program.run_of_exec (Program.exec_transaction_error
        ((Program.exec_bind_ok hupdate).trans ?_))⟩
      rw [hrows, hstorable]
      exact (Program.exec_bind_ok (exec_storing_true _ _)).trans (Program.exec_bind_error hinsert)
    | none =>
      rw [hb] at hinsert
      refine Or.inr ⟨c, hm, hin, hb, Program.run_of_exec (Program.exec_transaction_ok
        ((Program.exec_bind_ok hupdate).trans ?_))⟩
      rw [hrows, hstorable]
      refine (Program.exec_bind_ok (exec_storing_true _ _)).trans ((Program.exec_bind_ok hinsert).trans ?_)
      exact Program.exec_bind_ok (conversationEvents.exec_deleteFrom _ _ _)

end Events

section Materialize

variable (run : AgentRun) (now : Timestamp) (participantId : Id)

inductive Materialized : EventBody → Tables → Tables → Prop
  | resumed {db : Tables} (m : Message) (hm : db.messages.find? run.assistantMessageId = some m) :
      Materialized .messageStarted db db
  | started {db : Tables} (sequence : ℕ) (hs : 1 ≤ sequence) (hm : db.messages.find? run.assistantMessageId = none)
      (hc : ∃ c ∈ db.conversations, ofConversation run c.tenantId c.siteId c.conversationId = true) :
      Materialized .messageStarted db (messages.put
        (conversations.put db
          (db.conversations.update (fun c => ofConversation run c.tenantId c.siteId c.conversationId)
          (MessageService.takeMessageSequence now) fun _ => rfl))
        (db.messages.insert (newAssistant run now participantId sequence)))
  | completed {db : Tables} (parts : List ContentPart) (m : Message)
      (hm : db.messages.find? run.assistantMessageId = some m)
      (hc : ofConversation run m.tenantId m.siteId m.conversationId = true) :
      Materialized (.messageCompleted parts) db (messages.put db (db.messages.update
        (fun m => ofConversation run m.tenantId m.siteId m.conversationId &&
          decide (m.messageId = run.assistantMessageId)) (finishMessage now parts) fun _ => rfl))
  | requestedAgain {db : Tables} (h : Handoff) (hh : db.handoffs.find? h.handoffId = some h)
      (hr : h.runId = run.runId) :
      Materialized (.handoffRequested h.handoffId) db db
  | requested {db : Tables} (handoffId : Id) (hh : handoffs.broken db (newHandoff run now handoffId) = none) :
      Materialized (.handoffRequested handoffId) db
        (handoffs.put db (db.handoffs.insert (newHandoff run now handoffId)))
  | askedAgain {db : Tables} (i : StructuredInputRequest) (prompt : String) (required : Bool) (h : Handoff)
      (hi : db.structuredInputRequests.find? i.requestId = some i) (hr : i.runId = run.runId)
      (hh : h ∈ db.handoffs) (hrun : h.runId = run.runId) :
      Materialized (.contactRequested i.requestId prompt required) db (handoffs.put db
        (db.handoffs.update (fun s => decide (s.handoffId = h.handoffId)) (awaitContact now) fun _ => rfl))
  | asked {db : Tables} (requestId : Id) (prompt : String) (required : Bool) (h : Handoff)
      (hi : structuredInputRequests.broken db (newInput run now requestId prompt required) = none)
      (hh : h ∈ db.handoffs) (hrun : h.runId = run.runId) :
      Materialized (.contactRequested requestId prompt required) db (handoffs.put
        (structuredInputRequests.put db
          (db.structuredInputRequests.insert (newInput run now requestId prompt required)))
        (db.handoffs.update (fun s => decide (s.handoffId = h.handoffId)) (awaitContact now) fun _ => rfl))
  | finished {db : Tables} (handoffId : Id) (h : Handoff) (hh : db.handoffs.find? handoffId = some h)
      (hc : ofConversation run h.tenantId h.siteId h.conversationId = true) (hr : h.runId = run.runId) :
      Materialized (.handoffCompleted handoffId) db (handoffs.put db (db.handoffs.update (fun h =>
        ofConversation run h.tenantId h.siteId h.conversationId && decide (h.runId = run.runId) &&
          decide (h.handoffId = handoffId)) (finishHandoff now) fun _ => rfl))
  | nothing {db : Tables} (body : EventBody) (hb : body ≠ .messageStarted)
      (hb' : ∀ parts, body ≠ .messageCompleted parts)
      (hh : ∀ id, body ≠ .handoffRequested id ∧ body ≠ .handoffCompleted id)
      (hi : ∀ id prompt required, body ≠ .contactRequested id prompt required) : Materialized body db db

variable {run now participantId} {db : Tables}

lemma run_startMessage : (∃ e, (startMessage run now participantId).run db = (.error e, db)) ∨
    ∃ after, Materialized run now participantId .messageStarted db after ∧
      (startMessage run now participantId).run db = (.ok (), after) := by
  have hmatching : messages.matching (fun m => decide (m.messageId = run.assistantMessageId)) db =
      (db.messages.find? run.assistantMessageId).toList := db.messages.filter_key _
  have hselect := messages.exec_selectFirst (ε := ServerError)
    (fun m => decide (m.messageId = run.assistantMessageId)) db db
  rw [hmatching] at hselect
  cases hm : db.messages.find? run.assistantMessageId with
  | some m =>
    rw [hm] at hselect
    exact Or.inr ⟨db, .resumed m hm,
      Program.run_of_exec (Program.exec_transaction_ok (Program.exec_bind_ok hselect))⟩
  | none =>
    rw [hm] at hselect
    have hupdate : (conversations.updateTable (fun c => ofConversation run c.tenantId c.siteId c.conversationId)
        (MessageService.takeMessageSequence now) (fun _ => rfl) : Query _).exec db db = _ :=
      conversations.exec_updateTable_ok fun _ _ _ => rfl
    cases hrows : conversations.matching (fun c => ofConversation run c.tenantId c.siteId c.conversationId) db with
    | nil =>
      refine Or.inl ⟨.noResult, Program.run_of_exec (Program.exec_transaction_error
        ((Program.exec_bind_ok hselect).trans ((Program.exec_bind_ok hupdate).trans ?_)))⟩
      rw [hrows]
      rfl
    | cons c rows =>
      have hc : c ∈ conversations.matching (fun c => ofConversation run c.tenantId c.siteId c.conversationId) db :=
        hrows ▸ List.mem_cons_self ..
      obtain ⟨hcm, hin⟩ := List.mem_filter.mp hc
      have hinsert := messages.exec_insertInto (ε := ServerError)
        (newAssistant run now participantId c.nextMessageSequence) db (conversations.put db
          (db.conversations.update (fun c => ofConversation run c.tenantId c.siteId c.conversationId)
            (MessageService.takeMessageSequence now) fun _ => rfl))
      cases hb : messages.broken (conversations.put db (db.conversations.update
          (fun c => ofConversation run c.tenantId c.siteId c.conversationId)
            (MessageService.takeMessageSequence now)
          fun _ => rfl)) (newAssistant run now participantId c.nextMessageSequence) with
      | some name =>
        rw [hb] at hinsert
        refine Or.inl ⟨.constraint name, Program.run_of_exec (Program.exec_transaction_error
          ((Program.exec_bind_ok hselect).trans ((Program.exec_bind_ok hupdate).trans ?_)))⟩
        rw [hrows]
        exact hinsert
      | none =>
        rw [hb] at hinsert
        have hs : 1 ≤ c.nextMessageSequence := by
          have hcheck := (messages.broken_eq_none.mp hb).1
          exact Nat.one_le_iff_ne_zero.mpr (by simpa [messages, failing, newAssistant] using hcheck)
        refine Or.inr ⟨_, .started c.nextMessageSequence hs hm ⟨c, hcm, hin⟩, Program.run_of_exec
          (Program.exec_transaction_ok
            ((Program.exec_bind_ok hselect).trans ((Program.exec_bind_ok hupdate).trans ?_)))⟩
        rw [hrows]
        exact hinsert

lemma run_completeMessage (hs : Sequenced db) (parts : List ContentPart) :
    (∃ e, (completeMessage run now parts).run db = (.error e, db)) ∨
    ∃ after, Materialized run now participantId (.messageCompleted parts) db after ∧
      (completeMessage run now parts).run db = (.ok (), after) := by
  have hupdate : (messages.updateTable (fun m => ofConversation run m.tenantId m.siteId m.conversationId &&
      decide (m.messageId = run.assistantMessageId)) (finishMessage now parts) (fun _ => rfl) : Query _).exec db
        db = _ :=
    messages.exec_updateTable_ok fun m hm _ => check_message (hs m hm)
  have hmatching : messages.matching (fun m => ofConversation run m.tenantId m.siteId m.conversationId &&
      decide (m.messageId = run.assistantMessageId)) db = ((db.messages.find? run.assistantMessageId).filter
        fun m => ofConversation run m.tenantId m.siteId m.conversationId).toList := by
    rw [← db.messages.filter_key_and]
    exact List.filter_congr fun m _ => Bool.and_comm _ _
  have hrun := Program.run_bind (f := fun result : List Message => if result.length ≠ 1 then
    .throw (.error "Assistant message was not started.") else Pure.pure ()) (Program.exec_transaction_ok hupdate)
  rw [hmatching] at hrun
  cases hfind : (db.messages.find? run.assistantMessageId).filter
      (fun m => ofConversation run m.tenantId m.siteId m.conversationId) with
  | some m =>
    obtain ⟨hm, hc⟩ := Option.filter_eq_some_iff.mp hfind
    rw [hfind] at hrun
    exact Or.inr ⟨_, .completed parts m hm hc, hrun⟩
  | none =>
    rw [hfind] at hrun
    refine Or.inl ⟨.error "Assistant message was not started.", hrun.trans ?_⟩
    have hsame : db.messages.update (fun m => ofConversation run m.tenantId m.siteId m.conversationId &&
        decide (m.messageId = run.assistantMessageId)) (finishMessage now parts) (fun _ => rfl) = db.messages := by
      refine Table.update_of_not fun m hm => ?_
      by_cases hk : m.messageId = run.assistantMessageId
      · have hc := Option.filter_eq_none_iff.mp hfind m (Table.find?_eq_some.mpr ⟨hm, hk⟩)
        simp [hk, hc]
      · simp [hk]
    exact Prod.ext rfl (congrArg (messages.put db) hsame)

lemma run_requestHandoff (handoffId : Id) :
    (∃ e, (requestHandoff run now handoffId).run db = (.error e, db)) ∨
    ∃ after, Materialized run now participantId (.handoffRequested handoffId) db after ∧
      (requestHandoff run now handoffId).run db = (.ok (), after) := by
  cases hf : db.handoffs.find? handoffId with
  | some h =>
    obtain ⟨-, rfl⟩ := Table.find?_eq_some.mp hf
    have hrun : (requestHandoff run now h.handoffId).run db = Program.run (if h.runId ≠ run.runId then
        .throw (.error "Handoff ID belongs to another run.") else Pure.pure () : Query Unit) db :=
      (Program.run_bind (Program.exec_transaction_ok (Relation.exec_insertOrIgnore_present hf))).trans
        (Program.run_bind (Relation.exec_selectFirstOrThrow_key (t := handoffs) hf))
    by_cases hr : h.runId = run.runId
    · rw [if_neg (not_not.mpr hr)] at hrun
      exact Or.inr ⟨db, .requestedAgain h hf hr, hrun⟩
    · rw [if_pos hr] at hrun
      exact Or.inl ⟨_, hrun⟩
  | none =>
    cases hb : handoffs.broken db (newHandoff run now handoffId) with
    | some name =>
      exact Or.inl ⟨.constraint name, Program.run_of_exec (Program.exec_bind_error
        (Program.exec_transaction_error (Relation.exec_insertOrIgnore_broken hf hb)))⟩
    | none =>
      have hfind : (db.handoffs.insert (newHandoff run now handoffId)).find? handoffId =
          some (newHandoff run now handoffId) := Table.find?_insert_self hf
      refine Or.inr ⟨_, .requested handoffId hb, (Program.run_bind (Program.exec_transaction_ok
        (Relation.exec_insertOrIgnore_ok hb))).trans ((Program.run_bind
          (Relation.exec_selectFirstOrThrow_key (t := handoffs) (k := handoffId)
            (v := handoffs.put db (db.handoffs.insert (newHandoff run now handoffId))) hfind)).trans ?_)⟩
      exact congrArg (fun p : Query Unit => p.run _) (if_neg (not_not.mpr rfl))

lemma exec_awaitContact {h : Handoff} {c v : Tables} :
    (do
      let _ ← handoffs.updateTable (fun s => decide (s.handoffId = h.handoffId)) (awaitContact now) (fun _ => rfl) :
      Query Unit).exec c v = (.ok (), c, handoffs.put v
        (v.handoffs.update (fun s => decide (s.handoffId = h.handoffId)) (awaitContact now) fun _ => rfl)) :=
  Program.exec_bind_ok (handoffs.exec_updateTable_ok fun _ _ _ => rfl)

lemma run_requestContact (requestId : Id) (prompt : String) (required : Bool) :
    (∃ e, (requestContact run now requestId prompt required).run db = (.error e, db)) ∨
    ∃ after, Materialized run now participantId (.contactRequested requestId prompt required) db after ∧
      (requestContact run now requestId prompt required).run db = (.ok (), after) := by
  cases hrows : handoffs.matching (fun h => decide (h.runId = run.runId)) db with
  | nil =>
    have hselect :
        (handoffs.selectFirstOrThrow (fun h => decide (h.runId = run.runId)) : Query Handoff).exec db db =
        (.error .noResult, db, db) := by
      rw [Relation.exec_selectFirstOrThrow, hrows]
      rfl
    exact Or.inl ⟨_, Program.run_of_exec (Program.exec_transaction_error (Program.exec_bind_error hselect))⟩
  | cons h rows =>
    have hh : h ∈ handoffs.matching (fun h => decide (h.runId = run.runId)) db := hrows ▸ List.mem_cons_self ..
    obtain ⟨hm, hrun⟩ := List.mem_filter.mp hh
    have hselect :
        (handoffs.selectFirstOrThrow (fun h => decide (h.runId = run.runId)) : Query Handoff).exec db db =
        (.ok h, db, db) := by
      rw [Relation.exec_selectFirstOrThrow, hrows]
      rfl
    cases hf : db.structuredInputRequests.find? requestId with
    | some i =>
      obtain ⟨-, rfl⟩ := Table.find?_eq_some.mp hf
      have hexec : ∀ q : StructuredInputRequest → Query Unit, (do
          structuredInputRequests.insertOrIgnore (newInput run now i.requestId prompt required)
          let input ← structuredInputRequests.selectFirstOrThrow (fun r => decide (r.requestId = i.requestId))
          q input : Query Unit).exec db db = (q i).exec db db := fun q =>
        (Program.exec_bind_ok (Relation.exec_insertOrIgnore_present hf)).trans
          (Program.exec_bind_ok (Relation.exec_selectFirstOrThrow_key (t := structuredInputRequests) hf))
      by_cases hr : i.runId = run.runId
      · refine Or.inr ⟨_, .askedAgain i prompt required h hf hr hm (of_decide_eq_true hrun),
          Program.run_of_exec
            (Program.exec_transaction_ok ((Program.exec_bind_ok hselect).trans ((hexec _).trans ?_)))⟩
        rw [if_neg (not_not.mpr hr)]
        exact exec_awaitContact
      · refine Or.inl ⟨.error "Input request ID belongs to another run.", Program.run_of_exec
          (Program.exec_transaction_error ((Program.exec_bind_ok hselect).trans ((hexec _).trans ?_)))⟩
        rw [if_pos hr]
        rfl
    | none =>
      cases hb : structuredInputRequests.broken db (newInput run now requestId prompt required) with
      | some name =>
        exact Or.inl ⟨.constraint name, Program.run_of_exec (Program.exec_transaction_error
          ((Program.exec_bind_ok hselect).trans
            (Program.exec_bind_error (Relation.exec_insertOrIgnore_broken hf hb))))⟩
      | none =>
        have hfind : (db.structuredInputRequests.insert (newInput run now requestId prompt required)).find?
          requestId =
            some (newInput run now requestId prompt required) := Table.find?_insert_self hf
        refine Or.inr ⟨_, .asked requestId prompt required h hb hm (of_decide_eq_true hrun),
          Program.run_of_exec (Program.exec_transaction_ok ((Program.exec_bind_ok hselect).trans
            ((Program.exec_bind_ok (Relation.exec_insertOrIgnore_ok hb)).trans
              ((Program.exec_bind_ok (Relation.exec_selectFirstOrThrow_key (t := structuredInputRequests)
                (k := requestId) (v := structuredInputRequests.put db (db.structuredInputRequests.insert
                  (newInput run now requestId prompt required))) hfind)).trans ?_))))⟩
        refine (congrArg (fun p : Query Unit => p.exec _ _) (if_neg (not_not.mpr rfl))).trans ?_
        exact exec_awaitContact

lemma run_completeHandoff (handoffId : Id) :
    (∃ e, (completeHandoff run now handoffId).run db = (.error e, db)) ∨
    ∃ after, Materialized run now participantId (.handoffCompleted handoffId) db after ∧
      (completeHandoff run now handoffId).run db = (.ok (), after) := by
  have hmatching : handoffs.matching (fun h => ofConversation run h.tenantId h.siteId h.conversationId &&
      decide (h.runId = run.runId) && decide (h.handoffId = handoffId)) db = ((db.handoffs.find? handoffId).filter
        fun h => ofConversation run h.tenantId h.siteId h.conversationId &&
          decide (h.runId = run.runId)).toList := by
    rw [← db.handoffs.filter_key_and]
    exact List.filter_congr fun h _ => Bool.and_comm _ _
  have hrun : (completeHandoff run now handoffId).run db =
    Program.run (if (List.map (finishHandoff now) _).length ≠ 1 then
      .throw (.error "Handoff was not requested.") else Pure.pure () : Query Unit) _ :=
    Program.run_bind (Program.exec_transaction_ok (handoffs.exec_updateTable_ok fun _ _ _ => rfl))
  rw [hmatching] at hrun
  cases hfind : (db.handoffs.find? handoffId).filter
      (fun h => ofConversation run h.tenantId h.siteId h.conversationId && decide (h.runId = run.runId)) with
  | some h =>
    obtain ⟨hh, hc⟩ := Option.filter_eq_some_iff.mp hfind
    rw [Bool.and_eq_true, decide_eq_true_eq] at hc
    rw [hfind] at hrun
    exact Or.inr ⟨_, .finished handoffId h hh hc.1 hc.2, hrun⟩
  | none =>
    rw [hfind] at hrun
    refine Or.inl ⟨.error "Handoff was not requested.", hrun.trans ?_⟩
    have hsame : db.handoffs.update (fun h => ofConversation run h.tenantId h.siteId h.conversationId &&
        decide (h.runId = run.runId) && decide (h.handoffId = handoffId)) (finishHandoff now) (fun _ => rfl) =
          db.handoffs := by
      refine Table.update_of_not fun h hm => ?_
      by_cases hk : h.handoffId = handoffId
      · have hc := Option.filter_eq_none_iff.mp hfind h (Table.find?_eq_some.mpr ⟨hm, hk⟩)
        simpa [hk] using hc
      · simp [hk]
    exact Prod.ext rfl (congrArg (handoffs.put db) hsame)

theorem run_materialize (hs : Sequenced db) (event : ConnectorEvent) :
    (∃ e, (materialize run now participantId event).run db = (.error e, db)) ∨
    ∃ after, Materialized run now participantId event.body db after ∧
      (materialize run now participantId event).run db = (.ok (), after) := by
  rw [materialize]
  cases hb : event.body
  case messageStarted => exact run_startMessage
  case messageCompleted parts =>
    cases event.isStorable
    · exact Or.inl ⟨_, rfl⟩
    · exact run_completeMessage hs parts
  case handoffRequested handoffId => exact run_requestHandoff handoffId
  case contactRequested requestId prompt required =>
    simp only
    cases !hasNul prompt
    · exact Or.inl ⟨_, rfl⟩
    · exact run_requestContact requestId prompt required
  case handoffCompleted handoffId => exact run_completeHandoff handoffId
  all_goals exact Or.inr ⟨db, .nothing _ nofun nofun (fun _ => ⟨nofun, nofun⟩) nofun, rfl⟩

end Materialize

end ChatCore.Services
