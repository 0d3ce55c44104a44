import ChatCore.Relational.Alone
import ChatCore.Retention.Progress

namespace ChatCore.Retention

open Protocol Relational Database Services RetentionService

section Cascades

variable {committed db : Tables}

def withoutInputs (p : StructuredInputRequest → Bool) (db : Tables) : Tables :=
  { db with structuredInputRequests := db.structuredInputRequests.delete p }

def withoutHandoffs (p : Handoff → Bool) (db : Tables) : Tables := { db with handoffs := db.handoffs.delete p }

def withoutEvents (p : ConversationEvent → Bool) (db : Tables) : Tables :=
  { db with conversationEvents := db.conversationEvents.delete p }

def withoutRuns (p : AgentRun → Bool) (db : Tables) : Tables :=
  { db with
    agentRuns := db.agentRuns.delete p
    handoffs := db.handoffs.delete fun h => (agentRuns.matching p db).any fun r => decide (r.runId = h.runId)
    structuredInputRequests := db.structuredInputRequests.delete fun i =>
      (agentRuns.matching p db).any fun r => decide (r.runId = i.runId) }

def withoutMessages (p : Message → Bool) (db : Tables) : Tables :=
  withoutRuns (fun r => (messages.matching p db).any fun m => decide (m.messageId = r.triggerMessageId))
    { db with messages := db.messages.delete p }

def withoutParticipants (p : ConversationParticipant → Bool) (db : Tables) : Tables :=
  { db with conversationParticipants := db.conversationParticipants.delete p }

def withoutConversations (p : Conversation → Bool) (db : Tables) : Tables :=
  let rows := conversations.matching p db
  withoutParticipants (fun r => rows.any fun c => sameConversation c r.tenantId r.siteId r.conversationId)
    (withoutRuns (fun r => rows.any fun c => sameConversation c r.tenantId r.siteId r.conversationId)
      { db with
        conversations := db.conversations.delete p
        conversationEvents := db.conversationEvents.delete fun e =>
          rows.any fun c => sameConversation c e.tenantId e.siteId e.conversationId })

lemma exec_deleteAgentRuns (p : AgentRun → Bool) :
    (deleteAgentRuns p).exec committed db = (.ok (), committed, withoutRuns p db) := by
  simp only [deleteAgentRuns, Program.exec_bind, Relation.exec_deleteFrom, Program.exec_pure]
  rfl

lemma exec_deleteMessages (p : Message → Bool) :
    (RetentionService.deleteMessages p).exec committed db = (.ok (), committed, withoutMessages p db) := by
  simp only [RetentionService.deleteMessages, Program.exec_bind, Relation.exec_deleteFrom, exec_deleteAgentRuns]
  rfl

lemma exec_restrict {name : String} {referring : Tables → Bool} (h : referring db = false) :
    (restrict name referring).exec committed db = (.ok (), committed, db) := by
  have hselect : (Program.select referring : Query Bool).exec committed db = (.ok false, committed, db) :=
    congrArg (fun b => (Except.ok b, committed, db)) h
  exact (Program.exec_bind_ok hselect).trans rfl

lemma exec_deleteConversationParticipants {p : ConversationParticipant → Bool}
    (h : ∀ m ∈ db.messages, ∀ r ∈ db.conversationParticipants, p r = true →
      (r.tenantId, r.siteId, r.conversationId, r.participantId) ≠
        (m.tenantId, m.siteId, m.conversationId, m.participantId)) :
    (deleteConversationParticipants p).exec committed db = (.ok (), committed, withoutParticipants p db) := by
  refine (Program.exec_bind_ok (Relation.exec_deleteFrom _ p committed db)).trans ?_
  refine exec_restrict (List.any_eq_false.mpr fun m hm hany => ?_)
  obtain ⟨r, hr, he⟩ := List.any_eq_true.mp hany
  obtain ⟨hr, hp⟩ := List.mem_filter.mp hr
  exact h m hm r hr hp (of_decide_eq_true he)

end Cascades

section Conversations

variable {committed db : Tables} {c : Conversation}

def emptiedOf (c : Conversation) (db : Tables) : Tables :=
  withoutParticipants (fun p => sameConversation c p.tenantId p.siteId p.conversationId)
    (withoutMessages (fun m => sameConversation c m.tenantId m.siteId m.conversationId)
      (withoutEvents (fun e => sameConversation c e.tenantId e.siteId e.conversationId)
        (withoutRuns (fun r => sameConversation c r.tenantId r.siteId r.conversationId)
          (withoutHandoffs (fun h => sameConversation c h.tenantId h.siteId h.conversationId)
            (withoutInputs (fun i => sameConversation c i.tenantId i.siteId i.conversationId) db)))))

def purge (c : Conversation) (db : Tables) : Tables :=
  withoutConversations (fun d => sameConversation c d.tenantId d.siteId d.conversationId) (emptiedOf c db)

lemma sameConversation_iff {tenantId siteId conversationId : Id} :
    sameConversation c tenantId siteId conversationId = true ↔
      tenantId = c.tenantId ∧ siteId = c.siteId ∧ conversationId = c.conversationId := by
  simp [sameConversation, and_assoc]

lemma not_referred {m : Message} {r : ConversationParticipant}
    (hm : sameConversation c m.tenantId m.siteId m.conversationId = false)
    (hr : sameConversation c r.tenantId r.siteId r.conversationId = true) :
    (r.tenantId, r.siteId, r.conversationId, r.participantId) ≠
      (m.tenantId, m.siteId, m.conversationId, m.participantId) := by
  intro he
  simp only [Prod.mk.injEq] at he
  rw [← he.1, ← he.2.1, ← he.2.2.1, hr] at hm
  cases hm

lemma same_of_same {d : Conversation} {tenantId siteId conversationId : Id}
    (hd : sameConversation c d.tenantId d.siteId d.conversationId = true)
    (h : sameConversation d tenantId siteId conversationId = true) :
    sameConversation c tenantId siteId conversationId = true := by
  rw [sameConversation_iff] at hd h ⊢
  exact ⟨h.1.trans hd.1, h.2.1.trans hd.2.1, h.2.2.trans hd.2.2⟩

lemma exec_deleteConversation (c : Conversation) :
    (RetentionService.deleteConversation c).exec committed db = (.ok (), committed, purge c db) := by
  unfold RetentionService.deleteConversation
  refine (Program.exec_bind_ok (Relation.exec_deleteFrom _ _ committed db)).trans ?_
  refine (Program.exec_bind_ok (Relation.exec_deleteFrom _ _ committed _)).trans ?_
  refine (Program.exec_bind_ok (exec_deleteAgentRuns _)).trans ?_
  refine (Program.exec_bind_ok (Relation.exec_deleteFrom _ _ committed _)).trans ?_
  refine (Program.exec_bind_ok (exec_deleteMessages _)).trans ?_
  refine (Program.exec_bind_ok (exec_deleteConversationParticipants fun m hm r _ hr => ?_)).trans ?_
  · exact not_referred (Table.mem_delete.mp hm).2 hr
  refine (Program.exec_bind_ok (Relation.exec_deleteFrom _ _ committed _)).trans ?_
  refine (Program.exec_bind_ok (Relation.exec_deleteFrom _ _ committed _)).trans ?_
  refine (Program.exec_bind_ok (exec_deleteAgentRuns _)).trans ?_
  refine exec_deleteConversationParticipants fun m hm r _ hr => ?_
  obtain ⟨d, hd, hsame⟩ := List.any_eq_true.mp hr
  exact not_referred (Table.mem_delete.mp hm).2 (same_of_same (List.mem_filter.mp hd).2 hsame)

lemma exec_deleteConversations (expired : List Conversation) :
    (expired.forM RetentionService.deleteConversation).exec committed db =
      (.ok (), committed, expired.foldl (fun db c => purge c db) db) := by
  induction expired generalizing db with
  | nil => rfl
  | cons c expired ih =>
    have hfirst : (RetentionService.deleteConversation c).exec committed db = (.ok (), committed, purge c db) :=
      exec_deleteConversation c
    rw [List.foldl_cons]
    exact (Program.exec_bind_ok hfirst).trans (@ih (purge c db))

structure Untouched (db db' : Tables) : Prop where
  principals : db'.principals = db.principals
  browserSessions : db'.browserSessions = db.browserSessions
  commandIdempotency : db'.commandIdempotency = db.commandIdempotency
  sessionBootstrapIdempotency : db'.sessionBootstrapIdempotency = db.sessionBootstrapIdempotency

lemma Untouched.trans {before after : Tables} (h : Untouched before db) (h' : Untouched db after) :
    Untouched before after :=
  ⟨h'.1.trans h.1, h'.2.trans h.2, h'.3.trans h.3, h'.4.trans h.4⟩

lemma withoutConversations_untouched (p : Conversation → Bool) : Untouched db (withoutConversations p db) :=
  ⟨rfl, rfl, rfl, rfl⟩

structure Within (db db' : Tables) : Prop extends Untouched db db' where
  conversations : db'.conversations = db.conversations

lemma Within.trans {before after : Tables} (h : Within before db) (h' : Within db after) : Within before after :=
  ⟨h.toUntouched.trans h'.toUntouched, h'.conversations.trans h.conversations⟩

lemma emptiedOf_within : Within db (emptiedOf c db) := by
  have hinputs : ∀ p db, Within db (withoutInputs p db) := fun _ _ => ⟨⟨rfl, rfl, rfl, rfl⟩, rfl⟩
  have hhandoffs : ∀ p db, Within db (withoutHandoffs p db) := fun _ _ => ⟨⟨rfl, rfl, rfl, rfl⟩, rfl⟩
  have hruns : ∀ p db, Within db (withoutRuns p db) := fun _ _ => ⟨⟨rfl, rfl, rfl, rfl⟩, rfl⟩
  have hevents : ∀ p db, Within db (withoutEvents p db) := fun _ _ => ⟨⟨rfl, rfl, rfl, rfl⟩, rfl⟩
  have hmessages : ∀ p db, Within db (withoutMessages p db) := fun _ _ => ⟨⟨rfl, rfl, rfl, rfl⟩, rfl⟩
  have hparticipants : ∀ p db, Within db (withoutParticipants p db) := fun _ _ => ⟨⟨rfl, rfl, rfl, rfl⟩, rfl⟩
  exact (hinputs _ _).trans ((hhandoffs _ _).trans ((hruns _ _).trans ((hevents _ _).trans
    ((hmessages _ _).trans (hparticipants _ _)))))

lemma purge_untouched : Untouched db (purge c db) :=
  emptiedOf_within.toUntouched.trans (withoutConversations_untouched _)

end Conversations

section Principals

variable {committed db : Tables} {p : Principal}

def occupied (db : Tables) (p : Principal) : Bool :=
  db.conversations.rows.any fun c => Progress.owns p c.tenantId c.siteId c.principalId

def evict (evicted : List Principal) (db : Tables) : Tables :=
  { db with
    principals := db.principals.delete fun q => evicted.any fun p =>
      Progress.owns p q.tenantId q.siteId q.principalId
    browserSessions := db.browserSessions.delete fun s =>
      evicted.any fun p => Progress.owns p s.tenantId s.siteId s.principalId }

lemma evict_nil : evict [] db = db := by
  simp only [evict, List.any_nil, Table.delete_false]

lemma evict_append {E E' : List Principal} : evict E' (evict E db) = evict (E ++ E') db := by
  simp only [evict, Table.delete_delete, List.any_append]

lemma owns_iff {tenantId siteId principalId : Id} : Progress.owns p tenantId siteId principalId = true ↔
    tenantId = p.tenantId ∧ siteId = p.siteId ∧ principalId = p.principalId := by
  simp [Progress.owns, and_assoc]

lemma decide_owns {tenantId siteId principalId : Id} :
    decide ((tenantId, siteId, principalId) = (p.tenantId, p.siteId, p.principalId)) =
      Progress.owns p tenantId siteId principalId := by
  rw [Bool.eq_iff_iff, owns_iff, decide_eq_true_iff, Prod.mk.injEq, Prod.mk.injEq]

lemma eq_of_owns {q : Principal} (hp : p ∈ db.principals) (hq : q ∈ db.principals)
    (h : Progress.owns p q.tenantId q.siteId q.principalId = true) : q = p :=
  Table.key_injective hq hp (owns_iff.mp h).2.2

lemma owns_self : Progress.owns p p.tenantId p.siteId p.principalId = true := owns_iff.mpr ⟨rfl, rfl, rfl⟩

lemma matching_owns (hp : p ∈ db.principals) :
    principals.matching (fun q => Progress.owns p q.tenantId q.siteId q.principalId) db = [p] := by
  refine List.perm_singleton.mp ((List.perm_ext_iff_of_nodup ?_ (List.nodup_singleton p)).mpr fun q => ?_)
  · exact (List.Nodup.of_map _ db.principals.keys_nodup).filter _
  · rw [Relation.matching, List.mem_filter, List.mem_singleton]
    constructor
    · rintro ⟨hq, ho⟩
      exact eq_of_owns hp hq ho
    · rintro rfl
      exact ⟨hp, owns_self⟩

lemma exec_deletePrincipal (hp : p ∈ db.principals) : (RetentionService.deletePrincipal p).exec committed db =
    (.ok (if occupied db p then 0 else 1), committed, if occupied db p then db else evict [p] db) := by
  refine (Program.exec_bind_ok (conversations.exec_selectFirst _ committed db)).trans ?_
  cases hfound : (conversations.matching
    (fun c => decide (c.tenantId = p.tenantId) && decide (c.siteId = p.siteId) &&
      decide (c.principalId = p.principalId)) db).head? with
  | some c =>
    have hc := List.mem_of_head? hfound
    have ho : occupied db p = true := List.any_eq_true.mpr ⟨c, List.mem_filter.mp hc⟩
    rw [if_pos ho, if_pos ho]
    rfl
  | none =>
    have hnone := List.head?_eq_none_iff.mp hfound
    have ho : occupied db p = false := by
      refine List.any_eq_false.mpr fun c hc hown => ?_
      exact List.ne_nil_of_mem (List.mem_filter.mpr ⟨hc, hown⟩) hnone
    rw [ho, if_neg (by decide), if_neg (by decide)]
    refine (Program.exec_bind_ok (Relation.exec_deleteFrom _ _ committed db)).trans ?_
    have hrows := matching_owns hp
    simp only [Progress.owns] at hrows
    rw [hrows]
    refine (Program.exec_bind_ok (Relation.exec_deleteFrom _ _ committed _)).trans ?_
    refine (Program.exec_bind_ok (exec_restrict (List.any_eq_false.mpr fun c hc hany => ?_))).trans ?_
    · obtain ⟨r, hr, he⟩ := List.any_eq_true.mp hany
      rw [List.mem_singleton.mp hr] at he
      have he := of_decide_eq_true he
      simp only [Prod.mk.injEq] at he
      exact List.any_eq_false.mp ho c hc (owns_iff.mpr he)
    · change (Except.ok 1, committed, _) = _
      simp only [evict, List.any_cons, List.any_nil, Bool.or_false, decide_owns]
      rfl

def vacant (db : Tables) (candidates : List Principal) : List Principal :=
  candidates.filter fun p => !occupied db p

lemma exec_deletePrincipals {candidates : List Principal} (hc : ∀ p ∈ candidates, p ∈ db.principals)
    (hn : candidates.Nodup) (n : ℕ) :
    (candidates.foldlM (fun n p => return n + (← RetentionService.deletePrincipal p)) n).exec committed db =
      (.ok (n + (vacant db candidates).length), committed, evict (vacant db candidates) db) := by
  induction candidates generalizing n db with
  | nil =>
    change (Except.ok n, committed, db) = (Except.ok n, committed, evict [] db)
    rw [evict_nil]
  | cons p candidates ih =>
    obtain ⟨hnew, hn⟩ := List.nodup_cons.mp hn
    have hrest : ∀ q ∈ candidates, q ∈ db.principals := fun q hq => hc q (List.mem_cons_of_mem _ hq)
    have hfirst : (RetentionService.deletePrincipal p).exec committed db =
        (.ok (if occupied db p then 0 else 1), committed, if occupied db p then db else evict [p] db) :=
      exec_deletePrincipal (hc p List.mem_cons_self)
    rw [List.foldlM_cons]
    refine (Program.exec_bind_ok (Program.exec_bind_ok hfirst)).trans ?_
    cases ho : occupied db p with
    | true =>
      have hvacant : vacant db (p :: candidates) = vacant db candidates := by simp [vacant, ho]
      rw [hvacant]
      exact ih hrest hn n
    | false =>
      have hvacant : vacant db (p :: candidates) = p :: vacant db candidates := by simp [vacant, ho]
      have hkept : ∀ q ∈ candidates, q ∈ (evict [p] db).principals := by
        intro q hq
        refine Table.mem_delete.mpr ⟨hrest q hq, ?_⟩
        rw [List.any_cons, List.any_nil, Bool.or_false]
        refine Bool.eq_false_iff.mpr fun hown => hnew ?_
        rwa [← eq_of_owns (hc p List.mem_cons_self) (hrest q hq) hown]
      have hnext := ih hkept hn (n + 1)
      have hsame : vacant (evict [p] db) candidates = vacant db candidates := rfl
      rw [hsame, evict_append] at hnext
      rw [hvacant, List.length_cons, Nat.add_comm (vacant db candidates).length, ← Nat.add_assoc]
      exact hnext

end Principals

section Whole

variable {db : Tables} (policy : RetentionPolicy) (order : Arrangement Conversation) (orders : Orders)
  (now : Timestamp)

def isStale (i : StructuredInputRequest) : Bool :=
  i.value.isSome && decide (i.updatedAt < contactCutoff policy now)

def redacted (db : Tables) : Tables :=
  { db with
    structuredInputRequests := db.structuredInputRequests.update (isStale policy now) redact redact_requestId }

def picked (db : Tables) : List Conversation :=
  (order.arrange (expiredConversations (anonymousCutoff policy now) db)).take 100

def withoutRecords (db : Tables) : Tables :=
  { db with
    commandIdempotency := db.commandIdempotency.delete fun r => decide (r.createdAt < anonymousCutoff policy now)
    sessionBootstrapIdempotency :=
      db.sessionBootstrapIdempotency.delete fun r => decide (r.createdAt < anonymousCutoff policy now)
    browserSessions := db.browserSessions.delete fun s => decide (s.expiresAt < now) }

def reached (db : Tables) : Tables :=
  withoutRecords policy now ((picked policy order now db).foldl (fun db c => purge c db) (redacted policy now db))

def isOld (p : Principal) : Bool := decide (p.createdAt < anonymousCutoff policy now)

def candidates (order : Arrangement Principal) (db : Tables) : List Principal :=
  (order.arrange (principals.matching (isOld policy now) db)).take 100

def evicted (db : Tables) : List Principal :=
  vacant (reached policy orders.conversations now db)
    (candidates policy now orders.principals (reached policy orders.conversations now db))

def finished (db : Tables) : Tables :=
  evict (evicted policy orders now db) (reached policy orders.conversations now db)

variable {policy order orders now}

lemma candidates_mem {order : Arrangement Principal} {p : Principal} (h : p ∈ candidates policy now order db) :
    p ∈ db.principals ∧ isOld policy now p = true :=
  List.mem_filter.mp ((order.perm _).mem_iff.mp (List.mem_of_mem_take h))

lemma candidates_nodup {order : Arrangement Principal} : (candidates policy now order db).Nodup := by
  refine List.Nodup.sublist (List.take_sublist _ _) ((order.perm _).nodup_iff.mpr ?_)
  exact (List.Nodup.of_map _ db.principals.keys_nodup).filter _

theorem exec_runOnce : (RetentionService.runOnce policy orders now).run db = (.ok
    ⟨(picked policy orders.conversations now db).length, (evicted policy orders now db).length,
      (structuredInputRequests.matching (isStale policy now) db).length⟩, finished policy orders now db) := by
  have hredact : (structuredInputRequests.updateTable (isStale policy now) redact redact_requestId :
      Query (List StructuredInputRequest)).exec db db =
        (.ok ((structuredInputRequests.matching (isStale policy now) db).map redact), db,
          redacted policy now db) :=
    Relation.exec_updateTable_ok _ fun _ _ _ => rfl
  have hdelete : ((picked policy orders.conversations now db).forM RetentionService.deleteConversation).exec db
      (redacted policy now db) = _ := exec_deleteConversations _
  have hprincipals : ((candidates policy now orders.principals (reached policy orders.conversations now db)).foldlM
      (fun n p => return n + (← RetentionService.deletePrincipal p)) 0).exec db
        (reached policy orders.conversations now db) = _ :=
    exec_deletePrincipals (fun p hp => (candidates_mem hp).1) candidates_nodup 0
  rw [Nat.zero_add] at hprincipals
  refine Program.run_of_exec (Program.exec_transaction_ok ?_)
  refine (Program.exec_bind_ok hredact).trans ?_
  refine (Program.exec_bind_ok (Program.exec_select _ _ _)).trans ?_
  refine (Program.exec_bind_ok hdelete).trans ?_
  refine (Program.exec_bind_ok (Relation.exec_deleteFrom _ _ db _)).trans ?_
  refine (Program.exec_bind_ok (Relation.exec_deleteFrom _ _ db _)).trans ?_
  refine (Program.exec_bind_ok (Relation.exec_deleteFrom _ _ db _)).trans ?_
  refine (Program.exec_bind_ok (Program.exec_select _ _ _)).trans ?_
  refine (Program.exec_bind_ok hprincipals).trans ?_
  rw [List.length_map]
  rfl

end Whole

end ChatCore.Retention
