import ChatCore.Services.Tenancy

namespace ChatCore.Services

open Protocol Relational Database Program ContactValues Isolation

section Issuing

variable (o : Holdings)

def Holdings.IssuesCall : Call → Prop
  | .createConversation scope _ _ ids _ => o.owns scope = true ∧ o.holds ids.id = true ∧
      o.holds ids.userParticipantId = true ∧ o.holds ids.agentParticipantId = true
  | .submitMessage scope _ _ _ ids _ _ => o.owns scope = true ∧ o.holds ids.id = true ∧ o.holds ids.runId = true ∧
      o.holds ids.assistantMessageId = true
  | .createEmailHandoff scope _ _ _ ids _ _ => o.owns scope = true ∧ o.holds ids.id = true ∧
      o.holds ids.runId = true ∧ o.holds ids.assistantMessageId = true
  | .cancelRun scope .. | .submitStructuredInput scope .. | .replayEvents scope .. => o.owns scope = true
  | .appendEvent scope _ eventId _ => o.owns scope = true ∧ o.holds eventId = true
  | .materialize run _ _ event => o.run.whole run ∧ ∀ id ∈ namesOf event.body, o.holds id = true
  | .loadContext run _ | .cancel run _ => o.run.whole run
  | .renewLease _ run _ => o.holds run.runId = true
  | .complete runId _ | .waitForInput runId _ | .isCancellationRequested runId | .fail runId _ _ =>
    o.holds runId = true
  | .claim .. => False

def Holdings.Issues : Operation → Prop
  | .traffic (.task (.call call)) => o.IssuesCall call
  | .traffic (.task (.sweep ..)) => False
  | .traffic (.bootstrap _ directory request _ ids _ _) =>
    (∀ site ∈ directory.sites, site.siteKey = request.siteKey →
      o.tenants site.tenantId = true ∧ o.sites site.siteId = true) ∧ o.holds ids.principalId = true ∧
      o.holds ids.sessionId = true
  | .getConversation scope _ | .listConversations scope _ | .listMessages scope _ _ => o.owns scope = true
  | .adminOverview scope | .adminConversations scope _ _ | .adminConversation scope _ _ | .adminMessages scope _ _
  | .adminEvents scope _ _ | .adminRuns scope _ | .adminFailures scope _ | .adminHandoffs scope _ =>
      o.tenants scope.tenantId = true

variable {o} {W : Type} {server : Deployment} {collation : Collation} {encoding : Encoding}
  {registry : AdminQueryService.Registry W}

lemma confines_call {call : Call} (h : o.IssuesCall call) : o.Confines (body server call) fun _ => True := by
  cases call with
  | createConversation scope agentRef key ids time =>
    obtain ⟨hscope, hid, huser, hagent⟩ := h
    exact (confines_createConversation hscope agentRef key hid huser hagent time).map _
  | submitMessage scope conversationId request key ids now time =>
    obtain ⟨hscope, hid, hrun, hassistant⟩ := h
    exact (confines_submitMessage hscope conversationId request key hid hrun hassistant now time).map _
  | createEmailHandoff scope conversationId request key ids now time =>
    obtain ⟨hscope, hid, hrun, hassistant⟩ := h
    exact (confines_createHandoff hscope conversationId request key hid hrun hassistant now time).map _
  | cancelRun => exact (confines_cancel h _ _ _ _ _).map _
  | submitStructuredInput => exact (confines_submitInput h _ _ _ _ _ _).map _
  | replayEvents => exact (confines_replay h _ _ _).map _
  | appendEvent scope event eventId occurredAt => exact (confines_append h.1 _ event h.2 occurredAt).map _
  | claim => exact h.elim
  | loadContext run orders => exact (confines_loadContext h orders).map _
  | materialize run now participantId event => exact (confines_materialize h.1 now participantId event h.2).map _
  | complete runId now => exact (confines_complete h now).map _
  | waitForInput runId now => exact (confines_waitForInput h now).map _
  | isCancellationRequested runId => exact (confines_isCancellationRequested h).map _
  | renewLease options run dateNow => exact (confines_renewLease options h dateNow).map _
  | cancel run now => exact (confines_workerCancel h now).map _
  | fail runId code now => exact (confines_fail h code now).map _

lemma confines_operation {operation : Operation} (h : o.Issues operation) :
    o.Confines (operationBody server collation encoding registry operation) fun _ => True := by
  cases operation with
  | traffic traffic => cases traffic with
    | task task => cases task with
      | call call => exact ((confines_call h).map _).map _
      | sweep => exact h.elim
    | bootstrap issuer directory request context ids now currentTimestamp =>
      exact ((confines_bootstrapAnonymous h.1 context h.2.1 h.2.2 now currentTimestamp).map _).map _
  | getConversation scope conversationId => exact (confines_conversationGet h _).map _
  | listConversations scope request => exact (confines_listConversations h _).map _
  | listMessages scope conversationId request => exact (confines_listMessages h _ _).map _
  | adminOverview scope => exact (confines_getOverview h).map _
  | adminConversations scope order filter => exact (confines_adminConversations h order filter).map _
  | adminConversation scope order conversationId => exact (confines_adminConversation h order conversationId).map _
  | adminMessages scope conversationId request => exact (confines_adminMessages h conversationId request).map _
  | adminEvents scope conversationId request => exact (confines_adminEvents h conversationId request).map _
  | adminRuns scope filter => exact (confines_adminRuns h filter).map _
  | adminFailures scope filter => exact (confines_adminFailures h filter).map _
  | adminHandoffs scope filter => exact (confines_adminHandoffs h filter).map _

end Issuing

namespace Strangers

def answers {W : Type} (history : List (Record Tables ServerError (Answer W) Operation)) :
    List (ℕ × Operation × Except ServerError (Answer W)) :=
  history.filterMap fun r => match r with
    | .committed .. => none
    | .finished id operation result => some (id, operation, result)

/-- What is asked in the names of some visitors, or of whole tenants, and what the workers do for their runs give
the same answers whatever else the database holds, and change nothing of it. -/
theorem strangers_isolated {W : Type} (server : Deployment) (collation : Collation) (encoding : Encoding)
    (registry : AdminQueryService.Registry W) (o : Holdings) (db db' : Tables) (h : o.Agree db db')
    (moves : List (Move Operation)) (hissues : ∀ operation, .start operation ∈ moves → o.Issues operation) :
    let body := operationBody server collation encoding registry
    let w := (World.initial db).exec body moves
    let w' := (World.initial db').exec body moves
    answers w.history = answers w'.history ∧ o.Agree w.db w'.db ∧ o.Spares db w.db ∧ o.Spares db' w'.db := by
  intro body w w'
  have htwins : w.Twins (fun a b => o.Agree a b ∧ o.Spares db a ∧ o.Spares db' b) Eq w' :=
    World.Twins.exec_initial (R := fun a b => o.Agree a b ∧ o.Spares db a ∧ o.Spares db' b)
      ⟨h, o.spares_refl db, o.spares_refl db'⟩ moves fun operation hm =>
        (confines_operation (hissues operation hm)).twins o.agreement o.spares_trans db db'
  obtain ⟨hagree, hspares, hspares'⟩ := htwins.db
  refine ⟨?_, hagree, hspares, hspares'⟩
  have hhistory := htwins.history
  generalize w.history = history at hhistory ⊢
  generalize w'.history = history' at hhistory ⊢
  induction hhistory with
  | nil => rfl
  | cons hrecord _ ih =>
    cases hrecord with
    | committed => exact ih
    | finished id operation ha =>
      subst ha
      exact congrArg (List.cons _) ih
    | failed id operation e => exact congrArg (List.cons _) ih

/-- Of parties that have nothing in common each is answered as if it were alone: its answers are those of a run,
from any database with the same rows of it, in which nobody else asks for anything. -/
theorem strangers_undisturbed {W ι : Type} [DecidableEq ι] (server : Deployment) (collation : Collation)
    (encoding : Encoding) (registry : AdminQueryService.Registry W) (parties : ι → Holdings)
    (hdisjoint : ∀ i j, i ≠ j → (parties i).Disjoint (parties j)) (db : Tables)
    (hdb : ∀ i, (parties i).Agree db db) (owner : Operation → ι) (moves : List (Move Operation))
    (hissues : ∀ operation ∈ issued moves, (parties (owner operation)).Issues operation) (j : ι) (db' : Tables)
    (hdb' : (parties j).Agree db db') :
    let body := operationBody server collation encoding registry
    let w := (World.initial db).exec body moves
    ∃ alone, issued alone = (issued moves).filter (fun operation => decide (owner operation = j)) ∧
      let w' := (World.initial db').exec body alone
      told owner j w.history = told owner j w'.history ∧ (parties j).Agree w.db w'.db := by
  intro body w
  have hlone : ∃ alone, issued alone = (issued moves).filter (fun operation => decide (owner operation = j)) ∧
      w.Lone (fun i => (parties i).Agree) (fun i => (parties i).Spares) owner j
        ((World.initial db').exec body alone) :=
    World.Lone.exec_initial (Holdings.partition hdisjoint) hdb hdb' moves fun operation hm =>
      confines_operation (hissues operation hm)
  obtain ⟨alone, hissued, hlone⟩ := hlone
  exact ⟨alone, hissued, hlone.history, hlone.rows⟩

section Scenario

def north : Holdings where
  owns scope := decide (scope.tenantId = "north")
  tenants tenantId := decide (tenantId = "north")
  sites siteId := decide (siteId = "lobby")
  holds id := decide (id ∈ ["ada", "session", "conversation", "user", "assistant", "question", "run", "answer"])
  entire _ h := h

def bobScope : Scope := ⟨"south", "desk", "bob"⟩

lemma bob_entire (scope : Scope) (h : false = true) :
    decide (scope = bobScope) = true := absurd h Bool.false_ne_true

def bob : Holdings where
  owns scope := decide (scope = bobScope)
  tenants _ := false
  sites _ := false
  holds id := decide (id ∈ ["bob", "talk", "guest", "helper", "query", "task", "reply"])
  entire := bob_entire

def parties (isNorth : Bool) : Holdings := if isNorth then north else bob

def someone : Table Principal.principalId :=
  (∅ : Table Principal.principalId).insert ⟨"bob", "south", "desk", "phone", 0⟩

lemma agree_unused (o : Holdings) (principals principals' : Table Principal.principalId)
    (hrows : principals.rows.filter o.principal.part = principals'.rows.filter o.principal.part)
    (hwhole : ∀ p ∈ principals.rows, o.principal.part p = true → o.principal.whole p) :
    o.Agree (unused principals ∅ ∅) (unused principals' ∅ ∅) where
  principals := ⟨hrows, hwhole⟩
  sessions := ⟨rfl, fun _ hr => absurd hr List.not_mem_nil⟩
  bootstraps := ⟨rfl, fun _ hr => absurd hr List.not_mem_nil⟩
  conversations := ⟨rfl, fun _ hr => absurd hr List.not_mem_nil⟩
  participants := ⟨rfl, fun _ hr => absurd hr List.not_mem_nil⟩
  messages := ⟨rfl, fun _ hr => absurd hr List.not_mem_nil⟩
  commands := ⟨rfl, fun _ hr => absurd hr List.not_mem_nil⟩
  events := ⟨rfl, fun _ hr => absurd hr List.not_mem_nil⟩
  runs := ⟨rfl, fun _ hr => absurd hr List.not_mem_nil⟩
  handoffs := ⟨rfl, fun _ hr => absurd hr List.not_mem_nil⟩
  inputs := ⟨rfl, fun _ hr => absurd hr List.not_mem_nil⟩

def reception : SessionService.Directory := ⟨[⟨"lobby", "north", "key", ["https://north.example"], "agent"⟩], []⟩

def arrives : Operation := .traffic (.bootstrap ⟨900, some, fun _ => "token"⟩ reception ⟨"key", none, none, none⟩
  ⟨"https://north.example", "first"⟩ ⟨"browser", "ada", "session"⟩ 0 0)

def adaScope : Scope := ⟨"north", "lobby", "ada"⟩

def creates (scope : Scope) (ids : ConversationService.CreateIds) : Operation :=
  .traffic (.task (.call (.createConversation scope "agent" "key" ids 0)))

lemma hello_ne_nil : ["Hello"] ≠ [] := List.cons_ne_nil _ _

def submits (scope : Scope) (ids : MessageService.SubmitIds) : Operation :=
  .traffic (.task (.call (.submitMessage scope "conversation" ⟨["Hello"], hello_ne_nil⟩ "key" ids 1 1)))

def looks : Operation := .adminRuns ⟨"north", [.read]⟩ ⟨none, none, none, none, none, none, 10⟩

def isNorths : Operation → Bool
  | .traffic (.task (.call (.createConversation scope ..))) => decide (scope.tenantId = "north")
  | .traffic (.task (.call (.submitMessage scope ..))) => decide (scope.tenantId = "north")
  | _ => true

def northMoves : List (Move Operation) :=
  .start arrives :: List.replicate 12 (.advance 0) ++
    .start (creates adaScope ⟨"conversation", "user", "assistant"⟩) :: List.replicate 10 (.advance 1) ++
    .start (submits adaScope ⟨"question", "run", "answer"⟩) :: List.replicate 14 (.advance 2) ++
    .start looks :: List.replicate 3 (.advance 3)

def bothMoves : List (Move Operation) :=
  .start arrives :: .start (creates bobScope ⟨"talk", "guest", "helper"⟩) ::
    (List.replicate 30 [.advance 0, .advance 1]).flatten ++
    .start (creates adaScope ⟨"conversation", "user", "assistant"⟩) ::
    .start (submits bobScope ⟨"query", "task", "reply"⟩) :: (List.replicate 18 [.advance 2, .advance 3]).flatten ++
    .start (submits adaScope ⟨"question", "run", "answer"⟩) :: .start looks ::
    (List.replicate 14 [.advance 4, .advance 5]).flatten

def ran (moves : List (Move Operation)) (principals : Table Principal.principalId) :
    World Tables LockName ServerError (Answer Unit) Operation :=
  (World.initial (unused principals ∅ ∅)).exec (operationBody Replays.forgetful binary burstEncoding noSites) moves

lemma north_bob_disjoint : ∀ i j, i ≠ j → (parties i).Disjoint (parties j) := by
  have hids : ∀ id, north.holds id = true → bob.holds id = true → False := by
    intro id hn hb
    simp only [north, bob, decide_eq_true_eq, List.mem_cons, List.not_mem_nil, or_false] at hn hb
    rcases hn with rfl | rfl | rfl | rfl | rfl | rfl | rfl | rfl <;> exact absurd hb (by decide)
  have howns : ∀ scope, north.owns scope = true → bob.owns scope = true → False := by
    intro scope hn hb
    rw [of_decide_eq_true hb] at hn
    exact absurd hn (by decide)
  intro i j hij
  cases i <;> cases j
  · exact absurd rfl hij
  · exact ⟨fun s hb => Bool.eq_false_iff.mpr fun hn => howns s hn hb, fun _ h => absurd h Bool.false_ne_true,
      fun id hb => Bool.eq_false_iff.mpr fun hn => hids id hn hb⟩
  · exact ⟨fun s hn => Bool.eq_false_iff.mpr fun hb => howns s hn hb, fun _ _ => rfl,
      fun id hn => Bool.eq_false_iff.mpr fun hb => hids id hn hb⟩
  · exact absurd rfl hij

lemma issues_arrives : north.Issues arrives := by
  refine ⟨fun site hs _ => ?_, by decide, by decide⟩
  rw [List.mem_singleton.mp hs]
  exact ⟨by decide, by decide⟩

lemma issues_creates {o : Holdings} {scope : Scope} (hscope : o.owns scope = true)
    {ids : ConversationService.CreateIds}
    (h : [ids.id, ids.userParticipantId, ids.agentParticipantId].all o.holds = true) :
    o.Issues (creates scope ids) := by
  simp only [List.all_cons, List.all_nil, Bool.and_true, Bool.and_eq_true] at h
  exact ⟨hscope, h⟩

lemma issues_submits {o : Holdings} {scope : Scope} (hscope : o.owns scope = true) {ids : MessageService.SubmitIds}
    (h : [ids.id, ids.runId, ids.assistantMessageId].all o.holds = true) : o.Issues (submits scope ids) := by
  simp only [List.all_cons, List.all_nil, Bool.and_true, Bool.and_eq_true] at h
  exact ⟨hscope, h⟩

lemma someone_rows : someone.rows = [⟨"bob", "south", "desk", "phone", 0⟩] := rfl

lemma north_someone : ∀ p ∈ someone.rows, north.principal.part p = true → north.principal.whole p := by
  intro p hp hpart
  rw [someone_rows, List.mem_singleton] at hp
  rw [hp] at hpart
  exact absurd hpart (by decide)

lemma bob_someone : ∀ p ∈ someone.rows, bob.principal.part p = true → bob.principal.whole p := by
  intro p hp _
  rw [someone_rows, List.mem_singleton] at hp
  rw [hp]
  exact ⟨by decide, by decide⟩

theorem north_isolated : (answers (ran northMoves someone).history).length = 4 ∧
    answers (ran northMoves someone).history = answers (ran northMoves ∅).history ∧
    north.Agree (ran northMoves someone).db (ran northMoves ∅).db ∧
    north.Spares (unused someone ∅ ∅) (ran northMoves someone).db ∧
    north.Spares (unused ∅ ∅ ∅) (ran northMoves ∅).db := by
  refine ⟨by decide +kernel, strangers_isolated Replays.forgetful binary burstEncoding noSites north
    (unused someone ∅ ∅) (unused ∅ ∅ ∅) (agree_unused north someone ∅ (by decide) north_someone) northMoves
    fun operation hstart => ?_⟩
  simp only [northMoves, List.cons_append, List.mem_append, List.mem_cons, List.mem_replicate, Move.start.injEq,
    reduceCtorEq, and_false, or_false, false_or] at hstart
  rcases hstart with rfl | (rfl | rfl) | rfl
  · exact issues_arrives
  · exact issues_creates (by decide) (by decide)
  · exact issues_submits (by decide) (by decide)
  · exact (by decide : north.tenants "north" = true)

theorem north_undisturbed : (told isNorths true (ran bothMoves someone).history).length = 4 ∧
    ∃ alone, issued alone = (issued bothMoves).filter (fun operation => decide (isNorths operation = true)) ∧
      told isNorths true (ran bothMoves someone).history = told isNorths true (ran alone ∅).history ∧
      north.Agree (ran bothMoves someone).db (ran alone ∅).db := by
  refine ⟨by decide +kernel, strangers_undisturbed Replays.forgetful binary burstEncoding noSites parties
    north_bob_disjoint (unused someone ∅ ∅) (fun i => ?_) isNorths bothMoves (fun operation hstart => ?_)
    true (unused ∅ ∅ ∅) (agree_unused north someone ∅ (by decide) north_someone)⟩
  · cases i
    · exact agree_unused bob someone someone rfl bob_someone
    · exact agree_unused north someone someone rfl north_someone
  have hissued : issued bothMoves = [arrives, creates bobScope ⟨"talk", "guest", "helper"⟩,
    creates adaScope ⟨"conversation", "user", "assistant"⟩, submits bobScope ⟨"query", "task", "reply"⟩,
    submits adaScope ⟨"question", "run", "answer"⟩, looks] := rfl
  rw [hissued] at hstart
  simp only [List.mem_cons, List.not_mem_nil, or_false] at hstart
  rcases hstart with rfl | rfl | rfl | rfl | rfl | rfl
  · exact issues_arrives
  · exact issues_creates (o := bob) (by decide) (by decide)
  · exact issues_creates (o := north) (by decide) (by decide)
  · exact issues_submits (o := bob) (by decide) (by decide)
  · exact issues_submits (o := north) (by decide) (by decide)
  · exact (by decide : north.tenants "north" = true)

end Scenario

end Strangers

end ChatCore.Services
