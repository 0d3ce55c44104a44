import ChatCore.Runs.Projection

namespace ChatCore.Runs

open Protocol Relational Database Services

def Belongs (c c' : Conversation) : Prop :=
  c'.conversationId = c.conversationId ∧ c'.principalId = c.principalId ∧ c.nextEventSequence ≤
    c'.nextEventSequence

lemma belongs_refl (c : Conversation) : Belongs c c := ⟨rfl, rfl, Nat.le_refl _⟩

def Inherits (ids : List Id) (a b : Tables) : Prop := ∀ c' ∈ b.conversations,
  (∃ c ∈ a.conversations, Belongs c c') ∨ c'.conversationId ∈ ids ∧ 1 ≤ c'.nextEventSequence

structure Numbered (db : Tables) : Prop where
  positive : ∀ c ∈ db.conversations, 1 ≤ c.nextEventSequence
  below : ∀ x ∈ db.conversationEvents, ∀ c ∈ db.conversations, c.conversationId = x.conversationId →
    x.sequence < c.nextEventSequence

section Inherits

variable {ids : List Id} {a b c : Tables}

lemma inherits_of_subset (h : ∀ c ∈ b.conversations, c ∈ a.conversations) : Inherits ids a b :=
  fun c' hc' => Or.inl ⟨c', h c' hc', belongs_refl c'⟩

lemma inherits_of_same (h : b.conversations = a.conversations) : Inherits ids a b :=
  inherits_of_subset fun _ hc => h ▸ hc

lemma Inherits.trans (h : Inherits ids a b) (h' : Inherits ids b c) : Inherits ids a c := by
  intro z hz
  rcases h' z hz with ⟨y, hy, hid', hprincipal', hle'⟩ | hz
  · rcases h y hy with ⟨x, hx, hid, hprincipal, hle⟩ | ⟨hy, hpos⟩
    · exact Or.inl ⟨x, hx, hid'.trans hid, hprincipal'.trans hprincipal, Nat.le_trans hle hle'⟩
    · exact Or.inr ⟨hid' ▸ hy, Nat.le_trans hpos hle'⟩
  · exact Or.inr hz

lemma inherits_update {q : Conversation → Bool} {f : Conversation → Conversation}
    {hf : ∀ c, (f c).conversationId = c.conversationId} (h : ∀ c, Belongs c (f c)) :
    Inherits ids a (conversations.put a (a.conversations.update q f hf)) := by
  intro c' hc'
  have hmem : c' ∈ a.conversations.update q f hf := hc'
  obtain ⟨c, hc, rfl⟩ := Table.mem_update.mp hmem
  refine Or.inl ⟨c, hc, ?_⟩
  split
  · exact h c
  · exact belongs_refl c

def Retains (ids : List Id) (a b : Tables) : Prop :=
  Inherits ids a b ∧ ∀ x ∈ b.conversationEvents, x ∈ a.conversationEvents

lemma retains_of_same (h : b.conversations = a.conversations) (he : b.conversationEvents = a.conversationEvents) :
    Retains ids a b := ⟨inherits_of_same h, fun _ hx => he ▸ hx⟩

lemma retains_body (server : Deployment) {call : Call}
    (h : ∀ scope event eventId time, call ≠ .appendEvent scope event eventId time) (a : Tables) :
    Retains (created call) a ((body server call).run a).2 := by
  have hsame : ∀ {ids} {a b : Tables}, b.conversations = a.conversations →
      b.conversationEvents = a.conversationEvents → Retains ids a b := retains_of_same
  refine Program.Keeps.run (fun a => hsame rfl rfl)
    (fun _ _ _ h h' => ⟨h.1.trans h'.1, fun x hx => h.2 x (h'.2 x hx)⟩)
      (keeps_body (fun a => hsame rfl rfl) server ?_) a
  have hmessage : ∀ {ids} now, conversations.Updates (Retains ids) (MessageService.takeMessageSequence now)
      (fun _ => rfl) := fun now base q => ⟨inherits_update fun c => ⟨rfl, rfl, Nat.le_refl _⟩, fun _ hx => hx⟩
  cases call with
  | createConversation scope agentRef key ids time =>
    refine ⟨fun r _ db => hsame rfl rfl, fun db => ⟨fun c hc => ?_, fun _ hx => hx⟩, fun p db => hsame rfl rfl⟩
    rcases Table.mem_of_mem_insert hc with hc | rfl
    · exact Or.inl ⟨c, hc, belongs_refl c⟩
    · exact Or.inr ⟨List.mem_singleton.mpr rfl, Nat.le_refl 1⟩
  | submitMessage scope c request key ids now time =>
    exact ⟨fun r _ db => hsame rfl rfl, hmessage now, fun m db => hsame rfl rfl, fun r db => hsame rfl rfl⟩
  | createEmailHandoff scope c request key ids now time =>
    exact ⟨fun r _ db => hsame rfl rfl, fun r db => hsame rfl rfl, fun h db => hsame rfl rfl,
      fun db => hsame rfl rfl⟩
  | cancelRun scope c key order now time =>
    exact ⟨fun r _ db => hsame rfl rfl, fun db q => hsame rfl rfl, fun db q => hsame rfl rfl⟩
  | submitStructuredInput scope c r request key now time =>
    exact ⟨fun r _ db => hsame rfl rfl, fun db q => hsame rfl rfl, fun db q => hsame rfl rfl, fun db q =>
      hsame rfl rfl⟩
  | appendEvent scope event eventId time => exact absurd rfl (h scope event eventId time)
  | materialize run now participantId event =>
    change MaterialWrites _ run now event.body
    cases hb : event.body
    case messageStarted => exact ⟨hmessage now, fun m db => hsame rfl rfl⟩
    case contactRequested => exact ⟨fun db => hsame rfl rfl, fun db q => hsame rfl rfl⟩
    case handoffRequested => exact fun db => hsame rfl rfl
    case messageCompleted | handoffCompleted => exact fun db q => hsame rfl rfl
    all_goals trivial
  | claim | complete | waitForInput | renewLease => exact fun db q => hsame rfl rfl
  | cancel | fail => exact ⟨fun db q => hsame rfl rfl, fun db q => hsame rfl rfl⟩
  | replayEvents | loadContext | isCancellationRequested => trivial

lemma Numbered.retains (h : Numbered a) (hr : Retains ids a b)
    (hn : ∀ x ∈ a.conversationEvents, x.conversationId ∉ ids) : Numbered b where
  positive c' hc' := by
    rcases hr.1 c' hc' with ⟨c, hc, -, -, hle⟩ | ⟨-, hpos⟩
    · exact Nat.le_trans (h.positive c hc) hle
    · exact hpos
  below x hx c' hc' he := by
    rcases hr.1 c' hc' with ⟨c, hc, hid, -, hle⟩ | ⟨hnew, -⟩
    · exact Nat.lt_of_lt_of_le (h.below x (hr.2 x hx) c hc (hid.symm.trans he)) hle
    · exact absurd (he ▸ hnew) (hn x (hr.2 x hx))

end Inherits

section Append

variable {scope : Scope} {event : ConnectorEvent} {eventId : Id} {time : Timestamp} {n : ℕ} {db : Tables}
  {c : Conversation}

lemma conversationId_of_in (hin : inConversation scope event.conversationId c = true) :
    c.tenantId = scope.tenantId ∧ c.siteId = scope.siteId ∧ c.principalId = scope.principalId ∧
      c.conversationId = event.conversationId := by
  simpa only [inConversation, Bool.and_eq_true, decide_eq_true_eq, and_assoc] using hin

lemma inherits_append {ids : List Id} :
    Inherits ids db (appendTo scope event eventId time n c.nextEventSequence db) := by
  have h : Inherits ids db (numbered scope event db) := inherits_update fun c => ⟨rfl, rfl, Nat.le_succ _⟩
  exact h

lemma Numbered.append (h : Numbered db) (hc : c ∈ db.conversations)
    (hin : inConversation scope event.conversationId c = true) :
    Numbered (appendTo scope event eventId time n c.nextEventSequence db) where
  positive c' hc' := by
    rcases (inherits_append : Inherits [] _ _) c' hc' with ⟨d, hd, -, -, hle⟩ | ⟨hnew, -⟩
    · exact Nat.le_trans (h.positive d hd) hle
    · cases hnew
  below x hx c' hc' he := by
    have hmem : c' ∈ db.conversations.update (inConversation scope event.conversationId)
      EventStore.takeEventSequence
      EventStore.takeEventSequence_conversationId := hc'
    obtain ⟨d, hd, rfl⟩ := Table.mem_update.mp hmem
    have hdid : d.conversationId = x.conversationId := by
      rw [← he]
      split <;> rfl
    have hle : d.nextEventSequence ≤ (if inConversation scope event.conversationId d = true then
        EventStore.takeEventSequence d else d).nextEventSequence := by
      split
      · exact Nat.le_succ _
      · exact Nat.le_refl _
    have hin' : x ∈ (db.conversationEvents.insert
      (EventStore.newEvent scope event c.nextEventSequence eventId time)).delete
      (EventStore.isPruned scope event.conversationId ((c.nextEventSequence : Int) - n)) := hx
    rcases Table.mem_of_mem_insert (Table.mem_delete.mp hin').1 with hold | rfl
    · exact Nat.lt_of_lt_of_le (h.below x hold d hd hdid) hle
    · have hsame : d = c := Table.key_injective hd hc (hdid.trans (conversationId_of_in hin).2.2.2.symm)
      subst hsame
      rw [if_pos hin]
      exact Nat.lt_succ_self _

lemma matching_conversation (hc : c ∈ db.conversations)
    (hin : inConversation scope event.conversationId c = true) :
    conversations.matching (inConversation scope event.conversationId) db = [c] := by
  have hkey := db.conversations.filter_key c.conversationId
  rw [Table.find?_key hc] at hkey
  refine Eq.trans (List.filter_congr fun d hd => ?_) hkey
  by_cases he : d.conversationId = c.conversationId
  · rw [Table.key_injective hd hc he, hin, decide_eq_true rfl]
  · rw [decide_eq_false he]
    refine Bool.eq_false_iff.mpr fun h => he ?_
    rw [(conversationId_of_in h).2.2.2, (conversationId_of_in hin).2.2.2]

lemma broken_newEvent (h : Numbered db) (hc : c ∈ db.conversations)
    (hin : inConversation scope event.conversationId c = true)
    (hnew : db.conversationEvents.find? eventId = none) :
    conversationEvents.broken (numbered scope event db)
      (EventStore.newEvent scope event c.nextEventSequence eventId time) = none := by
  obtain ⟨htenant, hsite, hprincipal, hid⟩ := conversationId_of_in hin
  refine conversationEvents.broken_eq_none.mpr ⟨?_, hnew, Option.or_eq_none_iff.mpr ⟨?_, ?_⟩⟩
  · exact failing_eq_none.mpr (decide_eq_true (h.positive c hc))
  · refine failing_eq_none.mpr (List.all_eq_true.mpr fun x hx => decide_eq_true fun he => ?_)
    obtain ⟨hconversation, hsequence⟩ := Prod.mk.inj he
    exact absurd hsequence (Nat.ne_of_lt (h.below x hx c hc (hid.trans hconversation.symm)))
  · have hm : EventStore.takeEventSequence c ∈ db.conversations.update (inConversation scope event.conversationId)
        EventStore.takeEventSequence EventStore.takeEventSequence_conversationId :=
      Table.mem_update.mpr ⟨c, hc, (if_pos hin).symm⟩
    refine failing_eq_none.mpr (List.any_eq_true.mpr ⟨_, hm, decide_eq_true ?_⟩)
    change (c.tenantId, c.siteId, c.conversationId) = (scope.tenantId, scope.siteId, event.conversationId)
    rw [htenant, hsite, hid]

lemma run_append_ok (h : Numbered db) (hc : c ∈ db.conversations)
    (hin : inConversation scope event.conversationId c = true) (hnew : db.conversationEvents.find? eventId = none)
    (hstorable : event.isStorable = true) : (EventStore.append n scope event eventId time).run db =
      (.ok ⟨event, eventId, c.nextEventSequence, toISOString time⟩,
        appendTo scope event eventId time n c.nextEventSequence db) := by
  have hupdate : (conversations.updateTable (inConversation scope event.conversationId)
    EventStore.takeEventSequence
      (fun _ => rfl) : Query _).exec db db = _ := conversations.exec_updateTable_ok fun _ _ _ => rfl
  have hinsert := conversationEvents.exec_insertInto (ε := ServerError)
    (EventStore.newEvent scope event c.nextEventSequence eventId time) db (numbered scope event db)
  rw [broken_newEvent h hc hin hnew] at hinsert
  refine Program.run_of_exec (Program.exec_transaction_ok ((Program.exec_bind_ok hupdate).trans ?_))
  rw [matching_conversation hc hin, hstorable]
  refine (Program.exec_bind_ok (exec_storing_true _ _)).trans ((Program.exec_bind_ok hinsert).trans ?_)
  exact Program.exec_bind_ok (conversationEvents.exec_deleteFrom _ _ _)

lemma run_append_refused (hc : c ∈ db.conversations) (hin : inConversation scope event.conversationId c = true)
    (hstorable : event.isStorable = false) : (EventStore.append n scope event eventId time).run db =
      (.error (.error "unsupported Unicode escape sequence"), db) := by
  have hupdate : (conversations.updateTable (inConversation scope event.conversationId)
    EventStore.takeEventSequence
      (fun _ => rfl) : Query _).exec db db = _ := conversations.exec_updateTable_ok fun _ _ _ => rfl
  refine Program.run_of_exec (Program.exec_transaction_error ((Program.exec_bind_ok hupdate).trans ?_))
  rw [matching_conversation hc hin, hstorable]
  rfl

end Append

section Step

variable {server : Deployment} {s : State}

lemma retains_swept {a b : Tables} (h : SweptAway a b) : Retains [] a b := by
  obtain ⟨q, gone, -, hf⟩ := h
  refine ⟨inherits_of_subset fun c hc => ?_, fun x hx => ?_⟩
  · rw [hf.conversations] at hc
    exact (Table.mem_delete.mp hc).1
  · rw [hf.events] at hx
    exact (Table.mem_delete.mp hx).1

lemma retains_refl (ids : List Id) (a : Tables) : Retains ids a a := retains_of_same rfl rfl

inductive Leaves (server : Deployment) (s : State) (b : Tables) : Prop
  | retained (ids : List Id) (fresh : ∀ id ∈ ids, id ∉ s.issued) (h : Retains ids s.db b)
  | appended (scope : Scope) (event : ConnectorEvent) (eventId : Id) (time : Timestamp) (c : Conversation)
      (hc : c ∈ s.db.conversations) (hin : inConversation scope event.conversationId c = true)
      (h : b = appendTo scope event eventId time server.retentionMaxEvents c.nextEventSequence s.db)

lemma leaves_same {b : Tables} (h : b = s.db) : Leaves server s b :=
  .retained [] (fun _ h => (List.not_mem_nil h).elim) (h ▸ retains_refl _ _)

lemma leaves_body {call : Call} (h : ∀ id ∈ created call, id ∉ s.issued) :
    Leaves server s ((body server call).run s.db).2 := by
  cases call with
  | appendEvent scope event eventId time =>
    rw [body, Program.run_map]
    rcases run_append scope event eventId time server.retentionMaxEvents s.db with ⟨e, h⟩ | ⟨c, hc, hin, -, h⟩
    · exact leaves_same (congrArg Prod.snd h)
    · exact .appended scope event eventId time c hc hin (congrArg Prod.snd h)
  | _ => exact .retained _ h (retains_body server (fun _ _ _ _ => (by intro hc; cases hc)) s.db)

lemma leaves_step (hs : s.Sound) (a : Action) : Leaves server s (s.step server a).db := by
  have hnone : ∀ {call : Call}, created call = [] → ∀ id ∈ created call, id ∉ s.issued :=
    fun h id hid => (List.not_mem_nil (h ▸ hid)).elim
  cases a with
  | visit process call =>
    simp only [State.step]
    split
    · rename_i ids hd
      split
      · rename_i hf
        exact leaves_body fun id hid => hf.2 id (created_drawn hd id hid)
      · exact leaves_same rfl
    · exact leaves_same rfl
  | sweep policy orders now =>
    rcases run_runOnce policy orders now (rooted_of_sound hs.skeleton) with h | h
    · refine leaves_same ?_
      simp only [State.step, taskBody, Program.run_map, h]
    · refine .retained [] (fun _ h => (List.not_mem_nil h).elim) (retains_swept ?_)
      simp only [State.step, taskBody, Program.run_map]
      exact h
  | request process runId =>
    refine leaves_same ?_
    simp only [State.step]
    split
    · split <;> rfl
    · rfl
  | claim process options order now resolved =>
    have h : Leaves server s ((body server (.claim options order now)).run s.db).2 := leaves_body (hnone rfl)
    simp only [State.step]
    split
    · rename_i run db hrun
      rw [hrun] at h
      exact h
    · exact leaves_same rfl
  | work i draw =>
    simp only [State.step]
    split
    · split
      · rename_i e he call hcall
        refine leaves_body (hnone ?_)
        unfold Execution.call at hcall
        split at hcall <;> simp only [Option.some.injEq, reduceCtorEq] at hcall
        case h_7 write place hp => rw [← hcall]; cases write <;> rfl
        all_goals rw [← hcall]; rfl
      · exact leaves_same rfl
    · exact leaves_same rfl
  | signal i signal =>
    refine leaves_same ?_
    simp only [State.step]
    split <;> rfl
  | renew i dateNow =>
    simp only [State.step]
    split
    · rename_i e he
      split
      · have h : Leaves server s ((body server (.renewLease e.options e.run dateNow)).run s.db).2 :=
          leaves_body (hnone rfl)
        rw [State.renew]
        split <;> exact h
      · exact leaves_same rfl
    · exact leaves_same rfl
  | loseHeartbeat i =>
    refine leaves_same ?_
    simp only [State.step]
    split
    · split <;> rfl
    · rfl

lemma Leaves.inherits {b : Tables} (h : Leaves server s b) :
    ∃ ids, (∀ id ∈ ids, id ∉ s.issued) ∧ Inherits ids s.db b := by
  cases h with
  | retained ids fresh h => exact ⟨ids, fresh, h.1⟩
  | appended scope event eventId time c hc hin h =>
    rw [h]
    exact ⟨[], fun _ h => (List.not_mem_nil h).elim, inherits_append⟩

lemma Leaves.numbered {b : Tables} (h : Leaves server s b) (hs : s.Sound) (hn : Numbered s.db) : Numbered b := by
  cases h with
  | retained ids fresh h =>
    refine hn.retains h fun x hx hid => fresh _ hid ?_
    obtain ⟨r, hr, -, hhome⟩ := hs.skeleton.events _ (Table.mem_image hx)
    have hissued := (hs.skeleton.issued r (Or.inl hr)).2.2
    rw [hhome] at hissued
    exact hissued
  | appended scope event eventId time c hc hin h =>
    rw [h]
    exact hn.append hc hin

lemma numbered_reach (server : Deployment) (principals : Table Principal.principalId)
    (browserSessions : Table BrowserSession.sessionId) (bootstraps : Table SessionBootstrapIdempotency.key)
    (actions : List Action) : Numbered (reach server principals browserSessions bootstraps actions).db := by
  have hinit : (State.initial (unused principals browserSessions bootstraps)).Sound ∧
      Numbered (State.initial (unused principals browserSessions bootstraps)).db :=
    ⟨State.sound_initial principals browserSessions bootstraps, fun c hc => (Table.notMem_empty c hc).elim,
      fun x hx => (Table.notMem_empty x hx).elim⟩
  have hreach : ∀ s : State, s.Sound ∧ Numbered s.db →
    Numbered (Transition.exec (State.step server) s actions).db := by
    intro s hs
    induction actions generalizing s with
    | nil => exact hs.2
    | cons a actions ih => exact ih _ ⟨hs.1.step a, (leaves_step hs.1 a).numbered hs.1 hs.2⟩
  exact hreach _ hinit

end Step

end ChatCore.Runs
