import ChatCore.Services.EventStreams
import Mathlib.Data.List.Pairwise

namespace ChatCore.EventDelivery

open Transition Protocol Relational Database Services Services.EventNumbering Services.EventStore
  Services.EventStreams

section Events

def normal (event : PublicConversationEvent) : PublicConversationEvent :=
  { event with runId := event.runId.bind present, messageId := event.messageId.bind present }

def isEvent (event : PublicConversationEvent) : Bool := decide (event.body ≠ .syncRequired)

def publicAbove (n : ℕ) (all : List ConversationEvent) : List PublicConversationEvent :=
  (all.filter fun e => decide (e.visibility = .public ∧ n < e.sequence)).map toConversationEvent

def above (n : ℕ) (events : List PublicConversationEvent) : List PublicConversationEvent :=
  events.filter fun e => decide (n < e.sequence)

end Events

section Logs

variable {n : ℕ} {all new : List ConversationEvent} {events events' : List PublicConversationEvent}

lemma publicAbove_append (n : ℕ) (all new : List ConversationEvent) :
    publicAbove n (all ++ new) = publicAbove n all ++ publicAbove n new := by
  rw [publicAbove, List.filter_append, List.map_append]
  rfl

lemma publicAbove_eq_nil (h : ∀ e ∈ all, e.sequence ≤ n) : publicAbove n all = [] := by
  rw [publicAbove, List.map_eq_nil_iff, List.filter_eq_nil_iff]
  intro e he hp
  have := h e he
  have := (of_decide_eq_true hp).2
  omega

lemma mem_publicAbove {e : PublicConversationEvent} : e ∈ publicAbove n all ↔
    ∃ x ∈ all, x.visibility = .public ∧ n < x.sequence ∧ toConversationEvent x = e := by
  simp only [publicAbove, List.mem_map, List.mem_filter, decide_eq_true_eq, and_assoc]

lemma above_append (n : ℕ) (events events' : List PublicConversationEvent) :
    above n (events ++ events') = above n events ++ above n events' := List.filter_append ..

lemma mem_above {e : PublicConversationEvent} : e ∈ above n events ↔ e ∈ events ∧ n < e.sequence := by
  simp only [above, List.mem_filter, decide_eq_true_eq]

lemma above_publicAbove {m : ℕ} (h : n ≤ m) : above m (publicAbove n all) = publicAbove m all := by
  rw [above, publicAbove, List.filter_map, List.filter_filter, publicAbove]
  congr 1
  refine List.filter_congr fun e _ => ?_
  change (decide (m < e.sequence) && decide (e.visibility = .public ∧ n < e.sequence)) =
    decide (e.visibility = .public ∧ m < e.sequence)
  by_cases hm : m < e.sequence
  · have hn : n < e.sequence := Nat.lt_of_le_of_lt h hm
    simp [hm, hn]
  · simp [hm]

lemma above_above {m : ℕ} (h : n ≤ m) (events : List PublicConversationEvent) :
    above m (above n events) = above m events := by
  rw [above, above, List.filter_filter, above]
  refine List.filter_congr fun e _ => ?_
  by_cases hm : m < e.sequence
  · have hn : n < e.sequence := Nat.lt_of_le_of_lt h hm
    simp [hm, hn]
  · simp [hm]

lemma map_normal_above (n : ℕ) (events : List PublicConversationEvent) :
    (above n events).map normal = above n (events.map normal) := by
  rw [above, above, List.filter_map]
  rfl

lemma normal_toConversationEvent (x : ConversationEvent) :
    normal (toConversationEvent x) = toConversationEvent x := by
  have hpresent : ∀ id : Id, (present id).bind present = present id := by
    intro id
    unfold present
    split
    · rfl
    · rename_i h
      exact if_neg h
  cases hm : x.messageId <;> simp [normal, toConversationEvent, hpresent, hm]

lemma map_normal_publicAbove (n : ℕ) (all : List ConversationEvent) :
    (publicAbove n all).map normal = publicAbove n all := by
  rw [publicAbove, List.map_map]
  exact List.map_congr_left fun x _ => normal_toConversationEvent x

lemma publicAbove_grows (n : ℕ) (h : all <+: new) : publicAbove n all <+: publicAbove n new := by
  obtain ⟨more, rfl⟩ := h
  rw [publicAbove_append]
  exact List.prefix_append _ _

end Logs

section Replayed

variable {server : Deployment} {principals : Table Principal.principalId}
  {browserSessions : Table BrowserSession.sessionId} {bootstraps : Table SessionBootstrapIdempotency.key}
  {moves : List ServerMove} {session : ℕ} {scope : Scope} {k : Id} {lastEventId : Option Id} {stamp : SyncStamp}

variable (server principals browserSessions bootstraps moves session scope k lastEventId stamp) in
structure Replayed (after : ℕ) (earlier : List ServerMove) : Prop where
  rows : ∃ later, moves = earlier ++ .advance session :: later ∧
    (Replays.run server principals browserSessions bootstraps earlier).Faces session
      (.replayEvents scope k lastEventId stamp)
      (Outcome.replay <$> replayRows scope k after)
        (Replays.run server principals browserSessions bootstraps earlier).db
  conversation : ∃ found, found <+: moves ∧
    ∃ c ∈ (Replays.run server principals browserSessions bootstraps found).db.conversations,
    inConversation scope k c = true
  cursor : ∀ eventId, lastEventId.bind present = some eventId → ∃ found, found <+: moves ∧
    ∃ cursor ∈ conversationEvents.matching
    (isCursor scope k eventId) (Replays.run server principals browserSessions bootstraps found).db,
      cursor.sequence = after
  first : lastEventId.bind present = none → after = 0

lemma replayed_of_finished {events : List PublicConversationEvent}
    (h : .finished session (.replayEvents scope k lastEventId stamp) (.ok (.replay (.events events))) ∈
      (Replays.run server principals browserSessions bootstraps moves).history) :
    ∃ after earlier, Replayed server principals browserSessions bootstraps moves session scope k lastEventId
      stamp after earlier ∧
      events = readAfter scope k after (Replays.run server principals browserSessions bootstraps earlier).db := by
  have htrail := World.trail_of_finished h
  change Program.Trail _ (Outcome.replay <$> EventStore.replay scope k lastEventId stamp) _ at htrail
  rw [map_eq_pure_bind] at htrail
  obtain ⟨answer, htrail, hreturned⟩ := htrail.bind_pure
  cases hreturned.of_pure
  obtain ⟨c, hfound, htrail⟩ := htrail.bind_pure
  have hconversation : ∃ found, found <+: moves ∧
      ∃ c ∈ (Replays.run server principals browserSessions bootstraps found).db.conversations,
        inConversation scope k c = true := by
    obtain ⟨found, hrequire, hthrow⟩ := hfound.bind_pure
    obtain ⟨rows, hfaced, rfl⟩ := hrequire.select_pure
    obtain ⟨before, later, hmoves, rfl, -⟩ := World.Faced.committed hfaced reads_replay
    cases hc : (conversations.matching (inConversation scope k)
        (Replays.run server principals browserSessions bootstraps before).db).head? with
    | none =>
      have hnone : (conversations.matching (inConversation scope k)
        ((World.initial (unused principals browserSessions bootstraps) : ServerWorld).exec (body server)
          before).db).head? =
          none := hc
      simp only [hnone] at hthrow
      cases hthrow.of_throw
    | some c' =>
      obtain ⟨hm, hp⟩ := List.mem_filter.mp (List.mem_of_mem_head? hc)
      exact ⟨before, hmoves ▸ List.prefix_append _ _, c', hm, hp⟩
  rw [replayAfter] at htrail
  cases hsent : lastEventId.bind present with
  | none =>
    simp only [hsent] at htrail
    obtain ⟨rows, hrows, hreturned⟩ := htrail.bind_pure
    cases hreturned.of_pure
    obtain ⟨db, hfaced, rfl⟩ := hrows.select_pure
    obtain ⟨earlier, later, hmoves, rfl, hfaces⟩ := World.Faced.committed hfaced reads_replay
    refine ⟨0, earlier, ⟨⟨later, hmoves, ?_⟩, hconversation, fun eventId he => ?_, fun _ => rfl⟩, rfl⟩
    · rw [map_eq_pure_bind]
      exact hfaces
    · rw [hsent] at he
      cases he
  | some eventId =>
    simp only [hsent] at htrail
    obtain ⟨found, hfound, htrail⟩ := htrail.bind_pure
    obtain ⟨rows, hfaced, rfl⟩ := hfound.select_pure
    obtain ⟨before, later, hmoves, rfl, -⟩ := World.Faced.committed hfaced reads_replay
    cases hc : (conversationEvents.matching (isCursor scope k eventId)
        (Replays.run server principals browserSessions bootstraps before).db).head? with
    | none =>
      have hnone : (conversationEvents.matching (fun r => isPublic scope k r && decide (r.eventId = eventId))
        ((World.initial (unused principals browserSessions bootstraps) : ServerWorld).exec (body server)
          before).db).head? =
          none := hc
      simp only [hnone] at htrail
      cases htrail.of_pure
    | some cursor =>
      have hsome : (conversationEvents.matching (fun r => isPublic scope k r && decide (r.eventId = eventId))
        ((World.initial (unused principals browserSessions bootstraps) : ServerWorld).exec (body server)
          before).db).head? =
          some cursor := hc
      simp only [hsome] at htrail
      obtain ⟨found, hrows, hreturned⟩ := htrail.bind_pure
      cases hreturned.of_pure
      obtain ⟨db, hfaced, rfl⟩ := hrows.select_pure
      obtain ⟨earlier, later', hmoves', rfl, hfaces⟩ := World.Faced.committed hfaced reads_replay
      refine ⟨cursor.sequence, earlier,
        ⟨⟨later', hmoves', ?_⟩, hconversation, fun eventId' he => ?_, fun he => ?_⟩, rfl⟩
      · rw [map_eq_pure_bind]
        exact hfaces
      · cases hsent.symm.trans he
        exact ⟨before, hmoves ▸ List.prefix_append _ _, cursor, List.mem_of_mem_head? hc, rfl⟩
      · rw [hsent] at he
        cases he

end Replayed

section Rows

variable {keep : ℕ} {scope : Scope} {k : Id} {all : List ConversationEvent} {db : Tables} {n : ℕ}

lemma conversation_kept {keep : ℕ} {call : Call} {before after : Tables} {c : Conversation}
    (h : Numbering keep call before after) (hc : before.conversations.find? k = some c) :
    ∃ c', after.conversations.find? k = some c' ∧ c'.tenantId = c.tenantId ∧ c'.siteId = c.siteId := by
  have hless : Numberless before after →
      ∃ c', after.conversations.find? k = some c' ∧ c'.tenantId = c.tenantId ∧ c'.siteId = c.siteId := by
    intro hn
    obtain ⟨c', hc', hsame⟩ := hn.kept k c hc
    simp only [Conversation.numbering, Prod.mk.injEq] at hsame
    exact ⟨c', hc', hsame.1, hsame.2.1⟩
  cases call
  case appendEvent scope event eventId time =>
    rcases h with rfl | ⟨sequence, ha⟩
    · exact ⟨c, hc, rfl, rfl⟩
    · have hupdate : after.conversations.find? k = (before.conversations.find? k).map
          fun d => if inConversation scope event.conversationId d then takeEventSequence d else d := by
        rw [ha.conversations]
        exact Table.find?_update _ _ _ _ _
      rw [hc, Option.map_some] at hupdate
      refine ⟨_, hupdate, ?_⟩
      split <;> exact ⟨rfl, rfl⟩
  all_goals exact hless h

lemma readAfter_eq (h : EventLog keep k all db)
    (howned : ∀ e ∈ all, e.tenantId = scope.tenantId ∧ e.siteId = scope.siteId) :
    readAfter scope k n db = publicAbove n (retained keep all) := by
  obtain ⟨next, hnumbered⟩ := h.numbers
  have hall : all.Pairwise fun e e' => e.sequence < e'.sequence := by
    rw [← List.pairwise_map (f := ConversationEvent.sequence), hnumbered.numbers]
    exact List.pairwise_lt_range'
  have hrows : conversationEvents.matching (isAfter scope k n) db =
      (retained keep all).filter fun e => decide (e.visibility = .public ∧ n < e.sequence) := by
    rw [← h.stored, eventsOf, List.filter_filter]
    refine List.filter_congr fun e he => ?_
    by_cases hk : e.conversationId = k
    · have hstored : e ∈ retained keep all := h.stored ▸ mem_eventsOf.mpr ⟨he, hk⟩
      obtain ⟨ht, hs⟩ := howned e (List.mem_of_mem_drop hstored)
      simp [isAfter, isPublic, ofConversation, hk, ht, hs]
    · simp [isAfter, isPublic, ofConversation, hk]
  rw [readAfter, hrows, publicAbove, List.mergeSort_of_pairwise]
  refine List.Pairwise.filter _ ?_
  exact (hall.sublist (List.drop_sublist _ _)).imp fun hlt => decide_eq_true (Nat.le_of_lt hlt)

lemma publicAbove_retained (h : EventLog keep k all db)
    (hstored : ∀ e ∈ all, e.visibility = .public → n < e.sequence → e ∈ db.conversationEvents) :
    publicAbove n (retained keep all) = publicAbove n all := by
  obtain ⟨next, hnumbered⟩ := h.numbers
  have hpruned : (all.take (all.length - keep)).filter
    (fun e => decide (e.visibility = .public ∧ n < e.sequence)) = [] := by
    rw [List.filter_eq_nil_iff]
    intro e he hp
    obtain ⟨hpublic, hlt⟩ := of_decide_eq_true hp
    have hmem := List.mem_of_mem_take he
    have hrow := hstored e hmem hpublic hlt
    have hretained : e ∈ retained keep all := by
      rw [← h.stored, mem_eventsOf]
      exact ⟨hrow, (Replays.owner_of_eventLog h hmem hmem).2.2⟩
    exact hnumbered.disjoint_retained he hretained
  rw [publicAbove, publicAbove, ← List.take_append_drop (all.length - keep) all, List.filter_append, hpruned,
    List.take_append_drop]
  rfl

lemma publicAbove_kept (h : EventLog keep k all db) :
    publicAbove 0 (retained keep all) = publicAbove (all.length - keep) all := by
  obtain ⟨next, hnumbered⟩ := h.numbers
  have hlow : ∀ e ∈ all.take (all.length - keep), e.sequence ≤ all.length - keep := by
    intro e he
    by_contra hlt
    exact hnumbered.disjoint_retained he ((hnumbered.mem_retained (List.mem_of_mem_take he)).mpr (by omega))
  have hhigh : ∀ e ∈ retained keep all, all.length - keep < e.sequence ∧ 0 < e.sequence := by
    intro e he
    have hmem := List.mem_of_mem_drop he
    rw [hnumbered.mem_retained hmem] at he
    have hpositive : e.sequence ∈ all.map ConversationEvent.sequence := List.mem_map_of_mem hmem
    rw [hnumbered.numbers, List.mem_range'_1] at hpositive
    omega
  have hsplit : all.filter (fun e => decide (e.visibility = .public ∧ all.length - keep < e.sequence)) =
      (retained keep all).filter fun e => decide (e.visibility = .public ∧ 0 < e.sequence) := by
    have hnil : (all.take (all.length - keep)).filter
        (fun e => decide (e.visibility = .public ∧ all.length - keep < e.sequence)) = [] := by
      rw [List.filter_eq_nil_iff]
      intro e he hp
      have := hlow e he
      have := (of_decide_eq_true hp).2
      omega
    rw [← List.take_append_drop (all.length - keep) all, List.filter_append, List.take_append_drop, hnil,
      List.nil_append]
    refine List.filter_congr fun e he => ?_
    obtain ⟨h₁, h₂⟩ := hhigh e he
    simp [h₁, h₂]
  rw [publicAbove, publicAbove, hsplit]

end Rows

lemma eq_of_mem_flatMap {α β : Type} {l : List α} {f : α → List β} (h : (l.flatMap f).Nodup) {a a' : α} {b : β}
    (ha : a ∈ l) (ha' : a' ∈ l) (hb : b ∈ f a) (hb' : b ∈ f a') : a = a' := by
  obtain ⟨-, hdisjoint⟩ := List.nodup_flatMap.mp h
  have hsymm : Std.Symm (Function.onFun List.Disjoint f) := ⟨fun _ _ hd _ hb hb' => hd hb' hb⟩
  by_contra hne
  exact hdisjoint.forall ha ha' hne hb hb'

section Histories

variable {server : Deployment} {principals : Table Principal.principalId}
  {browserSessions : Table BrowserSession.sessionId} {bootstraps : Table SessionBootstrapIdempotency.key}
  {moves found : List ServerMove} {session : ℕ} {scope : Scope} {k : Id}

lemma conversation_stays {c : Conversation} (hfound : found <+: moves)
    (hc : (Replays.run server principals browserSessions bootstraps found).db.conversations.find? k = some c) :
    ∃ c', (Replays.run server principals browserSessions bootstraps moves).db.conversations.find? k = some c' ∧
      c'.tenantId = c.tenantId ∧ c'.siteId = c.siteId := by
  obtain ⟨later, rfl⟩ := hfound
  induction later using List.reverseRecOn with
  | nil =>
    rw [List.append_nil]
    exact ⟨c, hc, rfl, rfl⟩
  | append_singleton later m ih =>
    obtain ⟨new, hnew, hleads⟩ :=
      (Replays.run server principals browserSessions bootstraps (found ++ later)).step_history (body server) m
    rw [← List.append_assoc]
    rw [← Replays.run_concat] at hnew hleads
    refine hleads.preserves (I := fun db => ∃ c', db.conversations.find? k = some c' ∧ c'.tenantId = c.tenantId ∧
      c'.siteId = c.siteId) ih fun id call before after hm ⟨c', hc', ht, hs⟩ => ?_
    have hnumbering := numbering_exec server principals browserSessions bootstraps (found ++ later ++ [m])
      (hnew ▸ List.mem_append_right _ hm)
    obtain ⟨c'', hc'', ht', hs'⟩ := conversation_kept hnumbering hc'
    exact ⟨c'', hc'', ht'.trans ht, hs'.trans hs⟩

lemma owned_of_found (hfound : found <+: moves) {c : Conversation}
    (hc : c ∈ (Replays.run server principals browserSessions bootstraps found).db.conversations)
    (hscope : inConversation scope k c = true) :
    ∀ e ∈ committedEvents k (Replays.run server principals browserSessions bootstraps moves).history,
      e.tenantId = scope.tenantId ∧ e.siteId = scope.siteId := by
  intro e he
  have hk := conversationId_of_inConversation c hscope
  obtain ⟨c', hc', ht, hs⟩ := conversation_stays (k := k) hfound (hk ▸ Table.find?_key hc)
  obtain ⟨ht', hs', -⟩ := (eventLog_exec server principals browserSessions bootstraps moves k).owned e he c' hc'
  simp only [inConversation, Bool.and_eq_true, decide_eq_true_eq] at hscope
  obtain ⟨⟨⟨htenant, hsite⟩, -⟩, -⟩ := hscope
  exact ⟨ht'.trans (ht.trans htenant), hs'.trans (hs.trans hsite)⟩

lemma returns_append (keep : ℕ) (event : ConnectorEvent) (eventId : Id) (time : Timestamp) :
    (EventStore.append keep scope event eventId time).Returns fun persisted =>
      persisted.event = event ∧ persisted.eventId = eventId ∧ persisted.occurredAt = toISOString time := by
  unfold EventStore.append
  refine Program.Returns.bind (R := fun persisted => persisted.event = event ∧ persisted.eventId = eventId ∧
    persisted.occurredAt = toISOString time) ?_ fun persisted hp => ?_
  · refine (Program.returns_true _).bind fun rows _ => ?_
    split
    · trivial
    · refine (Program.returns_true _).bind fun _ _ => (Program.returns_true _).bind fun _ _ =>
        (Program.returns_true _).bind fun _ _ => ?_
      exact ⟨rfl, rfl, rfl⟩
  · exact hp

lemma outcome_of_finished {β : Type} {call : Call} {wrap : β → Outcome} {p : Query β} {outcome : Outcome}
    (hbody : body server call = wrap <$> p)
    (h : .finished session call (.ok outcome) ∈
      (Replays.run server principals browserSessions bootstraps moves).history) :
    ∃ b, outcome = wrap b ∧ ∀ Q : β → Prop, p.Returns Q → Q b := by
  have htrail := World.trail_of_finished h
  rw [hbody, map_eq_pure_bind] at htrail
  obtain ⟨b, hb, hreturned⟩ := htrail.bind_pure
  cases hreturned.of_pure
  exact ⟨b, rfl, fun Q hQ => hb.returns hQ⟩

lemma appended_of_finished {call : Call} {persisted : PersistedEvent}
    (h : .finished session call (.ok (.appended persisted)) ∈
      (Replays.run server principals browserSessions bootstraps moves).history) :
    ∃ scope event eventId time, call = .appendEvent scope event eventId time ∧ persisted.event = event ∧
      persisted.eventId = eventId ∧ persisted.occurredAt = toISOString time := by
  cases call
  case appendEvent scope event eventId time =>
    obtain ⟨b, hb, hreturns⟩ := outcome_of_finished rfl h
    cases hb
    have happend := @returns_append scope server.retentionMaxEvents event eventId time
    exact ⟨scope, event, eventId, time, rfl, hreturns (fun persisted => persisted.event = event ∧
      persisted.eventId = eventId ∧ persisted.occurredAt = toISOString time) happend⟩
  all_goals
    obtain ⟨b, hb, -⟩ := outcome_of_finished rfl h
    cases hb

lemma added_of_appended {event : ConnectorEvent} {eventId : Id} {time : Timestamp} {sequence : ℕ}
    {before after : Tables}
    (h : .committed session (.appendEvent scope event eventId time) before after ∈
      (Replays.run server principals browserSessions bootstraps moves).history)
    (ha : Appended server.retentionMaxEvents scope event eventId time sequence before after) :
    addedEvents event.conversationId before after = [newEvent scope event sequence eventId time] := by
  obtain ⟨h₁, h₂, he⟩ := List.append_of_mem h
  have hleads := World.exec_leads (body server) (unused principals browserSessions bootstraps) moves
  change Leads _ (Replays.run server principals browserSessions bootstraps moves).history _ at hleads
  rw [he] at hleads
  obtain ⟨middle, hl₁, hl₂⟩ := hleads.split
  obtain ⟨rfl, -⟩ := hl₂
  refine (EventLog.appended server.retentionPositive ((eventLog_unused (k := event.conversationId)).run
    server.retentionPositive hl₁ fun id call b a hm => ?_) ha).2
  exact numbering_exec server principals browserSessions bootstraps moves (he ▸ List.mem_append_left _ hm)

lemma committed_of_result {persisted : PersistedEvent}
    (h : result (Replays.run server principals browserSessions bootstraps moves).history session =
      some (.ok (.appended persisted))) : ∃ call before after e,
    .committed session call before after ∈
      (Replays.run server principals browserSessions bootstraps moves).history ∧
    addedEvents persisted.event.conversationId before after = [e] ∧ e.sequence = persisted.sequence ∧
    e.visibility = persisted.event.visibility ∧ normal persisted.toPublic = toConversationEvent e := by
  obtain ⟨call, hfinished⟩ := mem_of_result h
  obtain ⟨scope, event, eventId, time, rfl, hevent, hid, htime⟩ := appended_of_finished hfinished
  obtain ⟨h₁, h₂, he⟩ := List.append_of_mem hfinished
  obtain ⟨before, after, hc, ha⟩ :=
    (@sound server (unused principals browserSessions bootstraps) moves).holds.good h₁ _ h₂ he
  have hc' : .committed session (.appendEvent scope event eventId time) before after ∈
      (Replays.run server principals browserSessions bootstraps moves).history := he ▸ List.mem_append_left _ hc
  have hadded := added_of_appended hc' ha
  rw [← hevent] at hadded
  refine ⟨_, before, after, _, hc', hadded, rfl, rfl, ?_⟩
  simp [normal, PersistedEvent.toPublic, toConversationEvent, newEvent, hevent, hid, htime]

lemma mem_committedEvents {call : Call} {before after : Tables} {h : List ServerRecord} {e : ConversationEvent}
    (hc : .committed session call before after ∈ h) (he : e ∈ addedEvents k before after) :
    e ∈ committedEvents k h :=
  List.mem_flatMap.mpr ⟨_, hc, he⟩

lemma session_of_sequence {session' : ℕ} {call call' : Call} {before after before' after' : Tables}
    {e e' : ConversationEvent}
    (hc : .committed session call before after ∈
      (Replays.run server principals browserSessions bootstraps moves).history)
    (hc' : .committed session' call' before' after' ∈
      (Replays.run server principals browserSessions bootstraps moves).history)
    (he : e ∈ addedEvents k before after) (he' : e' ∈ addedEvents k before' after')
    (hsame : e.sequence = e'.sequence) :
    session = session' := by
  have hlog := eventLog_exec server principals browserSessions bootstraps moves k
  obtain ⟨next, hnumbered⟩ := hlog.numbers
  have hnodup := hnumbered.nodup
  change ((committedEvents k (Replays.run server principals browserSessions bootstraps moves).history).map
    ConversationEvent.sequence).Nodup at hnodup
  rw [committedEvents, List.map_flatMap] at hnodup
  have hrecords := eq_of_mem_flatMap hnodup hc hc' (List.mem_map_of_mem he) (hsame ▸ List.mem_map_of_mem he')
  exact (Record.committed.inj hrecords).1

end Histories

end ChatCore.EventDelivery
