import ChatCore.Services.EventNumbering
import Mathlib.Data.List.Induction

namespace ChatCore.Services.Replays

open Protocol Relational Database EventNumbering

variable (server : Deployment) (principals : Table Principal.principalId)
  (browserSessions : Table BrowserSession.sessionId) (bootstraps : Table SessionBootstrapIdempotency.key)

def run (moves : List ServerMove) : ServerWorld :=
  (World.initial (unused principals browserSessions bootstraps) : ServerWorld).exec (body server) moves

lemma run_concat (moves : List ServerMove) (m : ServerMove) :
    run server principals browserSessions bootstraps (moves ++ [m]) =
      (run server principals browserSessions bootstraps moves).step (body server) m := by
  simp [run, World.exec]

variable (scope : Scope) (k eventId : Id)

structure IsCursor (w : ServerWorld) (cursor : ConversationEvent) : Prop where
  committed : cursor ∈ committedEvents k w.history
  eventId : cursor.eventId = eventId
  isPublic : cursor.visibility = .public
  tenant : cursor.tenantId = scope.tenantId
  site : cursor.siteId = scope.siteId

def AtRows (w : ServerWorld) (id : ℕ) (cursor : ConversationEvent) : Prop :=
  IsCursor scope k eventId w cursor ∧ ∃ s, w.sessions[id]? = some s ∧ s.live = true ∧
    s.program = Outcome.replay <$> EventStore.replayRows scope k cursor.sequence

def isBehind (cursor e : ConversationEvent) : Bool :=
  decide (e.visibility = .public ∧ cursor.sequence < e.sequence)

def eventsAfter (w : ServerWorld) (cursor : ConversationEvent) : List ConversationEvent :=
  (committedEvents k w.history).filter (isBehind cursor)

def storedAfter (db : Tables) (cursor : ConversationEvent) : List ConversationEvent :=
  (conversationEvents.matching (fun r => EventStore.isPublic scope k r && decide (cursor.sequence < r.sequence))
    db).mergeSort EventStore.earlierFirst

def Obtained (moves : List ServerMove) (id : ℕ) (events : List EventStore.PublicConversationEvent) : Prop :=
  ∃ earlier later cursor, moves = earlier ++ .advance id :: later ∧
    AtRows scope k eventId (run server principals browserSessions bootstraps earlier) id cursor ∧
    events = (storedAfter scope k (run server principals browserSessions bootstraps earlier).db cursor).map
      EventStore.toConversationEvent

variable {server principals browserSessions bootstraps scope k eventId}

lemma Obtained.more {moves : List ServerMove} {id : ℕ} {events : List EventStore.PublicConversationEvent}
    (h : Obtained server principals browserSessions bootstraps scope k eventId moves id events) (m : ServerMove) :
    Obtained server principals browserSessions bootstraps scope k eventId (moves ++ [m]) id events := by
  obtain ⟨earlier, later, cursor, rfl, hat, he⟩ := h
  exact ⟨earlier, later ++ [m], cursor, by simp, hat, he⟩

section Events

variable {keep : ℕ} {all : List ConversationEvent} {db : Tables} {cursor : ConversationEvent}

lemma owner_of_eventLog (h : EventLog keep k all db) {d e : ConversationEvent} (hd : d ∈ all) (he : e ∈ all) :
    e.tenantId = d.tenantId ∧ e.siteId = d.siteId ∧ e.conversationId = k := by
  cases hc : db.conversations.find? k with
  | none =>
    rw [h.absent hc] at hd
    cases hd
  | some c =>
    obtain ⟨ht, hs, -⟩ := h.owned d hd c hc
    obtain ⟨ht', hs', hk⟩ := h.owned e he c hc
    exact ⟨ht'.trans ht.symm, hs'.trans hs.symm, hk⟩

lemma cursor_of_eventLog (h : EventLog keep k all db)
    (hc : cursor ∈ conversationEvents.matching
      (fun r => EventStore.isPublic scope k r && decide (r.eventId = eventId)) db) :
    cursor ∈ all ∧ cursor.eventId = eventId ∧ cursor.visibility = .public ∧ cursor.tenantId = scope.tenantId ∧
      cursor.siteId = scope.siteId := by
  obtain ⟨hm, hp⟩ := List.mem_filter.mp hc
  simp only [EventStore.isPublic, EventStore.ofConversation, Bool.and_eq_true, decide_eq_true_eq] at hp
  obtain ⟨⟨⟨⟨ht, hs⟩, hk⟩, hv⟩, hid⟩ := hp
  have hstored : cursor ∈ eventsOf k db.conversationEvents := mem_eventsOf.mpr ⟨hm, hk⟩
  rw [h.stored] at hstored
  exact ⟨List.mem_of_mem_drop hstored, hid, hv, ht, hs⟩

lemma storedAfter_eq (h : EventLog keep k all db) (hcursor : cursor ∈ all) (ht : cursor.tenantId = scope.tenantId)
    (hs : cursor.siteId = scope.siteId) :
    storedAfter scope k db cursor = (retained keep all).filter (isBehind cursor) := by
  have hrows : conversationEvents.matching
      (fun r => EventStore.isPublic scope k r && decide (cursor.sequence < r.sequence)) db =
        (retained keep all).filter (isBehind cursor) := by
    rw [← h.stored, eventsOf, List.filter_filter]
    refine List.filter_congr fun e he => ?_
    by_cases hk : e.conversationId = k
    · have hstored : e ∈ retained keep all := h.stored ▸ mem_eventsOf.mpr ⟨he, hk⟩
      obtain ⟨ht', hs', -⟩ := owner_of_eventLog h hcursor (List.mem_of_mem_drop hstored)
      simp [EventStore.isPublic, EventStore.ofConversation, isBehind, hk, ht'.trans ht, hs'.trans hs]
    · simp [EventStore.isPublic, EventStore.ofConversation, hk]
  rw [storedAfter, hrows]
  refine List.mergeSort_of_pairwise (List.Pairwise.filter _ ?_)
  obtain ⟨next, hnumbered⟩ := h.numbers
  have hpairwise : (all.map ConversationEvent.sequence).Pairwise (· ≤ ·) := by
    rw [hnumbered.numbers]
    exact List.pairwise_le_range'
  rw [List.pairwise_map] at hpairwise
  exact (hpairwise.sublist (List.drop_sublist _ _)).imp fun hle => by simpa [EventStore.earlierFirst] using hle

lemma stored_iff (h : EventLog keep k all db) {e : ConversationEvent} (he : e ∈ all) :
    e ∈ db.conversationEvents ↔ all.length < e.sequence + keep := by
  obtain ⟨next, hnumbered⟩ := h.numbers
  have hretained : e ∈ db.conversationEvents ↔ e ∈ retained keep all := by
    rw [← h.stored, mem_eventsOf]
    exact ⟨fun hm => ⟨hm, (owner_of_eventLog h he he).2.2⟩, And.left⟩
  rw [hretained]
  exact hnumbered.mem_retained he

lemma complete_iff (h : EventLog keep k all db) (hcursor : cursor ∈ all)
    (ht : cursor.tenantId = scope.tenantId) (hs : cursor.siteId = scope.siteId) :
    (storedAfter scope k db cursor).map EventStore.toConversationEvent =
      (all.filter (isBehind cursor)).map EventStore.toConversationEvent ↔
        ∀ e ∈ all.filter (isBehind cursor), all.length < e.sequence + keep := by
  obtain ⟨next, hnumbered⟩ := h.numbers
  rw [storedAfter_eq h hcursor ht hs]
  constructor
  · intro heq e he
    have hlength := congrArg List.length heq
    have hsub : ((retained keep all).filter (isBehind cursor)).Sublist (all.filter (isBehind cursor)) :=
      (List.drop_sublist _ _).filter _
    rw [List.length_map, List.length_map] at hlength
    rw [← hsub.eq_of_length hlength] at he
    exact (hnumbered.mem_retained (List.mem_of_mem_drop (List.mem_of_mem_filter he))).mp
      (List.mem_of_mem_filter he)
  · intro hall
    have hpruned : (all.take (all.length - keep)).filter (isBehind cursor) = [] := by
      rw [List.filter_eq_nil_iff]
      intro e he hp
      have hmem := List.mem_of_mem_take he
      have hstored := (hnumbered.mem_retained hmem).mpr (hall e (List.mem_filter.mpr ⟨hmem, hp⟩))
      exact hnumbered.disjoint_retained he hstored
    conv_rhs => rw [← List.take_append_drop (all.length - keep) all, List.filter_append, hpruned, List.nil_append]
    rfl

end Events

section Phases

variable {moves : List ServerMove} {id : ℕ} {afterEventId : Option Id} {stamp : EventStore.SyncStamp}

inductive Phase (scope : Scope) (k : Id) (afterEventId : Option Id) (stamp : EventStore.SyncStamp)
    (located : ConversationEvent → Prop) (obtained : List EventStore.PublicConversationEvent → Prop) :
    Query Outcome → Prop
  | asked : Phase scope k afterEventId stamp located obtained
      (Outcome.replay <$> EventStore.replay scope k afterEventId stamp)
  | found (c : Conversation) : Phase scope k afterEventId stamp located obtained
      (Outcome.replay <$> EventStore.replayAfter scope k afterEventId stamp c)
  | behind (cursor : ConversationEvent) (h : located cursor) : Phase scope k afterEventId stamp located obtained
      (Outcome.replay <$> EventStore.replayRows scope k cursor.sequence)
  | answered (events : List EventStore.PublicConversationEvent) (h : obtained events) :
      Phase scope k afterEventId stamp located obtained (.pure (.replay (.events events)))
  | stale (event : EventStore.PublicConversationEvent) :
      Phase scope k afterEventId stamp located obtained (.pure (.replay (.syncRequired event)))
  | refused (e : ServerError) : Phase scope k afterEventId stamp located obtained (.throw e)

lemma Phase.mono {located located' : ConversationEvent → Prop}
    {obtained obtained' : List EventStore.PublicConversationEvent → Prop} {p : Query Outcome}
    (h : Phase scope k afterEventId stamp located obtained p) (hl : ∀ cursor, located cursor → located' cursor)
    (ho : ∀ events, obtained events → obtained' events) :
    Phase scope k afterEventId stamp located' obtained' p := by
  cases h with
  | asked => exact .asked
  | found c => exact .found c
  | behind cursor h => exact .behind cursor (hl cursor h)
  | answered events h => exact .answered events (ho events h)
  | stale event => exact .stale event
  | refused e => exact .refused e

lemma phase_not_commit {located : ConversationEvent → Prop}
    {obtained : List EventStore.PublicConversationEvent → Prop} {next : Query Outcome}
    (hpresent : afterEventId.bind present = some eventId) :
    ¬ Phase scope k afterEventId stamp located obtained (.commit next) := by
  intro h
  generalize hp : Program.commit next = p at h
  cases h with
  | found c =>
    simp only [EventStore.replayAfter, hpresent] at hp
    cases hp
  | asked | behind | answered | stale | refused => cases hp

lemma Phase.statement {located : ConversationEvent → Prop}
    {obtained : List EventStore.PublicConversationEvent → Prop}
    {locks : View Tables LockName → List (Lock LockName)} {write : View Tables LockName → Tables → Tables}
    {next : View Tables LockName → Query Outcome} (hpresent : afterEventId.bind present = some eventId)
    (h : Phase scope k afterEventId stamp located obtained (.statement locks write next))
    (v : View Tables LockName)
    (hlocated : ∀ cursor ∈ conversationEvents.matching
      (fun r => EventStore.isPublic scope k r && decide (r.eventId = eventId)) v.rows, located cursor)
    (hobtained : ∀ cursor, located cursor →
      .statement locks write next = Outcome.replay <$> EventStore.replayRows scope k cursor.sequence →
      obtained ((storedAfter scope k v.rows cursor).map EventStore.toConversationEvent)) :
    (write v = fun base => base) ∧ Phase scope k afterEventId stamp located obtained (next v) := by
  generalize hp : Program.statement locks write next = p at h hobtained
  cases h with
  | asked =>
    cases hp
    refine ⟨rfl, ?_⟩
    cases hc : (conversations.matching (inConversation scope k) v.rows).head? with
    | none =>
      simp only [hc]
      exact .refused _
    | some c =>
      simp only [hc]
      exact .found c
  | found c =>
    simp only [EventStore.replayAfter, hpresent] at hp
    cases hp
    refine ⟨rfl, ?_⟩
    cases hc : (conversationEvents.matching
      (fun r => EventStore.isPublic scope k r && decide (r.eventId = eventId)) v.rows).head? with
    | none =>
      simp only [hc]
      exact .stale _
    | some cursor =>
      simp only [hc]
      exact .behind cursor (hlocated cursor (List.mem_of_mem_head? hc))
  | behind cursor h =>
    have hread := hobtained cursor h rfl
    cases hp
    exact ⟨rfl, .answered _ hread⟩
  | answered | stale | refused => cases hp

lemma phase_of_live (hpresent : afterEventId.bind present = some eventId)
    {s : Session Tables LockName ServerError Outcome Call}
    (hs : (run server principals browserSessions bootstraps moves).sessions[id]? = some s) (hl : s.live = true)
    (hc : s.call = .replayEvents scope k afterEventId stamp) : (s.pending = fun base => base) ∧
      Phase scope k afterEventId stamp
        (IsCursor scope k eventId (run server principals browserSessions bootstraps moves))
        (Obtained server principals browserSessions bootstraps scope k eventId moves id) s.program := by
  induction moves using List.reverseRecOn generalizing s with
  | nil => cases hs
  | append_singleton moves m ih =>
    rw [run_concat] at hs
    have hgrow : ∀ cursor, IsCursor scope k eventId
      (run server principals browserSessions bootstraps moves) cursor →
        IsCursor scope k eventId (run server principals browserSessions bootstraps (moves ++ [m])) cursor := by
      intro cursor h
      obtain ⟨new, hnew, -⟩ :=
        (run server principals browserSessions bootstraps moves).step_history (body server) m
      refine { h with committed := ?_ }
      rw [run_concat, hnew, committedEvents_append]
      exact List.mem_append_left _ h.committed
    have hmore : ∀ events, Obtained server principals browserSessions bootstraps scope k eventId moves id events →
        Obtained server principals browserSessions bootstraps scope k eventId (moves ++ [m]) id events :=
      fun _ h => h.more m
    rcases World.session_step hs hl with ⟨c, -, rfl⟩ | ⟨s₀, hs₀, hl₀, rfl | ⟨rfl, hadvance⟩⟩
    · cases hc
      exact ⟨rfl, .asked⟩
    · obtain ⟨hp, hphase⟩ := ih hs₀ hl hc
      exact ⟨hp, hphase.mono hgrow hmore⟩
    · have hlt := (List.getElem?_eq_some_iff.mp hs₀).1
      unfold World.advance at hadvance
      cases hprogram : s₀.program with
      | pure | throw =>
        simp only [hprogram, World.close, World.commit, List.getElem?_set_self hlt, Option.some.injEq] at hadvance
        rw [← hadvance] at hl
        cases hl
      | commit next =>
        simp only [hprogram, World.commit, List.getElem?_set_self hlt, Option.some.injEq] at hadvance
        obtain ⟨-, hphase⟩ := ih hs₀ hl₀ (by rw [← hc, ← hadvance])
        rw [hprogram] at hphase
        exact absurd hphase (phase_not_commit hpresent)
      | statement locks write next =>
        simp only [hprogram] at hadvance
        split at hadvance
        · obtain rfl := Option.some.inj (hs₀.symm.trans hadvance)
          obtain ⟨hp, hphase⟩ := ih hs₀ hl hc
          exact ⟨hp, hphase.mono hgrow hmore⟩
        · simp only [List.getElem?_set_self hlt, Option.some.injEq] at hadvance
          obtain ⟨hp, hphase⟩ := ih hs₀ hl₀ (by rw [← hc, ← hadvance])
          rw [hprogram] at hphase
          have hrows : ((run server principals browserSessions bootstraps moves).view id s₀).rows =
              (run server principals browserSessions bootstraps moves).db := congrFun hp _
          have hlog := eventLog_exec server principals browserSessions bootstraps moves k
          have hlocated : ∀ cursor ∈ conversationEvents.matching
              (fun r => EventStore.isPublic scope k r && decide (r.eventId = eventId))
                ((run server principals browserSessions bootstraps moves).view id s₀).rows,
              IsCursor scope k eventId (run server principals browserSessions bootstraps moves) cursor := by
            intro cursor hcursor
            rw [hrows] at hcursor
            obtain ⟨hm, hid, hv, ht, hsite⟩ := cursor_of_eventLog hlog hcursor
            exact ⟨hm, hid, hv, ht, hsite⟩
          obtain ⟨hwrite, hnext⟩ := (hphase.mono (fun _ h => h) hmore).statement hpresent
            ((run server principals browserSessions bootstraps moves).view id s₀) hlocated
              fun cursor hcursor heq =>
              ⟨moves, [], cursor, rfl, ⟨hcursor, s₀, hs₀, hl₀, hprogram.trans heq⟩, by rw [hrows]⟩
          rw [← hadvance, hwrite, hp]
          exact ⟨rfl, hnext.mono hgrow fun _ h => h⟩

lemma obtained_of_finished (hpresent : afterEventId.bind present = some eventId)
    {events : List EventStore.PublicConversationEvent}
    (h : .finished id (.replayEvents scope k afterEventId stamp) (.ok (.replay (.events events))) ∈
      (run server principals browserSessions bootstraps moves).history) :
    Obtained server principals browserSessions bootstraps scope k eventId moves id events := by
  induction moves using List.reverseRecOn with
  | nil => cases h
  | append_singleton moves m ih =>
    rw [run_concat] at h
    rcases World.finished_step h with h | ⟨s, -, hs, hl, hc, hprogram⟩
    · exact (ih h).more m
    · obtain ⟨-, hphase⟩ := phase_of_live hpresent hs hl hc
      change s.program = .pure _ at hprogram
      rw [hprogram] at hphase
      generalize hp : Program.pure (Outcome.replay (.events events)) = p at hphase
      cases hphase with
      | answered events' h =>
        cases hp
        exact h.more m
      | found c =>
        simp only [EventStore.replayAfter, hpresent] at hp
        cases hp
      | asked | behind | stale | refused => cases hp

end Phases

/-- The list that a replay returns is complete if and only if no public event behind its cursor has been
pruned when it reads the rows, that is, if none has been followed by `retentionMaxEvents` others. -/
theorem replay_complete_iff (server : Deployment) (principals : Table Principal.principalId)
    (browserSessions : Table BrowserSession.sessionId) (bootstraps : Table SessionBootstrapIdempotency.key)
    (moves : List ServerMove) (id : ℕ) (scope : Scope) (k eventId : Id) (afterEventId : Option Id)
    (stamp : EventStore.SyncStamp) (events : List EventStore.PublicConversationEvent)
    (hpresent : afterEventId.bind present = some eventId)
    (h : .finished id (.replayEvents scope k afterEventId stamp) (.ok (.replay (.events events))) ∈
      (run server principals browserSessions bootstraps moves).history) :
    ∃ earlier later cursor, moves = earlier ++ .advance id :: later ∧
      let w := run server principals browserSessions bootstraps earlier
      AtRows scope k eventId w id cursor ∧
      (events = (eventsAfter k w cursor).map EventStore.toConversationEvent ↔
        ∀ e ∈ eventsAfter k w cursor, (committedEvents k w.history).length < e.sequence +
          server.retentionMaxEvents) ∧
      ∀ e ∈ eventsAfter k w cursor, e ∈ w.db.conversationEvents ↔
        (committedEvents k w.history).length < e.sequence + server.retentionMaxEvents := by
  obtain ⟨earlier, later, cursor, hmoves, hat, rfl⟩ := obtained_of_finished hpresent h
  have hlog := eventLog_exec server principals browserSessions bootstraps earlier k
  have hcursor := hat.1
  exact ⟨earlier, later, cursor, hmoves, hat,
    complete_iff hlog hcursor.committed hcursor.tenant hcursor.site,
    fun e he => stored_iff hlog (List.mem_of_mem_filter he)⟩

def forgetful : Deployment where
  platform := ⟨fun _ => "", fun _ => 0, fun _ => true⟩
  retentionMaxEvents := 1
  retentionPositive := by decide

def visitor : Scope := ⟨"tenant", "site", "visitor"⟩

def delta (eventId text : Id) : Call :=
  .appendEvent visitor ⟨.public, "conversation", "run", some "answer", .messageDelta text, true⟩ eventId 0

def located : List ServerMove :=
  .start (.createConversation visitor "agent" "" ⟨"conversation", "user", "assistant"⟩ 0) ::
    List.replicate 10 (.advance 0) ++
    .start (delta "first" "one") :: List.replicate 5 (.advance 1) ++
    .start (.replayEvents visitor "conversation" (some "first") ⟨"sync", 0⟩) :: List.replicate 2 (.advance 2)

def followed : List ServerMove := located ++ .start (delta "second" "two") :: List.replicate 5 (.advance 3)

def overtaken : List ServerMove := followed ++ .start (delta "third" "three") :: List.replicate 5 (.advance 4)

def visitors : Table Principal.principalId :=
  (∅ : Table Principal.principalId).insert ⟨"visitor", "tenant", "site", "", 0⟩

def streamed (eventId text : Id) (sequence : ℕ) : EventStore.PublicConversationEvent :=
  ⟨eventId, sequence, 0, "conversation", some "run", some "answer", .event (.messageDelta text)⟩

def replayed : ServerRecord → Option (ℕ × (Scope × Id × Option Id × EventStore.SyncStamp) × EventStore.EventReplay)
  | .finished id (.replayEvents scope k afterEventId stamp) (.ok (.replay replay)) =>
      some (id, (scope, k, afterEventId, stamp), replay)
  | _ => none

lemma finished_of_replayed {h : List ServerRecord} {id : ℕ} {scope : Scope} {k : Id} {afterEventId : Option Id}
    {stamp : EventStore.SyncStamp} {replay : EventStore.EventReplay}
    (hr : (id, (scope, k, afterEventId, stamp), replay) ∈ h.filterMap replayed) :
    .finished id (.replayEvents scope k afterEventId stamp) (.ok (.replay replay)) ∈ h := by
  obtain ⟨r, hm, hr⟩ := List.mem_filterMap.mp hr
  unfold replayed at hr
  split at hr
  · cases hr
    exact hm
  · cases hr

theorem pruned_event_skipped :
    let w := run forgetful visitors ∅ ∅ overtaken
    ∃ cursor, AtRows visitor "conversation" "first" w 2 cursor ∧
      (eventsAfter "conversation" w cursor).map EventStore.toConversationEvent =
        [streamed "second" "two" 2, streamed "third" "three" 3] ∧
      .finished 2 (.replayEvents visitor "conversation" (some "first") ⟨"sync", 0⟩)
        (.ok (.replay (.events [streamed "third" "three" 3]))) ∈
          (run forgetful visitors ∅ ∅ (overtaken ++ List.replicate 2 (.advance 2))).history := by
  refine ⟨EventStore.newEvent visitor
    ⟨.public, "conversation", "run", some "answer", .messageDelta "one", true⟩ 1 "first" 0,
    ⟨⟨?_, rfl, rfl, rfl, rfl⟩, ?_⟩, ?_, ?_⟩
  · decide +kernel
  · exact ⟨_, rfl, rfl, rfl⟩
  · decide +kernel
  · exact finished_of_replayed (by decide +kernel)

theorem followed_replay_complete : ∃ earlier later cursor,
    followed ++ List.replicate 2 (.advance 2) = earlier ++ .advance 2 :: later ∧
    let w := run forgetful visitors ∅ ∅ earlier
    AtRows visitor "conversation" "first" w 2 cursor ∧
    ([streamed "second" "two" 2] = (eventsAfter "conversation" w cursor).map EventStore.toConversationEvent ↔
      ∀ e ∈ eventsAfter "conversation" w cursor,
        (committedEvents "conversation" w.history).length < e.sequence + forgetful.retentionMaxEvents) ∧
    ∀ e ∈ eventsAfter "conversation" w cursor, e ∈ w.db.conversationEvents ↔
      (committedEvents "conversation" w.history).length < e.sequence + forgetful.retentionMaxEvents :=
  replay_complete_iff forgetful visitors ∅ ∅ (followed ++ List.replicate 2 (.advance 2)) 2 visitor "conversation"
    "first" (some "first") ⟨"sync", 0⟩ [streamed "second" "two" 2] rfl (finished_of_replayed (by decide +kernel))

end ChatCore.Services.Replays
