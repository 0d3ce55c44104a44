import ChatCore.Relational.Trails
import ChatCore.Services.EventBroker
import ChatCore.Services.Replays

/-! The responses of the events route: a replay, then what the process publishes to the subscription. -/

namespace ChatCore.Services.EventStreams

open Protocol Relational Database EventNumbering EventStore

/-- Where the handler of a request stands: the replay that it awaits, or what it has still to write. -/
inductive Stage
  | replaying (session : ℕ)
  | sending (events : List PublicConversationEvent)
  | listening
  | awaiting
  | resyncing (session : ℕ)
  | ended
  deriving DecidableEq

/-- `named` are the events of the conversation that have the request's `Last-Event-ID`, `taken` counts the
notifications that the handler has had from its subscription. -/
structure Response where
  process : ℕ
  subscription : ℕ
  scope : Scope
  conversationId : Id
  lastEventId : Option Id
  named : List ConversationEvent
  stage : Stage
  taken : ℕ
  lastSequence : ℕ
  destroyed : Bool
  written : List PublicConversationEvent

/-- `published` are the append sessions whose task has gone on to publish. -/
structure State where
  world : ServerWorld
  brokers : ℕ → EventBroker
  responses : List Response
  published : List ℕ

inductive Action
  | move (m : ServerMove)
  | publish (process session : ℕ)
  | request (process : ℕ) (scope : Scope) (conversationId : Id) (lastEventId : Option Id) (stamp : SyncStamp)
  | proceed (i : ℕ) (randomUUID : Id) (stamp : SyncStamp)
  | disconnect (i : ℕ)

def Response.write (r : Response) (event : PublicConversationEvent) : Response :=
  if r.destroyed then r else { r with written := r.written ++ [event] }

def result (h : List ServerRecord) (session : ℕ) : Option (Except ServerError Outcome) :=
  h.findSome? fun r => match r with
    | .finished id _ result => if id = session then some result else none
    | .committed .. => none

def named (h : List ServerRecord) (conversationId : Id) (lastEventId : Option Id) : List ConversationEvent :=
  (committedEvents conversationId h).filter fun e => decide (lastEventId = some e.eventId)

namespace State

variable (server : Deployment) (options : EventBrokerOptions) (s : State)

def put (i : ℕ) (r : Response) : State := { s with responses := s.responses.set i r }

def putBroker (process : ℕ) (b : EventBroker) : State := { s with brokers := Function.update s.brokers process b }

def query (call : Call) : State := { s with world := s.world.step (body server) (.start call) }

def notification (r : Response) : Option EventBrokerNotification :=
  ((s.brokers r.process).buffered[r.subscription]?).bind fun b => b.yielded[r.taken]?

def fail (i : ℕ) (r : Response) : State :=
  (s.put i { r with stage := .ended }).putBroker r.process ((s.brokers r.process).close r.subscription)

def publish (process session : ℕ) : State := match result s.world.history session with
  | some (.ok (.appended persisted)) =>
      if session ∈ s.published then s
      else if persisted.event.visibility = .public then
        ({ s with published := session :: s.published } : State).putBroker process
          ((s.brokers process).publish options persisted.toPublic)
      else { s with published := session :: s.published }
  | _ => s

def request (process : ℕ) (scope : Scope) (conversationId : Id) (lastEventId : Option Id)
    (stamp : SyncStamp) : State :=
  if isOpaqueId conversationId && lastEventId.all isOpaqueId then
    let r : Response := ⟨process, (s.brokers process).buffered.length, scope, conversationId, lastEventId,
      named s.world.history conversationId lastEventId, .replaying s.world.sessions.length, 0, 0, false, []⟩
    (({ s with responses := s.responses ++ [r] } : State).putBroker process
      ((s.brokers process).subscribe conversationId)).query server
        (.replayEvents scope conversationId lastEventId stamp)
  else s

def proceed (i : ℕ) (r : Response) (randomUUID : Id) (stamp : SyncStamp) : State := match r.stage with
  | .replaying session => match result s.world.history session with
      | some (.ok (.replay (.events events))) => s.put i { r with stage := .sending events }
      | some (.ok (.replay (.syncRequired event))) => s.put i { r.write event with stage := .ended }
      | some _ => s.fail i r
      | none => s
  | .sending (event :: events) =>
      s.put i { r.write event with lastSequence := event.sequence, stage := .sending events }
  | .sending [] => s.put i { r with stage := .listening }
  | .listening =>
      if r.destroyed then s.put i { r with stage := .ended }
      else (s.put i { r with stage := .awaiting }).putBroker r.process ((s.brokers r.process).next r.subscription)
  | .awaiting => match s.notification r with
      | some .closed => s.put i { r with stage := .ended }
      | some .overflow =>
        (s.put i { r with stage := .resyncing s.world.sessions.length, taken := r.taken + 1 }).query server
          (.replayEvents r.scope r.conversationId (some randomUUID) stamp)
      | some (.event event) =>
          if event.sequence ≤ r.lastSequence then s.put i { r with stage := .listening, taken := r.taken + 1 }
          else s.put i { r.write event with
            lastSequence := event.sequence, stage := .listening, taken := r.taken + 1 }
      | none => s
  | .resyncing session => match result s.world.history session with
      | some (.ok (.replay (.syncRequired event))) => s.put i { r.write event with stage := .ended }
      | some _ => s.fail i { r with destroyed := true }
      | none => s
  | .ended => s

def disconnect (i : ℕ) (r : Response) : State :=
  if r.destroyed then s
  else match r.stage with
    | .replaying _ => s.put i { r with destroyed := true }
    | _ => (s.put i { r with destroyed := true }).putBroker r.process ((s.brokers r.process).close r.subscription)

def step : Action → State
  | .move m => { s with world := s.world.step (body server) m }
  | .publish process session => s.publish options process session
  | .request process scope conversationId lastEventId stamp =>
    s.request server process scope conversationId lastEventId stamp
  | .proceed i randomUUID stamp => match s.responses[i]? with
      | some r => s.proceed server i r randomUUID stamp
      | none => s
  | .disconnect i => match s.responses[i]? with
      | some r => s.disconnect i r
      | none => s

end State

section Runs

variable (server : Deployment) (options : EventBrokerOptions) (principals : Table Principal.principalId)
  (browserSessions : Table BrowserSession.sessionId) (bootstraps : Table SessionBootstrapIdempotency.key)

def initial : State := ⟨World.initial (unused principals browserSessions bootstraps), fun _ => .initial, [], []⟩

def run (actions : List Action) : State :=
  Transition.exec (State.step server options) (initial principals browserSessions bootstraps) actions

end Runs

/-- The sequences increase, all of them above what the request named. -/
def Rising (named : List ConversationEvent) (events : List PublicConversationEvent) : Prop :=
  events.Pairwise (fun e e' => e.sequence < e'.sequence) ∧ ∀ p ∈ named, ∀ e ∈ events, p.sequence < e.sequence

instance (named : List ConversationEvent) (events : List PublicConversationEvent) :
    Decidable (Rising named events) :=
  inferInstanceAs (Decidable (_ ∧ _))

section Reads

variable {keep : ℕ} {scope : Scope} {k eventId : Id} {all : List ConversationEvent} {db : Tables}
  {named : List ConversationEvent}

def isCursor (scope : Scope) (k eventId : Id) (r : ConversationEvent) : Bool :=
  isPublic scope k r && decide (r.eventId = eventId)

def isAfter (scope : Scope) (k : Id) (n : ℕ) (r : ConversationEvent) : Bool :=
  isPublic scope k r && decide (n < r.sequence)

def readAfter (scope : Scope) (k : Id) (n : ℕ) (db : Tables) : List PublicConversationEvent :=
  ((conversationEvents.matching (isAfter scope k n) db).mergeSort earlierFirst).map toConversationEvent

lemma isPublic_conversationId {r : ConversationEvent} (h : isPublic scope k r = true) : r.conversationId = k := by
  simp only [isPublic, ofConversation, Bool.and_eq_true, decide_eq_true_eq] at h
  exact h.1.2

lemma rising_rows (h : EventLog keep k all db) (n : ℕ) (hn : ∀ p ∈ named, p.sequence ≤ n) :
    Rising named (readAfter scope k n db) := by
  obtain ⟨next, hnumbered⟩ := h.numbers
  have hall : all.Pairwise fun e e' => e.sequence < e'.sequence := by
    rw [← List.pairwise_map (f := ConversationEvent.sequence), hnumbered.numbers]
    exact List.pairwise_lt_range'
  have hrows : conversationEvents.matching (isAfter scope k n) db = (retained keep all).filter
    (isAfter scope k n) := by
    rw [← h.stored, eventsOf, List.filter_filter]
    refine List.filter_congr fun e _ => ?_
    by_cases hk : e.conversationId = k
    · simp [hk]
    · have hfalse : isAfter scope k n e = false := by
        rw [isAfter, Bool.eq_false_iff.mpr fun he => hk (isPublic_conversationId he), Bool.false_and]
      rw [hfalse, Bool.false_and]
  have hpairwise : ((retained keep all).filter (isAfter scope k n)).Pairwise fun e e' =>
    e.sequence < e'.sequence :=
    hall.sublist (List.filter_sublist.trans (List.drop_sublist _ _))
  have hsorted : ((retained keep all).filter (isAfter scope k n)).mergeSort earlierFirst =
      (retained keep all).filter (isAfter scope k n) :=
    List.mergeSort_of_pairwise (hpairwise.imp fun hlt => decide_eq_true (Nat.le_of_lt hlt))
  rw [readAfter, hrows, hsorted]
  refine ⟨List.pairwise_map.mpr hpairwise, fun p hp e he => ?_⟩
  obtain ⟨r, hr, rfl⟩ := List.mem_map.mp he
  obtain ⟨-, hafter⟩ := List.mem_filter.mp hr
  simp only [isAfter, Bool.and_eq_true, decide_eq_true_eq] at hafter
  exact Nat.lt_of_le_of_lt (hn p hp) hafter.2

lemma named_le_cursor (h : EventLog keep k all db) {p cursor : ConversationEvent} (hp : p ∈ all)
    (hc : cursor ∈ conversationEvents.matching (isCursor scope k eventId) db) (hid : p.eventId = eventId) :
    p.sequence ≤ cursor.sequence := by
  obtain ⟨next, hnumbered⟩ := h.numbers
  obtain ⟨hall, hsame, -⟩ := Replays.cursor_of_eventLog h hc
  obtain ⟨hstored, hpublic⟩ := List.mem_filter.mp hc
  have hretained : cursor ∈ retained keep all := by
    rw [← h.stored, mem_eventsOf]
    exact ⟨hstored, (Replays.owner_of_eventLog h hall hall).2.2⟩
  by_cases hkept : p ∈ retained keep all
  · rw [← h.stored, mem_eventsOf] at hkept
    exact (congrArg ConversationEvent.sequence (Table.key_injective hkept.1 hstored (hid.trans hsame.symm))).le
  · rw [hnumbered.mem_retained hp] at hkept
    rw [hnumbered.mem_retained hall] at hretained
    omega

end Reads

section Answers

variable {server : Deployment} {principals : Table Principal.principalId}
  {browserSessions : Table BrowserSession.sessionId} {bootstraps : Table SessionBootstrapIdempotency.key}
  {moves : List ServerMove} {session : ℕ} {scope : Scope} {k : Id} {after : Option Id} {stamp : SyncStamp}

variable (server principals browserSessions bootstraps moves session scope k after stamp) in
def Looked (c : Conversation) (rows : Tables) : Prop :=
  (World.initial (unused principals browserSessions bootstraps) : ServerWorld).Faced (body server) moves session
    (.replayEvents scope k after stamp) (Outcome.replay <$> replayAfter scope k after stamp c) rows

variable (server principals browserSessions bootstraps moves session scope k after stamp) in
inductive Answers : EventReplay → Prop
  | all (earlier : List ServerMove) (absent : after.bind present = none) : Answers (.events
      (readAfter scope k 0 (Replays.run server principals browserSessions bootstraps earlier).db))
  | behind (eventId : Id) (c : Conversation) (rows : Tables) (cursor : ConversationEvent)
      (earlier : List ServerMove)
      (sent : after.bind present = some eventId)
      (looked : Looked server principals browserSessions bootstraps moves session scope k after stamp c rows)
      (found : cursor ∈ conversationEvents.matching (isCursor scope k eventId) rows) : Answers (.events
        (readAfter scope k cursor.sequence (Replays.run server principals browserSessions bootstraps earlier).db))
  | missed (eventId : Id) (c : Conversation) (rows : Tables) (sent : after.bind present = some eventId)
      (looked : Looked server principals browserSessions bootstraps moves session scope k after stamp c rows)
      (none : conversationEvents.matching (isCursor scope k eventId) rows = []) :
      Answers (.syncRequired (syncRequiredEvent k c stamp))

lemma reads_replay : (body server (.replayEvents scope k after stamp)).Keeps Eq :=
  (keeps_replay (fun _ => rfl) scope k after stamp).map _

lemma answers_of_finished {answer : EventReplay}
    (h : .finished session (.replayEvents scope k after stamp) (.ok (.replay answer)) ∈
      (Replays.run server principals browserSessions bootstraps moves).history) :
    Answers server principals browserSessions bootstraps moves session scope k after stamp answer := by
  have htrail := World.trail_of_finished h
  change Program.Trail _ (Outcome.replay <$> EventStore.replay scope k after stamp) _ at htrail
  rw [map_eq_pure_bind] at htrail
  obtain ⟨answer', htrail, hreturned⟩ := htrail.bind_pure
  cases hreturned.of_pure
  obtain ⟨c, -, htrail⟩ := htrail.bind_pure
  rw [replayAfter] at htrail
  cases hsent : after.bind present with
  | none =>
    simp only [hsent] at htrail
    obtain ⟨rows, hrows, hreturned⟩ := htrail.bind_pure
    cases hreturned.of_pure
    obtain ⟨db, hfaced, rfl⟩ := hrows.select_pure
    obtain ⟨earlier, later, -, rfl, -⟩ := World.Faced.committed hfaced reads_replay
    exact .all earlier hsent
  | some eventId =>
    simp only [hsent] at htrail
    obtain ⟨found, hfound, htrail⟩ := htrail.bind_pure
    obtain ⟨rows, hfaced, rfl⟩ := hfound.select_pure
    have hlooked : Looked server principals browserSessions bootstraps moves session scope k after
      stamp c rows := by
      rw [Looked, map_eq_pure_bind, replayAfter]
      simp only [hsent]
      exact hfaced
    cases hc : (conversationEvents.matching (isCursor scope k eventId) rows).head? with
    | none =>
      have hnone : (conversationEvents.matching
        (fun r => isPublic scope k r && decide (r.eventId = eventId)) rows).head? =
        none := hc
      simp only [hnone] at htrail
      cases htrail.of_pure
      exact .missed eventId c rows hsent hlooked (List.head?_eq_none_iff.mp hc)
    | some cursor =>
      have hmem := List.mem_of_mem_head? hc
      have hsome : (conversationEvents.matching
        (fun r => isPublic scope k r && decide (r.eventId = eventId)) rows).head? =
        some cursor := hc
      simp only [hsome] at htrail
      obtain ⟨found, hrows, hreturned⟩ := htrail.bind_pure
      cases hreturned.of_pure
      obtain ⟨db, hfaced, rfl⟩ := hrows.select_pure
      obtain ⟨earlier, later, -, rfl, -⟩ := World.Faced.committed hfaced reads_replay
      exact .behind eventId c rows cursor earlier hsent hlooked hmem

end Answers

def Response.Precedes (r : Response) (sequence : ℕ) : Prop :=
  (∀ p ∈ r.named, p.sequence < sequence) ∧ ∀ e ∈ r.written, e.sequence < sequence

def Stage.replay : Stage → Option ℕ
  | .replaying session | .resyncing session => some session
  | _ => none

def Stage.coming : Stage → List PublicConversationEvent
  | .sending events => events
  | _ => []

def Misses (w : ServerWorld) (session : ℕ) (k : Id) (c : Conversation) : Prop :=
  ∃ scope after eventId stamp, after.bind present = some eventId ∧
    w.Faces session (.replayEvents scope k after stamp)
      (Outcome.replay <$> replayAfter scope k after stamp c) w.db ∧
    conversationEvents.matching (isCursor scope k eventId) w.db = []

/-- What a response that has written nothing is notified of comes after what its request named; and a replay that
misses its cursor has read a last number after that, and after what has been written. -/
def Timely (s : State) : Action → Prop
  | .move (.advance session) => ∀ r ∈ s.responses, r.stage.replay = some session →
      ∀ c, Misses s.world session r.conversationId c → r.Precedes (c.nextEventSequence - 1)
  | .proceed i _ _ =>
    ∀ r event, s.responses[i]? = some r → r.stage = .awaiting → r.written = [] → r.destroyed = false →
      s.notification r = some (.event event) → ∀ p ∈ r.named, p.sequence < event.sequence
  | _ => True

lemma Rising.left {named : List ConversationEvent} {events events' : List PublicConversationEvent}
    (h : Rising named (events ++ events')) : Rising named events :=
  ⟨h.1.sublist (List.sublist_append_left ..), fun p hp e he => h.2 p hp e (List.mem_append_left _ he)⟩

section Responses

variable {server : Deployment} {principals : Table Principal.principalId}
  {browserSessions : Table BrowserSession.sessionId} {bootstraps : Table SessionBootstrapIdempotency.key}
  {moves : List ServerMove} {session : ℕ} {r : Response} {event : PublicConversationEvent}
  {events : List PublicConversationEvent} {named : List ConversationEvent}

variable (server principals browserSessions bootstraps moves) in
structure Fits (r : Response) : Prop where
  valid : r.lastEventId.all isOpaqueId = true
  named : ∀ p ∈ r.named, p ∈ committedEvents r.conversationId
    (Replays.run server principals browserSessions bootstraps moves).history ∧ r.lastEventId = some p.eventId
  rising : Rising r.named (r.written ++ r.stage.coming)
  current : r.stage ≠ .ended → ∀ e ∈ r.written, e.sequence ≤ r.lastSequence
  fresh : ∀ session, r.stage = .replaying session → r.written = []
  replays : ∀ session, r.stage.replay = some session → ∃ after stamp,
    (Replays.run server principals browserSessions bootstraps moves).calls[session]? =
      some (.replayEvents r.scope r.conversationId after stamp) ∧
    (r.stage = .replaying session → after = r.lastEventId) ∧
    ∀ eventId c rows, after.bind present = some eventId →
      Looked server principals browserSessions bootstraps moves session r.scope r.conversationId after
        stamp c rows →
        (conversationEvents.matching (isCursor r.scope r.conversationId eventId) rows = [] →
          r.Precedes (c.nextEventSequence - 1)) ∧
        (after = r.lastEventId → ∀ cursor ∈ conversationEvents.matching
          (isCursor r.scope r.conversationId eventId) rows,
          ∀ p ∈ r.named, p.sequence ≤ cursor.sequence)

lemma present_of_valid {id : Id} (h : isOpaqueId id = true) : present id = some id := by
  refine if_neg ?_
  rintro rfl
  cases h

lemma Fits.move (h : Fits server principals browserSessions bootstraps moves r) {m : ServerMove}
    (hm : ∀ session, m = .advance session → r.stage.replay = some session → ∀ c,
      Misses (Replays.run server principals browserSessions bootstraps moves) session r.conversationId c →
        r.Precedes (c.nextEventSequence - 1)) :
    Fits server principals browserSessions bootstraps (moves ++ [m]) r := by
  refine ⟨h.valid, fun p hp => ⟨?_, (h.named p hp).2⟩, h.rising, h.current, h.fresh, fun session hreplay => ?_⟩
  · obtain ⟨new, hnew, -⟩ :=
      (Replays.run server principals browserSessions bootstraps moves).step_history (body server) m
    rw [Replays.run_concat, hnew, committedEvents_append]
    exact List.mem_append_left _ (h.named p hp).1
  · obtain ⟨after, stamp, hcall, hafter, hlooked⟩ := h.replays session hreplay
    refine ⟨after, stamp, ?_, hafter, fun eventId c rows hsent hl => ?_⟩
    · rw [Replays.run_concat]
      exact World.called_step hcall m
    rcases World.Faced.of_more hl with hl | ⟨rfl, hfaces⟩
    · exact hlooked eventId c rows hsent hl
    obtain ⟨s, hs, hlive, hsame, hprogram, hpending⟩ := hfaces
    have hrows : (Replays.run server principals browserSessions bootstraps moves).db = rows := by
      rw [← hpending]
      exact (World.pending_of_reads hs hlive (hsame ▸ reads_replay) _).symm
    subst hrows
    refine ⟨fun hnone => hm session rfl hreplay c ⟨r.scope, after, eventId, stamp, hsent, ?_, hnone⟩,
      fun heq cursor hcursor p hp => ?_⟩
    · exact ⟨s, hs, hlive, hsame, hprogram, hpending⟩
    · obtain ⟨hcommitted, hid⟩ := h.named p hp
      refine named_le_cursor (eventLog_exec server principals browserSessions bootstraps moves r.conversationId)
        hcommitted hcursor ?_
      rw [heq, hid, Option.bind_some] at hsent
      have hvalid := h.valid
      rw [hid, Option.all_some] at hvalid
      rw [present_of_valid hvalid] at hsent
      exact Option.some.inj hsent

lemma mem_of_result {h : List ServerRecord} {answer : Except ServerError Outcome}
    (hr : result h session = some answer) :
    ∃ call, .finished session call answer ∈ h := by
  obtain ⟨record, hm, hfound⟩ := List.exists_of_findSome?_eq_some hr
  split at hfound
  · split at hfound
    · rename_i hid
      subst hid
      cases hfound
      exact ⟨_, hm⟩
    · cases hfound
  · cases hfound

lemma Fits.answered (h : Fits server principals browserSessions bootstraps moves r)
    (hreplay : r.stage.replay = some session)
    {answer : EventReplay}
    (hr : result (Replays.run server principals browserSessions bootstraps moves).history session =
      some (.ok (.replay answer))) :
    (∀ event, answer = .syncRequired event → r.Precedes event.sequence) ∧
      ∀ events, answer = .events events → r.stage = .replaying session → Rising r.named events := by
  obtain ⟨after, stamp, hcall, hafter, hlooked⟩ := h.replays session hreplay
  obtain ⟨call, hfinished⟩ := mem_of_result hr
  cases hcall.symm.trans (World.called_of_finished hfinished)
  cases answers_of_finished hfinished with
  | all earlier absent =>
    refine ⟨fun _ he => (by cases he), fun _ he hstage => ?_⟩
    cases he
    refine rising_rows (eventLog_exec server principals browserSessions bootstraps earlier r.conversationId) 0
      fun p hp => ?_
    have hvalid := h.valid
    rw [hafter hstage, (h.named p hp).2, Option.bind_some] at absent
    rw [(h.named p hp).2, Option.all_some] at hvalid
    rw [present_of_valid hvalid] at absent
    cases absent
  | behind eventId c rows cursor earlier sent looked found =>
    refine ⟨fun _ he => (by cases he), fun _ he hstage => ?_⟩
    cases he
    exact rising_rows (eventLog_exec server principals browserSessions bootstraps earlier r.conversationId) _
      ((hlooked eventId c rows sent looked).2 (hafter hstage) cursor found)
  | missed eventId c rows sent looked none =>
    refine ⟨fun _ he => ?_, fun _ he => (by cases he)⟩
    cases he
    obtain ⟨hnamed, hwritten⟩ := (hlooked eventId c rows sent looked).1 none
    have hle : c.nextEventSequence - 1 ≤ (syncRequiredEvent r.conversationId c stamp).sequence :=
      Nat.le_max_right ..
    exact ⟨fun p hp => Nat.lt_of_lt_of_le (hnamed p hp) hle, fun e he => Nat.lt_of_lt_of_le (hwritten e he) hle⟩

lemma rising_append : Rising named (r.written ++ event :: events) ↔
    Rising named (r.written ++ events) ∧ (∀ e ∈ r.written, e.sequence < event.sequence) ∧
      (∀ e ∈ events, event.sequence < e.sequence) ∧ ∀ p ∈ named, p.sequence < event.sequence := by
  simp only [Rising, List.pairwise_append, List.pairwise_cons, List.forall_mem_append, List.forall_mem_cons]
  constructor
  · rintro ⟨⟨hw, ⟨hlater, he⟩, hcross⟩, habove⟩
    exact ⟨⟨⟨hw, he, fun a ha => (hcross a ha).2⟩, fun p hp => ⟨(habove p hp).1, (habove p hp).2.2⟩⟩,
      fun e he => (hcross e he).1, hlater, fun p hp => (habove p hp).2.1⟩
  · rintro ⟨⟨⟨hw, he, hcross⟩, habove⟩, hearlier, hlater, hnamed⟩
    exact ⟨⟨hw, ⟨hlater, he⟩, fun a ha => ⟨hearlier a ha, hcross a ha⟩⟩,
      fun p hp => ⟨(habove p hp).1, hnamed p hp, (habove p hp).2⟩⟩

lemma Fits.goes (h : Fits server principals browserSessions bootstraps moves r) {stage : Stage} {last taken : ℕ}
    {written : List PublicConversationEvent} (hreplay : stage.replay = none)
    (hrising : Rising r.named (written ++ stage.coming))
    (hcurrent : stage ≠ .ended → ∀ e ∈ written, e.sequence ≤ last) :
    Fits server principals browserSessions bootstraps moves
      { r with stage := stage, lastSequence := last, taken := taken, written := written } := by
  refine ⟨h.valid, h.named, hrising, hcurrent, fun session hs => ?_, fun session hs => ?_⟩
  · change stage = .replaying session at hs
    rw [hs] at hreplay
    cases hreplay
  · change stage.replay = some session at hs
    rw [hreplay] at hs
    cases hs

lemma Fits.write (h : Fits server principals browserSessions bootstraps moves r) {stage : Stage} {last taken : ℕ}
    (hreplay : stage.replay = none) (hrising : Rising r.named (r.written ++ event :: stage.coming))
    (hlast : stage ≠ .ended → last = event.sequence) : Fits server principals browserSessions bootstraps moves
      { r.write event with stage := stage, lastSequence := last, taken := taken } := by
  obtain ⟨hrest, hearlier, -, -⟩ := rising_append.mp hrising
  rw [Response.write]
  split
  · refine h.goes hreplay hrest fun hs e he => ?_
    rw [hlast hs]
    exact Nat.le_of_lt (hearlier e he)
  · refine h.goes hreplay ?_ fun hs e he => ?_
    · rwa [List.append_assoc, List.singleton_append]
    · rw [hlast hs]
      rcases List.mem_append.mp he with he | he
      · exact Nat.le_of_lt (hearlier e he)
      · rw [List.mem_singleton.mp he]

lemma not_looked {call : Call} {scope : Scope} {k : Id} {after : Option Id} {stamp : SyncStamp} {c : Conversation}
    {rows : Tables} : ¬ Looked server principals browserSessions bootstraps (moves ++ [.start call])
      (Replays.run server principals browserSessions bootstraps moves).sessions.length scope k after
      stamp c rows := by
  intro h
  rcases World.Faced.of_more h with h | ⟨he, -⟩
  · obtain ⟨hlt, -⟩ := List.getElem?_eq_some_iff.mp h.called
    change _ < (World.calls (Replays.run server principals browserSessions bootstraps moves)).length at hlt
    rw [World.calls, List.length_map] at hlt
    exact Nat.lt_irrefl _ hlt
  · cases he

lemma Fits.receives (h : Fits server principals browserSessions bootstraps moves r) {taken : ℕ}
    (hrising : Rising r.named (r.written ++ [])) (hlater : ∀ e ∈ r.written, e.sequence < event.sequence)
    (hfirst : r.written = [] → r.destroyed = false → ∀ p ∈ r.named, p.sequence < event.sequence) :
    Fits server principals browserSessions bootstraps moves
      { r.write event with stage := .listening, lastSequence := event.sequence, taken := taken } := by
  cases hd : r.destroyed with
  | true =>
    rw [Response.write, if_pos hd]
    refine h.goes rfl ?_ fun _ e he => Nat.le_of_lt (hlater e he)
    exact hrising
  | false =>
    have hnamed : ∀ p ∈ r.named, p.sequence < event.sequence := by
      intro p hp
      cases hw : r.written with
      | nil => exact hfirst hw hd p hp
      | cons e written =>
        have he : e ∈ r.written := hw ▸ List.mem_cons_self
        exact (hrising.left.2 p hp e he).trans (hlater e he)
    refine h.write rfl ?_ fun _ => rfl
    exact rising_append.mpr ⟨hrising, hlater, fun _ he => absurd he List.not_mem_nil, hnamed⟩

lemma Fits.destroyed (h : Fits server principals browserSessions bootstraps moves r) :
    Fits server principals browserSessions bootstraps moves { r with destroyed := true } :=
  ⟨h.valid, h.named, h.rising, h.current, h.fresh, h.replays⟩

lemma Fits.asks (h : Fits server principals browserSessions bootstraps moves r) {stamp : SyncStamp}
    {after : Option Id}
    {stage : Stage} {taken : ℕ}
    (hreplay : stage.replay =
      some (Replays.run server principals browserSessions bootstraps moves).sessions.length)
    (hrising : Rising r.named (r.written ++ stage.coming))
    (hcurrent : ∀ e ∈ r.written, e.sequence ≤ r.lastSequence)
    (hfresh : ∀ session, stage = .replaying session → r.written = [] ∧ after = r.lastEventId) :
    Fits server principals browserSessions bootstraps
      (moves ++ [.start (.replayEvents r.scope r.conversationId after stamp)])
      { r with stage := stage, taken := taken } := by
  have hmoved := h.move (m := .start (.replayEvents r.scope r.conversationId after stamp)) fun _ he => by cases he
  refine ⟨h.valid, hmoved.named, hrising, fun _ => hcurrent, fun session hs => (hfresh session hs).1,
    fun session hs => ?_⟩
  cases hreplay.symm.trans hs
  refine ⟨after, stamp, ?_, fun hs => (hfresh _ hs).2, fun eventId c rows _ hlooked => absurd hlooked not_looked⟩
  rw [Replays.run_concat, World.calls_step]
  exact (List.getElem?_append_right (List.length_map _).le).trans (by simp)

lemma fits_new {process subscription : ℕ} {scope : Scope} {k : Id} {lastEventId : Option Id}
    (hvalid : lastEventId.all isOpaqueId = true) : Fits server principals browserSessions bootstraps moves
      ⟨process, subscription, scope, k, lastEventId,
        EventStreams.named (Replays.run server principals browserSessions bootstraps moves).history k
        lastEventId, .ended,
        0, 0, false, []⟩ where
  valid := hvalid
  named p hp := by
    obtain ⟨hm, hid⟩ := List.mem_filter.mp hp
    exact ⟨hm, of_decide_eq_true hid⟩
  rising := ⟨List.Pairwise.nil, fun _ _ _ he => absurd he List.not_mem_nil⟩
  current h := absurd rfl h
  fresh _ _ := rfl
  replays _ h := by cases h

end Responses

section Steps

variable {server : Deployment} {options : EventBrokerOptions} {principals : Table Principal.principalId}
  {browserSessions : Table BrowserSession.sessionId}
    {bootstraps : Table SessionBootstrapIdempotency.key} {s : State}
  {moves : List ServerMove} {i : ℕ} {r : Response}

variable (server principals browserSessions bootstraps moves) in
structure Sound (s : State) : Prop where
  world : s.world = Replays.run server principals browserSessions bootstraps moves
  fits : ∀ r ∈ s.responses, Fits server principals browserSessions bootstraps moves r

lemma Sound.put (h : Sound server principals browserSessions bootstraps moves s)
    (hr : Fits server principals browserSessions bootstraps moves r) (i : ℕ) :
    Sound server principals browserSessions bootstraps moves (s.put i r) := by
  refine ⟨h.world, fun r' hm => ?_⟩
  rcases List.mem_or_eq_of_mem_set hm with hm | rfl
  · exact h.fits r' hm
  · exact hr

lemma Sound.move (h : Sound server principals browserSessions bootstraps moves s) {m : ServerMove}
    (hm : Timely s (.move m)) : Sound server principals browserSessions bootstraps (moves ++ [m])
      { s with world := s.world.step (body server) m } := by
  refine ⟨?_, fun r hr => (h.fits r hr).move fun session he hreplay c hmisses => ?_⟩
  · rw [h.world, Replays.run_concat]
  · subst he
    exact hm r hr hreplay c (h.world ▸ hmisses)

lemma Sound.putBroker (h : Sound server principals browserSessions bootstraps moves s) (process : ℕ)
    (b : EventBroker) :
    Sound server principals browserSessions bootstraps moves (s.putBroker process b) := ⟨h.world, h.fits⟩

lemma Sound.fail (h : Sound server principals browserSessions bootstraps moves s)
    (hr : Fits server principals browserSessions bootstraps moves r) (i : ℕ) :
    Sound server principals browserSessions bootstraps moves (s.fail i r) :=
  (h.put (hr.goes rfl ((List.append_nil _).symm ▸ hr.rising.left) fun he => absurd rfl he) i).putBroker ..

lemma Sound.disconnect (h : Sound server principals browserSessions bootstraps moves s)
    (hr : Fits server principals browserSessions bootstraps moves r) (i : ℕ) :
    Sound server principals browserSessions bootstraps moves (s.disconnect i r) := by
  rw [State.disconnect]
  split
  · exact h
  · split
    · exact h.put hr.destroyed i
    · exact (h.put hr.destroyed i).putBroker ..

lemma Sound.publish (h : Sound server principals browserSessions bootstraps moves s) (process session : ℕ) :
    Sound server principals browserSessions bootstraps moves (s.publish options process session) := by
  rw [State.publish]
  split
  · split
    · exact h
    · split <;> exact ⟨h.world, h.fits⟩
  · exact h

lemma Sound.request (h : Sound server principals browserSessions bootstraps moves s) (process : ℕ)
    (scope : Scope) (k : Id)
    (lastEventId : Option Id) (stamp : SyncStamp) :
    ∃ moves', Sound server principals browserSessions bootstraps moves'
      (s.request server process scope k lastEventId stamp) := by
  rw [State.request]
  split
  · rename_i hvalid
    obtain ⟨-, hvalid⟩ := Bool.and_eq_true_iff.mp hvalid
    have hmoved := h.move (m := .start (.replayEvents scope k lastEventId stamp)) trivial
    refine ⟨_, hmoved.world, fun r hr => ?_⟩
    rcases List.mem_append.mp hr with hr | hr
    · exact hmoved.fits r hr
    · rw [List.mem_singleton.mp hr, h.world]
      have hreplay : (Stage.replaying
        (Replays.run server principals browserSessions bootstraps moves).sessions.length).replay
        = some (Replays.run server principals browserSessions bootstraps moves).sessions.length := rfl
      refine (fits_new hvalid).asks hreplay ?_ ?_ fun _ _ => ⟨rfl, rfl⟩
      · exact (fits_new hvalid).rising
      · exact fun _ he => absurd he List.not_mem_nil
  · exact ⟨moves, h⟩

lemma Sound.proceed (h : Sound server principals browserSessions bootstraps moves s)
    (hi : s.responses[i]? = some r)
    {randomUUID : Id} {stamp : SyncStamp} (ht : Timely s (.proceed i randomUUID stamp)) :
    ∃ moves', Sound server principals browserSessions bootstraps moves'
    (s.proceed server i r randomUUID stamp) := by
  have hr := h.fits r (List.mem_of_getElem? hi)
  have hrising := hr.rising
  have hcurrent := hr.current
  rw [State.proceed]
  cases hstage : r.stage with
  | replaying session =>
    rw [hstage] at hrising hcurrent
    have hanswered : ∀ {answer}, result s.world.history session = some (.ok (.replay answer)) → _ := fun hres =>
      hr.answered (by rw [hstage]; rfl) (h.world ▸ hres)
    dsimp only
    split
    · rename_i hres
      refine ⟨moves, h.put (hr.goes rfl ?_ fun _ => hcurrent (by simp)) i⟩
      rw [hr.fresh session hstage]
      exact (hanswered hres).2 _ rfl hstage
    · rename_i hres
      obtain ⟨hnamed, hwritten⟩ := (hanswered hres).1 _ rfl
      refine ⟨moves, h.put (hr.write rfl ?_ fun he => absurd rfl he) i⟩
      exact rising_append.mpr ⟨hrising, hwritten, fun _ he => absurd he List.not_mem_nil, hnamed⟩
    · exact ⟨moves, h.fail hr i⟩
    · exact ⟨moves, h⟩
  | sending events =>
    rw [hstage] at hrising hcurrent
    cases events with
    | nil =>
      refine ⟨moves, h.put (hr.goes rfl ?_ fun _ => hcurrent (by simp)) i⟩
      exact hrising
    | cons event events =>
      refine ⟨moves, h.put (hr.write rfl ?_ fun _ => rfl) i⟩
      exact hrising
  | listening =>
    rw [hstage] at hrising hcurrent
    dsimp only
    split
    · refine ⟨moves, h.put (hr.goes rfl ?_ fun _ => hcurrent (by simp)) i⟩
      exact hrising
    · refine ⟨moves, (h.put (hr.goes rfl ?_ fun _ => hcurrent (by simp)) i).putBroker ..⟩
      exact hrising
  | awaiting =>
    rw [hstage] at hrising hcurrent
    have hcurrent := hcurrent (by simp)
    dsimp only
    split
    · refine ⟨moves, h.put (hr.goes rfl ?_ fun _ => hcurrent) i⟩
      exact hrising
    · rw [h.world]
      have hmoved := h.move (m := .start (.replayEvents r.scope r.conversationId (some randomUUID) stamp)) trivial
      have hreplay : (Stage.resyncing
        (Replays.run server principals browserSessions bootstraps moves).sessions.length).replay
        = some (Replays.run server principals browserSessions bootstraps moves).sessions.length := rfl
      refine ⟨_, hmoved.put (hr.asks hreplay ?_ hcurrent fun _ he => by cases he) i⟩
      exact hrising
    · rename_i event hevent
      split
      · refine ⟨moves, h.put (hr.goes rfl ?_ fun _ => hcurrent) i⟩
        exact hrising
      · rename_i hnew
        have hlater : ∀ e ∈ r.written, e.sequence < event.sequence := fun e he => by
          have := hcurrent e he
          omega
        exact ⟨moves, h.put (hr.receives hrising hlater fun hw hd => ht r event hi hstage hw hd hevent) i⟩
    · exact ⟨moves, h⟩
  | resyncing session =>
    rw [hstage] at hrising
    dsimp only
    split
    · rename_i hres
      obtain ⟨hnamed, hwritten⟩ := (hr.answered (by rw [hstage]; rfl) (h.world ▸ hres)).1 _ rfl
      refine ⟨moves, h.put (hr.write rfl ?_ fun he => absurd rfl he) i⟩
      exact rising_append.mpr ⟨hrising, hwritten, fun _ he => absurd he List.not_mem_nil, hnamed⟩
    · exact ⟨moves, h.fail hr.destroyed i⟩
    · exact ⟨moves, h⟩
  | ended => exact ⟨moves, h⟩

lemma Sound.step (h : Sound server principals browserSessions bootstraps moves s) {a : Action} (ht : Timely s a) :
    ∃ moves', Sound server principals browserSessions bootstraps moves' (s.step server options a) := by
  cases a with
  | move m => exact ⟨_, h.move ht⟩
  | publish process session => exact ⟨moves, h.publish process session⟩
  | request process scope k lastEventId stamp => exact h.request process scope k lastEventId stamp
  | proceed i randomUUID stamp =>
    rw [State.step]
    split
    · exact h.proceed ‹_› ht
    · exact ⟨moves, h⟩
  | disconnect i =>
    rw [State.step]
    split
    · rename_i r hi
      exact ⟨moves, h.disconnect (h.fits r (List.mem_of_getElem? hi)) i⟩
    · exact ⟨moves, h⟩

end Steps

/-- In every run whose steps are timely, the sequences that a response writes increase and all come after what
its request named. -/
theorem timely_responses_rise (server : Deployment) (options : EventBrokerOptions)
    (principals : Table Principal.principalId)
    (browserSessions : Table BrowserSession.sessionId) (bootstraps : Table SessionBootstrapIdempotency.key)
    (actions : List Action) (h : Transition.Along (State.step server options) Timely
      (initial principals browserSessions bootstraps) actions) :
    ∀ r ∈ (run server options principals browserSessions bootstraps actions).responses,
      Rising r.named r.written := by
  have hsound : ∃ moves, Sound server principals browserSessions bootstraps moves
      (run server options principals browserSessions bootstraps actions) := by
    refine h.invariant (fun s => ∃ moves, Sound server principals browserSessions bootstraps moves s)
      ⟨[], rfl, ?_⟩ ?_
    · exact fun r hr => absurd hr List.not_mem_nil
    · exact fun s a ⟨moves, hs⟩ ha => hs.step ha
  obtain ⟨moves, hs⟩ := hsound
  exact fun r hr => (hs.fits r hr).rising.left

theorem untimely_event_repeats {server : Deployment} {options : EventBrokerOptions} {s : State} {i : ℕ}
    {r : Response}
    {event : PublicConversationEvent} {p : ConversationEvent} (hi : s.responses[i]? = some r)
    (hstage : r.stage = .awaiting) (hd : r.destroyed = false) (hevent : s.notification r = some (.event event))
    (hnew : r.lastSequence < event.sequence) (hp : p ∈ r.named) (hle : event.sequence ≤ p.sequence)
    (randomUUID : Id)
    (stamp : SyncStamp) :
    ¬ ∀ r ∈ (s.step server options (.proceed i randomUUID stamp)).responses, Rising r.named r.written := by
  intro h
  have hstep : s.step server options (.proceed i randomUUID stamp) = s.put i { r.write event with
      lastSequence := event.sequence, stage := .listening, taken := r.taken + 1 } := by
    simp only [State.step, hi, State.proceed, hstage, hevent]
    exact if_neg (Nat.not_le.mpr hnew)
  rw [hstep, Response.write, hd, if_neg Bool.false_ne_true] at h
  obtain ⟨hlt, -⟩ := List.getElem?_eq_some_iff.mp hi
  obtain ⟨-, habove⟩ := h _ (List.mem_of_getElem? (List.getElem?_set_self hlt))
  have := habove p hp event (List.mem_append_right _ (List.mem_singleton_self _))
  omega

def calm (s : State) : Action → Bool
  | .move (.advance session) => s.responses.all fun r => r.stage.replay ≠ some session ||
      match s.world.calls[session]? with
      | some (.replayEvents scope k after _) => match after.bind present with
          | some eventId => !(conversationEvents.matching (isCursor scope k eventId) s.world.db).isEmpty
          | none => true
      | _ => false
  | .proceed i _ _ => match s.responses[i]? with
      | some r => match s.notification r with
          | some (.event event) => r.named.all fun p => p.sequence < event.sequence
          | _ => true
      | none => true
  | _ => true

lemma timely_of_calm {s : State} {a : Action} (h : calm s a = true) : Timely s a := by
  cases a with
  | move m =>
    cases m with
    | advance session =>
      intro r hr hreplay c ⟨scope, after, eventId, stamp, hsent, hfaces, hnone⟩
      obtain ⟨s', hs', -, hcall, -⟩ := hfaces
      have hcalls : s.world.calls[session]? = some (.replayEvents scope r.conversationId after stamp) := by
        rw [World.calls, List.getElem?_map, hs', Option.map_some, hcall]
      have hcalm := List.all_eq_true.mp h r hr
      simp only [hreplay, hcalls, hsent, hnone] at hcalm
      simp at hcalm
    | start | crash => trivial
  | proceed i randomUUID stamp =>
    intro r event hi _ _ _ hevent p hp
    simp only [calm, hi, hevent, List.all_eq_true, decide_eq_true_eq] at h
    exact h p hp
  | publish | request | disconnect => trivial

section Scenario

lemma buffer_positive : 1 ≤ 2 := by decide

def pairs : EventBrokerOptions := ⟨2, buffer_positive⟩

def ask (lastEventId : Option Id) : Action := .request 0 Replays.visitor "conversation" lastEventId ⟨"sync", 0⟩

def proceeds (i steps : ℕ) : List Action := List.replicate steps (.proceed i "uuid" ⟨"sync", 0⟩)

def moves (moves : List ServerMove) : List Action := moves.map .move

def appended : List Action := moves (.start (.createConversation Replays.visitor "agent" ""
    ⟨"conversation", "user", "assistant"⟩ 0) :: List.replicate 10 (.advance 0) ++
  .start (Replays.delta "first" "one") :: List.replicate 5 (.advance 1))

def streamed (actions : List Action) : State := run Replays.forgetful pairs Replays.visitors ∅ ∅ actions

def late : List Action := appended ++ [ask none] ++ moves (List.replicate 3 (.advance 2)) ++ proceeds 0 3 ++
  [.disconnect 0, ask (some "first")] ++ moves (List.replicate 4 (.advance 3)) ++ proceeds 1 3 ++ [.publish 0 1] ++
  proceeds 1 1

theorem cursor_event_repeated : ¬ ∀ r ∈ (streamed late).responses, Rising r.named r.written := by decide +kernel

def punctual : List Action :=
  appended ++ [.publish 0 1, ask (some "first")] ++ moves (List.replicate 4 (.advance 2)) ++
  proceeds 0 3 ++ moves (.start (Replays.delta "second" "two") :: List.replicate 5 (.advance 3)) ++
    [.publish 0 3] ++
  proceeds 0 1

theorem punctual_responses_rise :
    (streamed punctual).responses.map (fun r => r.written.map (·.eventId)) = [["second"]] ∧
    ∀ r ∈ (streamed punctual).responses, Rising r.named r.written := by
  refine ⟨by decide +kernel, ?_⟩
  have hcalm : Transition.Along (State.step Replays.forgetful pairs) (fun s a => calm s a = true)
      (initial Replays.visitors ∅ ∅) punctual := by decide +kernel
  exact timely_responses_rise Replays.forgetful pairs Replays.visitors ∅ ∅ punctual
    (hcalm.mono fun _ _ => timely_of_calm)

end Scenario

end ChatCore.Services.EventStreams
