import ChatCore.EventDelivery.Steps

/-! What a response has written of the events of its conversation, and what it passes over. -/

namespace ChatCore.EventDelivery

open Transition Protocol Relational Database Services Services.EventNumbering Services.EventStore
  Services.EventStreams

def received (r : Response) (b : BufferedSubscription) : List PublicConversationEvent :=
  (b.yielded.take r.taken).filterMap ofNotification

namespace Setting

variable (S : Setting) (past : List Action) (i : ℕ)

def AtRows (session : ℕ) (r : Response) (after : ℕ) : Prop :=
  (S.state past).responses[i]? = some r ∧ r.stage = .replaying session ∧ ∃ stamp,
    (S.state past).world.Faces session (.replayEvents r.scope r.conversationId r.lastEventId stamp)
      (Outcome.replay <$> replayRows r.scope r.conversationId after) (S.state past).world.db

def RowsRead (after : ℕ) (earlier : List Action) : Prop :=
  ∃ session later r, past = earlier ++ .move (.advance session) :: later ∧ S.AtRows earlier i session r after

/-- When the replay of the request reads its rows, no public event behind its cursor has been pruned. -/
def Unpruned : Action → Prop
  | .move (.advance session) => ∀ r after, S.AtRows past i session r after → r.destroyed = false →
      r.lastEventId.bind present ≠ none → ∀ e ∈ S.log past r.conversationId, e.visibility = .public →
        after < e.sequence →
        e ∈ (S.state past).world.db.conversationEvents
  | _ => True

/-- What is published to the subscription of a response that goes on comes next of the public events that have been
committed since its rows were read. -/
def Follows : Action → Prop
  | .publish process session =>
    ∀ r b persisted after earlier, (S.state past).responses[i]? = some r → r.process = process →
      r.destroyed = false → r.stage ≠ .ended →
      ((S.state past).brokers process).buffered[r.subscription]? = some b →
        roomy S.options.subscriberBufferSize b = true →
      result (S.state past).world.history session = some (.ok (.appended persisted)) →
      session ∉ (S.state past).published → persisted.event.visibility = .public →
      persisted.event.conversationId = r.conversationId → S.RowsRead past i after earlier →
      ∀ e ∈ publicAbove (S.log earlier r.conversationId).length (S.log past r.conversationId),
        e.sequence < persisted.sequence → e.sequence ∈ (given b).map (·.sequence)
  | _ => True

def base (r : Response) (after : ℕ) (earlier : List Action) : ℕ :=
  if (r.lastEventId.bind present).isSome then after
  else (S.log earlier r.conversationId).length - S.server.retentionMaxEvents

structure Begins (r : Response) (after : ℕ) (earlier : List Action) : Prop where
  read : S.RowsRead past i after earlier
  cursor : ∀ eventId, r.lastEventId.bind present = some eventId → ∃ cursor ∈ S.log past r.conversationId,
    cursor.eventId = eventId ∧ cursor.visibility = .public ∧ cursor.sequence = after

/-- What the response has written are public events of its conversation, and from the base on a first part of
them, in order and each once. -/
structure Delivered (r : Response) : Prop where
  mine : ∀ e ∈ r.written, e.body = .syncRequired ∨ normal e ∈ publicAbove 0 (S.log past r.conversationId)
  first : r.written.filter isEvent = [] ∨ ∃ after earlier, S.Begins past i r after earlier ∧
    (above (S.base r after earlier) (r.written.filter isEvent)).map normal <+:
      publicAbove (S.base r after earlier) (S.log past r.conversationId)

end Setting

lemma prefix_snoc {α : Type} {f : α → ℕ} {l front : List α} {x : α} (hl : l.Pairwise fun a b => f a < f b)
    (hfront : front <+: l) (hx : x ∈ l) (hnew : ∀ y ∈ front, f y ≠ f x)
    (hnext : ∀ y ∈ l, f y < f x → ∃ z ∈ front, f z = f y) : front ++ [x] <+: l := by
  obtain ⟨rest, rfl⟩ := hfront
  obtain ⟨-, hrest, hcross⟩ := List.pairwise_append.mp hl
  have hx' := (List.mem_append.mp hx).resolve_left fun h => hnew x h rfl
  cases rest with
  | nil => cases hx'
  | cons y rest =>
    have hyx : y = x := by
      refine ((List.mem_cons.mp hx').resolve_right fun hm => ?_).symm
      obtain ⟨z, hz, hzy⟩ :=
        hnext y (List.mem_append_right _ List.mem_cons_self) ((List.pairwise_cons.mp hrest).1 x hm)
      exact absurd hzy (Nat.ne_of_lt (hcross z hz y List.mem_cons_self))
    subst hyx
    exact ⟨rest, by rw [List.append_assoc, List.singleton_append]⟩

namespace Setting

variable (S : Setting) (past : List Action) (i : ℕ)

structure Flow (r : Response) (b : BufferedSubscription) (after : ℕ) (earlier : List Action) : Prop where
  begins : S.Begins past i r after earlier
  whole : above (S.base r after earlier) (r.written.filter isEvent) ++ r.stage.coming =
    publicAbove (S.base r after earlier) (S.log earlier r.conversationId) ++
      above (max (S.base r after earlier) (S.log earlier r.conversationId).length) (received r b)
  rows : ∀ x ∈ publicAbove (S.base r after earlier) (S.log earlier r.conversationId),
    x ∈ r.stage.coming ∨ x.sequence ≤ r.lastSequence
  last : r.lastSequence ≤ (S.log earlier r.conversationId).length ∨
    ∃ x ∈ received r b, x.sequence = r.lastSequence ∧ (S.log earlier r.conversationId).length < x.sequence

def flows : Stage → Bool
  | .sending _ | .listening | .awaiting => true
  | _ => false

structure Asked (session : ℕ) (r : Response) : Prop where
  call : ∃ stamp, (S.state past).world.calls[session]? =
    some (.replayEvents r.scope r.conversationId r.lastEventId stamp)
  fresh : r.written = [] ∧ r.lastSequence = 0
  since : ∀ earlier later, past = earlier ++ later → session < (S.state earlier).world.sessions.length →
    ∃ r₀, (S.state earlier).responses[i]? = some r₀ ∧ r₀.stage = .replaying session ∧ Same r₀ r ∧
      (r.destroyed = false → r₀.destroyed = false)

structure Tracked (r : Response) (b : BufferedSubscription) : Prop where
  bounded : r.taken ≤ b.yielded.length
  untaken : ∀ session events, r.stage = .replaying session ∨ r.stage = .sending events → r.taken = 0
  gapless : r.destroyed = false → r.stage ≠ .ended → ∀ after earlier, S.RowsRead past i after earlier →
    (above (S.log earlier r.conversationId).length (given b)).map normal <+:
      publicAbove (S.log earlier r.conversationId).length (S.log past r.conversationId)
  asked : ∀ session, r.stage = .replaying session → S.Asked past i session r
  delivered : S.Delivered past i r
  flow : r.destroyed = false → flows r.stage = true → ∃ after earlier, S.Flow past i r b after earlier

variable {S past i} {a : Action} {r r' : Response} {b b' : BufferedSubscription} {after : ℕ}
  {earlier : List Action}

lemma RowsRead.snoc (h : S.RowsRead past i after earlier) (a : Action) :
    S.RowsRead (past ++ [a]) i after earlier := by
  obtain ⟨session, later, r, rfl, hrows⟩ := h
  exact ⟨session, later ++ [a], r, by simp, hrows⟩

lemma RowsRead.of_snoc (h : S.RowsRead (past ++ [a]) i after earlier) : S.RowsRead past i after earlier ∨
    earlier = past ∧ ∃ session r, a = .move (.advance session) ∧ S.AtRows past i session r after := by
  obtain ⟨session, later, r, hpast, hrows⟩ := h
  rcases List.eq_nil_or_concat later with rfl | ⟨later, a', rfl⟩
  · obtain ⟨rfl, ha⟩ := List.append_inj' hpast rfl
    exact Or.inr ⟨rfl, session, r, List.singleton_inj.mp ha, hrows⟩
  · rw [List.concat_eq_append, ← List.cons_append, ← List.append_assoc] at hpast
    obtain ⟨rfl, -⟩ := List.append_inj' hpast rfl
    exact Or.inl ⟨session, later, r, rfl, hrows⟩

lemma RowsRead.earlier_append (h : S.RowsRead past i after earlier) : ∃ later, past = earlier ++ later := by
  obtain ⟨session, later, r, hpast, -⟩ := h
  exact ⟨_, hpast⟩

lemma Begins.snoc (h : S.Begins past i r after earlier) (a : Action) :
    S.Begins (past ++ [a]) i r after earlier := by
  refine ⟨h.read.snoc a, fun eventId he => ?_⟩
  obtain ⟨cursor, hm, hc⟩ := h.cursor eventId he
  exact ⟨cursor, (log_append _ _).subset hm, hc⟩

lemma Begins.congr (h : S.Begins past i r after earlier) (hsame : Same r r') :
    S.Begins past i r' after earlier := by
  refine ⟨h.read, ?_⟩
  rw [hsame.conversationId, hsame.lastEventId]
  exact h.cursor

lemma Delivered.snoc (h : S.Delivered past i r) (a : Action) : S.Delivered (past ++ [a]) i r := by
  refine ⟨fun e he => (h.mine e he).imp id fun hm => (publicAbove_grows 0 (log_append _ _)).subset hm, ?_⟩
  refine h.first.imp id fun ⟨after, earlier, hbegins, hfirst⟩ => ⟨after, earlier, hbegins.snoc a, ?_⟩
  exact hfirst.trans (publicAbove_grows _ (log_append _ _))

lemma Delivered.congr (h : S.Delivered past i r) (hsame : Same r r') (hmine : ∀ e ∈ r'.written, e ∈ r.written ∨
    e.body = .syncRequired) (hwritten : r'.written.filter isEvent = r.written.filter isEvent) : S.Delivered
      past i r' := by
  have hbase : ∀ after earlier, S.base r' after earlier = S.base r after earlier := by
    intro after earlier
    rw [base, base, hsame.lastEventId, hsame.conversationId]
  refine ⟨fun e he => ?_, ?_⟩
  · rw [hsame.conversationId]
    exact (hmine e he).elim (h.mine e) Or.inl
  · rw [hwritten, hsame.conversationId]
    refine h.first.imp id fun ⟨after, earlier, hbegins, hfirst⟩ => ⟨after, earlier, hbegins.congr hsame, ?_⟩
    rw [hbase]
    exact hfirst

section Steps

variable {S : Setting} {past : List Action} {i : ℕ} {a : Action} {r r' : Response}
  {b b' : BufferedSubscription} {after : ℕ}
  {earlier : List Action} {event : PublicConversationEvent}

lemma Tracked.length_le (h : S.Tracked past i r b) (hread : S.RowsRead past i after earlier) :
    (S.log earlier r.conversationId).length ≤ (S.log past r.conversationId).length := by
  obtain ⟨later, rfl⟩ := hread.earlier_append
  exact (log_append _ _).length_le

lemma Tracked.gapless_step (h : S.Tracked past i r b) (hpair : S.Pair past i r b)
    (hpasses : Passes S.options.subscriberBufferSize (S.state past) a r.process b b')
    (hfollows : S.Follows past i a)
    (hopen : r.destroyed = false) (hgoing : r.stage ≠ .ended) (hread : S.RowsRead (past ++ [a]) i after earlier) :
    (above (S.log earlier r.conversationId).length (given b')).map normal <+:
      publicAbove (S.log earlier r.conversationId).length (S.log (past ++ [a]) r.conversationId) := by
  have hfilter : ∀ {n : ℕ} {l l' : List PublicConversationEvent}, l <+: l' → (above n l).map normal <+:
    (above n l').map normal := by
    intro n l l' hl
    obtain ⟨more, rfl⟩ := hl
    rw [above_append, List.map_append]
    exact List.prefix_append _ _
  rcases hread.of_snoc with hread' | ⟨rfl, session, r₀, rfl, -⟩
  · have hlog := publicAbove_grows (S.log earlier r.conversationId).length
      (@log_append S past r.conversationId [a])
    rcases hpasses.given with ⟨hstart, -⟩ | ⟨session, persisted, rfl, hresult, hfresh, hvisible, hk, hroom, heq⟩
    · exact (hfilter hstart).trans ((h.gapless hopen hgoing after earlier hread').trans hlog)
    · refine List.IsPrefix.trans ?_ hlog
      rw [heq, above_append, List.map_append]
      by_cases hle : persisted.sequence ≤ (S.log earlier r.conversationId).length
      · have hnil : above (S.log earlier r.conversationId).length [persisted.toPublic] = [] := by
          refine List.filter_eq_nil_iff.mpr fun e he hlt => ?_
          rw [List.mem_singleton.mp he] at hlt
          exact absurd (of_decide_eq_true hlt) (Nat.not_lt.mpr hle)
        rw [hnil, List.map_nil, List.append_nil]
        exact h.gapless hopen hgoing after earlier hread'
      · have hone : above (S.log earlier r.conversationId).length [persisted.toPublic] = [persisted.toPublic] := by
          refine List.filter_eq_self.mpr fun e he => ?_
          rw [List.mem_singleton.mp he]
          exact decide_eq_true (Nat.lt_of_not_le hle)
        rw [hone]
        have hk' : persisted.event.conversationId = r.conversationId := hk.trans hpair.conversationId
        obtain ⟨x, hx, hxv, hxs, hxn⟩ := committed_of_appended hresult
        rw [hk'] at hx
        have hnot := not_given hpair.subscription hresult hfresh hk
        refine @prefix_snoc _ (·.sequence) _ _ _ (publicAbove_sorted _ _)
          (h.gapless hopen hgoing after earlier hread')
          ?_ ?_ ?_
        · exact mem_publicAbove.mpr ⟨x, hx, hxv.trans hvisible, by omega, hxn⟩
        · intro y hy
          obtain ⟨e, he, rfl⟩ := List.mem_map.mp hy
          exact hnot e (mem_above.mp he).1
        · intro y hy hlt
          have hgiven := hfollows r b persisted after earlier hpair.response rfl hopen hgoing
            hpair.subscription hroom hresult
            hfresh hvisible hk' hread' y hy hlt
          obtain ⟨e, he, hsame⟩ := List.mem_map.mp hgiven
          obtain ⟨x', -, -, hlarge, rfl⟩ := mem_publicAbove.mp hy
          refine ⟨normal e, List.mem_map_of_mem (mem_above.mpr ⟨he, ?_⟩), hsame⟩
          rw [hsame]
          exact hlarge
  · have hnil : above (S.log earlier r.conversationId).length (given b') = [] := by
      refine List.filter_eq_nil_iff.mpr fun e he hlt => ?_
      have he' : e ∈ given b := by
        rcases hpasses.given with ⟨hstart, -⟩ | ⟨_, _, hne, -⟩
        · exact hstart.subset he
        · cases hne
      obtain ⟨-, x, hx, -, hxs, -⟩ := known_event hpair.subscription he'
      rw [hpair.conversationId] at hx
      have := (sequence_le hx).2
      have := of_decide_eq_true hlt
      omega
    rw [hnil]
    exact List.nil_prefix

lemma received_prefix (r : Response) (b : BufferedSubscription) : received r b <+: given b := by
  rw [received, given, List.filterMap_append]
  exact ((List.take_prefix _ _).filterMap _).trans (List.prefix_append _ _)

lemma Flow.first (h : S.Flow past i r b after earlier)
    (hgapless : (above (S.log earlier r.conversationId).length (given b)).map normal <+:
      publicAbove (S.log earlier r.conversationId).length (S.log past r.conversationId)) :
    (above (S.base r after earlier) (r.written.filter isEvent)).map normal <+:
      publicAbove (S.base r after earlier) (S.log past r.conversationId) := by
  obtain ⟨later, rfl⟩ := h.begins.read.earlier_append
  have hreceived : (above (max (S.base r after earlier) (S.log earlier r.conversationId).length)
    (received r b)).map normal <+:
      publicAbove (max (S.base r after earlier) (S.log earlier r.conversationId).length)
        (S.log (earlier ++ later) r.conversationId) := by
    obtain ⟨more, hmore⟩ := received_prefix r b
    rw [← hmore, above_append, List.map_append] at hgapless
    have hfirst := (List.prefix_append _ _).trans hgapless
    obtain ⟨rest, hrest⟩ := hfirst
    have hlarge := congrArg (above (max (S.base r after earlier) (S.log earlier r.conversationId).length)) hrest
    rw [above_append, above_publicAbove (Nat.le_max_right ..), ← map_normal_above,
      above_above (Nat.le_max_right ..)] at hlarge
    exact ⟨_, hlarge⟩
  have hwhole : (above (S.base r after earlier) (r.written.filter isEvent)).map normal ++
    r.stage.coming.map normal <+:
      publicAbove (S.base r after earlier) (S.log (earlier ++ later) r.conversationId) := by
    rw [← List.map_append, h.whole, List.map_append, map_normal_publicAbove, publicAbove_split]
    exact (List.prefix_append_right_inj _).mpr hreceived
  exact (List.prefix_append _ _).trans hwhole

end Steps

section Flows

variable {S : Setting} {past : List Action} {i : ℕ} {a : Action} {r r' : Response}
  {b b' : BufferedSubscription} {after : ℕ}
  {earlier : List Action} {event : PublicConversationEvent} {events : List PublicConversationEvent}

lemma received_of_prefix (hbounded : r.taken ≤ b.yielded.length) (h : b.yielded <+: b'.yielded) :
    received r b' = received r b := by
  obtain ⟨more, hmore⟩ := h
  rw [received, received, ← hmore, List.take_append_of_le_length hbounded]

lemma Flow.snoc (h : S.Flow past i r b after earlier) (a : Action) (hreceived : received r b' = received r b) :
    S.Flow (past ++ [a]) i r b' after earlier := by
  exact ⟨h.begins.snoc a, hreceived ▸ h.whole, h.rows, hreceived ▸ h.last⟩

lemma write_open (hopen : r.destroyed = false) (event : PublicConversationEvent) :
    r.write event = { r with written := r.written ++ [event] } := by
  rw [Response.write, hopen]
  rfl

lemma received_nil (h : r.taken = 0) : received r b = [] := by
  rw [received, h, List.take_zero]
  rfl

lemma above_nil (n : ℕ) : above n [] = [] := rfl

lemma Flow.sends (h : S.Flow past i r b after earlier) (hopen : r.destroyed = false) (htaken : r.taken = 0)
    (hstage : r.stage = .sending (event :: events)) :
    S.Flow past i { r.write event with lastSequence := event.sequence, stage := .sending events } b
      after earlier := by
  have hwhole := h.whole
  have hcoming : r.stage.coming = event :: events := by rw [hstage]; rfl
  rw [received_nil htaken, above_nil, List.append_nil, hcoming] at hwhole
  have hsorted := @publicAbove_sorted S earlier (S.base r after earlier) r.conversationId
  rw [← hwhole] at hsorted
  obtain ⟨-, hlater, hcross⟩ := List.pairwise_append.mp hsorted
  have hrow : event ∈ publicAbove (S.base r after earlier) (S.log earlier r.conversationId) :=
    hwhole ▸ List.mem_append_right _ List.mem_cons_self
  obtain ⟨x, hx, -, hlarge, rfl⟩ := mem_publicAbove.mp hrow
  have hevent : isEvent (toConversationEvent x) = true := by simp [isEvent, toConversationEvent]
  rw [write_open hopen]
  refine ⟨⟨h.begins.read, h.begins.cursor⟩, ?_, fun y hy => ?_, Or.inl (sequence_le hx).2⟩
  · change above (S.base r after earlier) ((r.written ++ [toConversationEvent x]).filter isEvent) ++ events =
      publicAbove (S.base r after earlier) (S.log earlier r.conversationId) ++
        above (max (S.base r after earlier) (S.log earlier r.conversationId).length) (received r b)
    rw [received_nil htaken, above_nil, List.append_nil, ← hwhole, List.filter_append, above_append,
      List.append_assoc]
    have hone : above (S.base r after earlier) ([toConversationEvent x].filter isEvent) =
      [toConversationEvent x] := by
      rw [List.filter_cons_of_pos hevent, List.filter_nil]
      exact List.filter_eq_self.mpr fun e he => by
        rw [List.mem_singleton.mp he]
        exact decide_eq_true hlarge
    rw [hone]
    rfl
  · change y ∈ events ∨ y.sequence ≤ (toConversationEvent x).sequence
    change y ∈ publicAbove (S.base r after earlier) (S.log earlier r.conversationId) at hy
    rw [← hwhole] at hy
    rcases List.mem_append.mp hy with hy | hy
    · exact Or.inr (Nat.le_of_lt (hcross y hy _ List.mem_cons_self))
    · rcases List.mem_cons.mp hy with rfl | hy
      · exact Or.inr (Nat.le_refl _)
      · exact Or.inl hy

lemma received_succ (hnotified : b.yielded[r.taken]? = some (.event event))
    {written : List PublicConversationEvent}
    {lastSequence : ℕ} {stage : Stage} : received { r with
      taken := r.taken + 1, written := written, lastSequence := lastSequence, stage := stage } b =
        received r b ++ [event] := by
  rw [received, received]
  change (b.yielded.take (r.taken + 1)).filterMap ofNotification = _
  rw [List.take_add_one, hnotified, List.filterMap_append]
  rfl

lemma Flow.skips (h : S.Flow past i r b after earlier)
    (hgapless : (above (S.log earlier r.conversationId).length (given b)).map normal <+:
      publicAbove (S.log earlier r.conversationId).length (S.log past r.conversationId))
    (hstage : r.stage = .awaiting) (hnotified : b.yielded[r.taken]? = some (.event event))
    (hold : event.sequence ≤ r.lastSequence) :
    S.Flow past i { r with stage := .listening, taken := r.taken + 1 } b after earlier := by
  have hreceived : received { r with stage := .listening, taken := r.taken + 1 } b = received r b ++ [event] :=
    received_succ hnotified
  have hcoming : r.stage.coming = [] := by rw [hstage]; rfl
  have hsmall : ¬ (S.log earlier r.conversationId).length < event.sequence := by
    intro hlarge
    obtain ⟨x, hx, hxs, hxn⟩ := h.last.resolve_left (by omega)
    have hstart := received_prefix { r with stage := .listening, taken := r.taken + 1 } b
    obtain ⟨more, hmore⟩ := hstart
    rw [hreceived] at hmore
    rw [← hmore, above_append, above_append, List.map_append] at hgapless
    have hsorted := (publicAbove_sorted _ _).sublist ((List.prefix_append _ _).trans hgapless).sublist
    rw [List.map_append] at hsorted
    obtain ⟨-, -, hcross⟩ := List.pairwise_append.mp hsorted
    have hlt := hcross (normal x) (List.mem_map_of_mem (mem_above.mpr ⟨hx, hxn⟩)) (normal event)
      (List.mem_map_of_mem (mem_above.mpr ⟨List.mem_singleton_self _, hlarge⟩))
    change x.sequence < event.sequence at hlt
    omega
  refine ⟨⟨h.begins.read, h.begins.cursor⟩, ?_, ?_, ?_⟩
  · rw [hreceived, above_append]
    have hnil : above (max (S.base r after earlier) (S.log earlier r.conversationId).length) [event] = [] := by
      refine List.filter_eq_nil_iff.mpr fun e he hlt => ?_
      rw [List.mem_singleton.mp he] at hlt
      have := of_decide_eq_true hlt
      omega
    change above (S.base r after earlier) (r.written.filter isEvent) ++ [] =
      publicAbove (S.base r after earlier) _ ++
      (above (max (S.base r after earlier) (S.log earlier r.conversationId).length) _ ++
        above (max (S.base r after earlier) (S.log earlier r.conversationId).length) [event])
    rw [hnil, List.append_nil (above _ (received r b)), ← h.whole, hcoming]
  · have hrows := h.rows
    rw [hcoming] at hrows
    exact hrows
  · rw [hreceived]
    exact h.last.imp id fun ⟨x, hx, hxs⟩ => ⟨x, List.mem_append_left _ hx, hxs⟩

lemma Flow.receives (h : S.Flow past i r b after earlier) (hopen : r.destroyed = false)
    (hknown : isEvent event = true ∧ ∃ x ∈ S.log past r.conversationId,
      x.visibility = .public ∧ x.sequence = event.sequence ∧ toConversationEvent x = normal event)
    (hstage : r.stage = .awaiting) (hnotified : b.yielded[r.taken]? = some (.event event))
    (hnew : r.lastSequence < event.sequence) : S.Flow past i
      { r.write event with lastSequence := event.sequence, stage := .listening, taken := r.taken + 1 } b
      after earlier := by
  obtain ⟨hevent, x, hx, hxv, hxs, -⟩ := hknown
  have hcoming : r.stage.coming = [] := by rw [hstage]; rfl
  have hrows : ∀ x ∈ publicAbove (S.base r after earlier) (S.log earlier r.conversationId), x.sequence ≤
    r.lastSequence := by
    intro y hy
    exact (h.rows y hy).resolve_left (by rw [hcoming]; exact List.not_mem_nil)
  have hsame : (S.base r after earlier < event.sequence) ↔
      max (S.base r after earlier) (S.log earlier r.conversationId).length < event.sequence := by
    refine ⟨fun hlt => ?_, fun hlt => by omega⟩
    by_contra hle
    obtain ⟨later, rfl⟩ := h.begins.read.earlier_append
    have hx' : x ∈ S.log earlier r.conversationId := mem_of_sequence_le hx (by omega)
    have := hrows _ (mem_publicAbove.mpr ⟨x, hx', hxv, hxs ▸ hlt, rfl⟩)
    change x.sequence ≤ r.lastSequence at this
    omega
  rw [write_open hopen]
  have hreceived : received { r with
      lastSequence := event.sequence, stage := .listening, taken := r.taken + 1, written :=
        r.written ++ [event] } b =
      received r b ++ [event] := received_succ hnotified
  refine ⟨⟨h.begins.read, h.begins.cursor⟩, ?_, fun y hy => Or.inr ?_, ?_⟩
  · rw [hreceived]
    change above (S.base r after earlier) ((r.written ++ [event]).filter isEvent) ++ [] =
      publicAbove (S.base r after earlier) (S.log earlier r.conversationId) ++
        above (max (S.base r after earlier) (S.log earlier r.conversationId).length) (received r b ++ [event])
    have hone : above (S.base r after earlier) ([event].filter isEvent) =
        above (max (S.base r after earlier) (S.log earlier r.conversationId).length) [event] := by
      rw [List.filter_cons_of_pos hevent, List.filter_nil, above, above]
      refine List.filter_congr fun e he => ?_
      rw [List.mem_singleton.mp he]
      exact decide_eq_decide.mpr hsame
    have hwhole := h.whole
    rw [hcoming, List.append_nil] at hwhole
    rw [List.append_nil, List.filter_append, above_append, hwhole, hone, above_append, List.append_assoc]
  · exact (hrows y hy).trans (Nat.le_of_lt hnew)
  · rw [hreceived]
    by_cases hlarge : (S.log earlier r.conversationId).length < event.sequence
    · exact Or.inr ⟨event, List.mem_append_right _ (List.mem_singleton_self _), rfl, hlarge⟩
    · exact Or.inl (Nat.le_of_not_lt hlarge)

end Flows

section Tracking

variable {S : Setting} {past : List Action} {i : ℕ} {a : Action} {r r' : Response}
  {b b' : BufferedSubscription} {after : ℕ}
  {earlier : List Action} {event : PublicConversationEvent} {events : List PublicConversationEvent} {session : ℕ}

lemma committed_grows {found moves : List ServerMove} (h : found <+: moves) (k : Id) :
    committedEvents k (Replays.run S.server S.principals S.browserSessions S.bootstraps found).history <+:
      committedEvents k (Replays.run S.server S.principals S.browserSessions S.bootstraps moves).history := by
  obtain ⟨later, rfl⟩ := h
  induction later using List.reverseRecOn with
  | nil => rw [List.append_nil]
  | append_singleton later m ih =>
    obtain ⟨new, hnew, -⟩ := (Replays.run S.server S.principals S.browserSessions S.bootstraps
      (found ++ later)).step_history (body S.server) m
    rw [← List.append_assoc, Replays.run_concat, hnew, committedEvents_append]
    exact ih.trans (List.prefix_append _ _)

lemma Tracked.reads (h : S.Tracked past i r b) (hunpruned : Throughout (fun past a => S.Unpruned past i a) past)
    (hopen : r.destroyed = false) (hstage : r.stage = .replaying session)
    (hresult : result (S.state past).world.history session = some (.ok (.replay (.events events)))) :
    ∃ after earlier, S.Flow past i { r with stage := .sending events } b after earlier := by
  obtain ⟨⟨stamp, hcall⟩, ⟨hwritten, hlast⟩, hsince⟩ := h.asked session hstage
  rw [state_world] at hresult hcall
  obtain ⟨call, hfinished⟩ := mem_of_result hresult
  cases hcall.symm.trans (World.called_of_finished hfinished)
  obtain ⟨after, em, hreplayed, hevents⟩ := replayed_of_finished hfinished
  obtain ⟨later, hmoves, hfaces⟩ := hreplayed.rows
  obtain ⟨earlier, a, future, rfl, hem, hmoved⟩ := action_of_move hmoves
  have hem' : S.moves earlier = em := hem
  subst hem'
  obtain rfl := advance_of_moved hmoved
  rw [← state_world] at hfaces hevents
  obtain ⟨s, hs, hface⟩ := hfaces
  obtain ⟨r₀, hi₀, hstage₀, hsame, hopen₀⟩ := hsince earlier _ rfl (List.getElem?_eq_some_iff.mp hs).1
  have hat : S.AtRows earlier i session r₀ after := by
    refine ⟨hi₀, hstage₀, stamp, ?_⟩
    rw [← hsame.scope, ← hsame.conversationId, ← hsame.lastEventId]
    exact ⟨s, hs, hface⟩
  have hread : S.RowsRead (earlier ++ .move (.advance session) :: future) i after earlier :=
    ⟨session, future, r₀, rfl, hat⟩
  have howned : ∀ e ∈ S.log earlier r.conversationId, e.tenantId = r.scope.tenantId ∧
    e.siteId = r.scope.siteId := by
    obtain ⟨found, hfound, c, hc, hscope⟩ := hreplayed.conversation
    intro e he
    refine owned_of_found hfound hc hscope e ?_
    have hmem := (@log_append S earlier r.conversationId (.move (.advance session) :: future)).subset he
    rw [log, state_world] at hmem
    exact hmem
  rw [readAfter_eq (eventLog r.conversationId) howned] at hevents
  have hbase : events = publicAbove (S.base r after earlier) (S.log earlier r.conversationId) := by
    rw [hevents, base]
    cases hsent : r.lastEventId.bind present with
    | none =>
      rw [hreplayed.first hsent, Option.isSome_none, if_neg Bool.false_ne_true]
      exact publicAbove_kept (eventLog r.conversationId)
    | some eventId =>
      rw [Option.isSome_some, if_pos rfl]
      refine publicAbove_retained (eventLog r.conversationId) fun e he hvisible hlarge => ?_
      have hkept := (throughout_at hunpruned).2 r₀ after hat (hopen₀ hopen)
        (by rw [← hsame.lastEventId, hsent]; exact Option.some_ne_none _)
      rw [← hsame.conversationId] at hkept
      exact hkept e he hvisible hlarge
  refine ⟨after, earlier, ⟨hread, fun eventId hsent => ?_⟩, ?_, fun x hx => Or.inl ?_, Or.inl ?_⟩
  · obtain ⟨found, hfound, cursor, hcursor, hsequence⟩ := hreplayed.cursor eventId hsent
    obtain ⟨hm, hid, hvisible, -⟩ := Replays.cursor_of_eventLog
      (eventLog_exec S.server S.principals S.browserSessions S.bootstraps found r.conversationId) hcursor
    refine ⟨cursor, ?_, hid, hvisible, hsequence⟩
    have hmem := (committed_grows hfound r.conversationId).subset hm
    rw [log, state_world]
    exact hmem
  · change above (S.base r after earlier) (r.written.filter isEvent) ++ events =
      publicAbove (S.base r after earlier) (S.log earlier r.conversationId) ++
        above (max (S.base r after earlier) (S.log earlier r.conversationId).length) (received r b)
    rw [hwritten, received_nil (h.untaken session [] (Or.inl hstage)), above_nil, List.append_nil,
      List.filter_nil, above_nil,
      List.nil_append]
    exact hbase
  · change x ∈ events
    rw [hbase]
    exact hx
  · change r.lastSequence ≤ _
    rw [hlast]
    exact Nat.zero_le _

end Tracking

section Runs

variable {S : Setting} {past : List Action} {i : ℕ} {a : Action} {r r' : Response}
  {b b' : BufferedSubscription} {after : ℕ}
  {earlier : List Action} {event : PublicConversationEvent} {events : List PublicConversationEvent} {session : ℕ}

lemma Flow.restage (h : S.Flow past i r b after earlier) {stage : Stage} (hstage : stage.coming = r.stage.coming) :
    S.Flow past i { r with stage := stage } b after earlier := by
  refine ⟨⟨h.begins.read, h.begins.cursor⟩, ?_, ?_, h.last⟩
  · change _ ++ stage.coming = _
    rw [hstage]
    exact h.whole
  · change ∀ x ∈ _, x ∈ stage.coming ∨ _
    rw [hstage]
    exact h.rows

lemma Flow.delivered (h : S.Flow past i r b after earlier)
    (hgapless : (above (S.log earlier r.conversationId).length (given b)).map normal <+:
      publicAbove (S.log earlier r.conversationId).length (S.log past r.conversationId))
    (hmine : ∀ e ∈ r.written, e.body = .syncRequired ∨ normal e ∈ publicAbove 0 (S.log past r.conversationId)) :
    S.Delivered past i r := ⟨hmine, Or.inr ⟨after, earlier, h.begins, h.first hgapless⟩⟩

lemma body_of_told (h : result (S.state past).world.history session = some (.ok (.replay (.syncRequired event)))) :
    event.body = .syncRequired := by
  rw [state_world] at h
  obtain ⟨call, hfinished⟩ := mem_of_result h
  cases call
  case replayEvents scope k lastEventId stamp =>
    cases answers_of_finished hfinished with
    | missed => rfl
  all_goals
    obtain ⟨o, ho, -⟩ := outcome_of_finished rfl hfinished
    cases ho

lemma mem_given (h : b.yielded[r.taken]? = some (.event event)) : event ∈ given b :=
  List.mem_filterMap.mpr ⟨_, List.mem_append_left _ (List.mem_of_getElem? h), rfl⟩

lemma Delivered.write_sync (h : S.Delivered past i r) (hbody : event.body = .syncRequired) (stage : Stage) :
    S.Delivered past i { r.write event with stage := stage } := by
  have hsame : Same r { r.write event with stage := stage } :=
    ⟨(same_write r event).process, (same_write r event).subscription, (same_write r event).scope,
      (same_write r event).conversationId, (same_write r event).lastEventId⟩
  cases hopen : r.destroyed with
  | true =>
    have hwrite : r.write event = r := by rw [Response.write, if_pos hopen]
    rw [hwrite] at hsame ⊢
    exact h.congr hsame (fun e he => Or.inl he) rfl
  | false =>
    rw [write_open hopen] at hsame ⊢
    refine h.congr hsame (fun e he => ?_) ?_
    · rcases List.mem_append.mp he with he | he
      · exact Or.inl he
      · exact Or.inr (List.mem_singleton.mp he ▸ hbody)
    · have hno : isEvent event = false := by simp [isEvent, hbody]
      change (r.written ++ [event]).filter isEvent = r.written.filter isEvent
      rw [List.filter_append, List.filter_cons_of_neg (by simp [hno]), List.filter_nil, List.append_nil]

lemma Asked.snoc (h : S.Asked past i session r) (hi' : (S.state (past ++ [a])).responses[i]? = some r')
    (hstage : r'.stage = .replaying session) (hsame : Same r r') (hkept : Kept r r')
    (hfresh : r'.written = [] ∧ r'.lastSequence = 0) :
    S.Asked (past ++ [a]) i session r' := by
  refine ⟨?_, hfresh, fun earlier later hpast hlt => ?_⟩
  · obtain ⟨stamp, hcall⟩ := h.call
    refine ⟨stamp, ?_⟩
    rw [hsame.scope, hsame.conversationId, hsame.lastEventId, state_snoc, world_step]
    cases moved (S.state past) a with
    | none => exact hcall
    | some m => exact World.called_step hcall m
  · rcases List.eq_nil_or_concat later with rfl | ⟨later, a', rfl⟩
    · rw [List.append_nil] at hpast
      subst hpast
      exact ⟨r', hi', hstage, .refl _, id⟩
    · rw [List.concat_eq_append, ← List.append_assoc] at hpast
      obtain ⟨hpast, -⟩ := List.append_inj' hpast rfl
      obtain ⟨r₀, hi₀, hstage₀, hsame₀, hopen₀⟩ := h.since earlier later hpast hlt
      exact ⟨r₀, hi₀, hstage₀, hsame₀.trans hsame, fun hopen => hopen₀ (hkept.destroyed hopen)⟩

lemma Tracked.step (h : S.Tracked past i r b) (hpair : S.Pair past i r b) (hpair' : S.Pair (past ++ [a]) i r' b')
    (hgoes : Goes (S.state past) r r')
    (hpasses : Passes S.options.subscriberBufferSize (S.state past) a r.process b b')
    (hfollows : S.Follows past i a) (hunpruned : Throughout (fun past a => S.Unpruned past i a) past) :
    S.Tracked (past ++ [a]) i r' b' := by
  have hsame := hgoes.same
  have hkept := hgoes.kept
  have hreceived := received_of_prefix h.bounded hpasses.yielded
  have hdelivered := h.delivered.snoc a
  have hconversation := hpasses.conversationId.trans hpair.conversationId
  have hbounded := h.bounded.trans hpasses.yielded.length_le
  have hgapless : r.destroyed = false → r.stage ≠ .ended → ∀ after earlier,
    S.RowsRead (past ++ [a]) i after earlier →
      (above (S.log earlier r.conversationId).length (given b')).map normal <+:
        publicAbove (S.log earlier r.conversationId).length (S.log (past ++ [a]) r.conversationId) :=
    fun hopen hgoing _ _ hread => h.gapless_step hpair hpasses hfollows hopen hgoing hread
  have hflow : r.destroyed = false → flows r.stage = true → ∃ after earlier,
    S.Flow (past ++ [a]) i r b' after earlier := by
    intro hopen hstage
    obtain ⟨after, earlier, hf⟩ := h.flow hopen hstage
    exact ⟨after, earlier, hf.snoc a hreceived⟩
  have hnotified : ∀ {n}, (S.state past).notification r = some n →
      b'.yielded[r.taken]? = some n ∧ r.taken + 1 ≤ b'.yielded.length := by
    intro n hn
    rw [State.notification, hpair.subscription] at hn
    obtain ⟨more, hmore⟩ := hpasses.yielded
    obtain ⟨hlt, -⟩ := List.getElem?_eq_some_iff.mp hn
    rw [← hmore, List.getElem?_append_left hlt, List.length_append]
    exact ⟨hn, by omega⟩
  -- a response that is no longer replaying, and has not begun to
  have hmoved : ∀ {r'' : Response}, (∀ session, r''.stage ≠ .replaying session) → Same r r'' → Kept r r'' →
      r''.taken ≤ b'.yielded.length → (∀ events, r''.stage = .sending events → r''.taken = 0) →
        S.Delivered (past ++ [a]) i r'' →
      (r''.destroyed = false → flows r''.stage = true → ∃ after earlier,
        S.Flow (past ++ [a]) i r'' b' after earlier) →
      S.Tracked (past ++ [a]) i r'' b' := by
    intro r'' hstage hsame' hkept' hb'' hsending hd hf
    refine ⟨hb'', fun session events hs => ?_, fun hopen hgoing => ?_,
      fun session hs => ?_, hd, hf⟩
    · exact hs.elim (fun hs => absurd hs (hstage session)) (hsending events)
    · rw [hsame'.conversationId]
      exact hgapless (hkept'.destroyed hopen) (hkept'.stage hgoing)
    · exact absurd hs (hstage session)
  cases hgoes with
  | stays =>
    refine ⟨hbounded, h.untaken, hgapless, fun session hs => ?_, hdelivered, hflow⟩
    exact (h.asked session hs).snoc hpair'.response hs hsame hkept (h.asked session hs).fresh
  | disconnected =>
    refine ⟨hbounded, h.untaken, fun hopen => (by cases hopen), fun session hs => ?_, ?_,
      fun hopen => (by cases hopen)⟩
    · exact (h.asked session hs).snoc hpair'.response hs hsame hkept (h.asked session hs).fresh
    · exact hdelivered.congr hsame (fun e he => Or.inl he) rfl
  | read session events hstage answered =>
    refine hmoved (fun _ hs => by cases hs) hsame hkept hbounded (fun _ _ => h.untaken session [] (Or.inl hstage))
      (hdelivered.congr hsame (fun e he => Or.inl he) rfl) fun hopen _ => ?_
    obtain ⟨after, earlier, hf⟩ := h.reads hunpruned hopen hstage answered
    exact ⟨after, earlier, hf.snoc a hreceived⟩
  | told event session hstage answered =>
    have hbounded' : (r.write event).taken ≤ b'.yielded.length := by
      rw [Response.write]
      split <;> exact hbounded
    refine hmoved (fun _ hs => by cases hs) hsame hkept hbounded' (fun _ hs => by cases hs) ?_ fun _ hs => by
      cases hs
    exact hdelivered.write_sync (body_of_told answered) _
  | fails destroyed kept =>
    exact hmoved (fun _ hs => by cases hs) hsame hkept hbounded (fun _ hs => by cases hs)
      (hdelivered.congr hsame (fun e he => Or.inl he) rfl) fun _ hs => by cases hs
  | sends event events hstage =>
    have htaken := h.untaken 0 _ (Or.inr hstage)
    have hgoing : r.stage ≠ .ended := by rw [hstage]; exact Stage.noConfusion
    cases hopen : r.destroyed with
    | true =>
      have hwrite : r.write event = r := by rw [Response.write, if_pos hopen]
      rw [hwrite] at hsame hkept ⊢
      refine hmoved (fun _ hs => by cases hs) hsame hkept hbounded (fun _ _ => htaken)
        (hdelivered.congr hsame (fun e he => Or.inl he) rfl) fun hd _ => ?_
      exact absurd (hopen.symm.trans hd) (by decide)
    | false =>
      obtain ⟨after, earlier, hf⟩ := hflow hopen (by rw [hstage]; rfl)
      have hf' := hf.sends hopen htaken hstage
      have htaken' : (r.write event).taken = 0 := by rw [write_open hopen]; exact htaken
      refine hmoved (fun _ hs => by cases hs) hsame hkept ?_ (fun _ _ => htaken') (hf'.delivered ?_ ?_)
        fun _ _ => ⟨after, earlier, hf'⟩
      · change (r.write event).taken ≤ _
        rw [htaken']
        exact Nat.zero_le _
      · rw [hsame.conversationId]
        exact hgapless hopen hgoing after earlier hf.begins.read
      · rw [hsame.conversationId, write_open hopen]
        intro e he
        rcases List.mem_append.mp he with he | he
        · exact hdelivered.mine e he
        · rw [List.mem_singleton.mp he]
          have hwhole := hf.whole
          have hcoming : r.stage.coming = event :: events := by rw [hstage]; rfl
          rw [received_nil htaken, above_nil, List.append_nil, hcoming] at hwhole
          have hrow : event ∈ publicAbove (S.base r after earlier) (S.log earlier r.conversationId) :=
            hwhole ▸ List.mem_append_right _ List.mem_cons_self
          obtain ⟨x, hx, hxv, hlarge, rfl⟩ := mem_publicAbove.mp hrow
          obtain ⟨later, hlater⟩ := hf.begins.read.earlier_append
          rw [hlater, normal_toConversationEvent]
          refine Or.inr (mem_publicAbove.mpr ⟨x, (log_append _ _).subset hx, hxv, ?_, rfl⟩)
          exact Nat.lt_of_le_of_lt (Nat.zero_le _) hlarge
  | sent hstage =>
    refine hmoved (fun _ hs => by cases hs) hsame hkept hbounded (fun _ hs => by cases hs)
      (hdelivered.congr hsame (fun e he => Or.inl he) rfl) fun hopen _ => ?_
    obtain ⟨after, earlier, hf⟩ := hflow hopen (by rw [hstage]; rfl)
    exact ⟨after, earlier, hf.restage (by rw [hstage]; rfl)⟩
  | awaits hstage =>
    refine hmoved (fun _ hs => by cases hs) hsame hkept hbounded (fun _ hs => by cases hs)
      (hdelivered.congr hsame (fun e he => Or.inl he) rfl) fun hopen _ => ?_
    obtain ⟨after, earlier, hf⟩ := hflow hopen (by rw [hstage]; rfl)
    exact ⟨after, earlier, hf.restage (by rw [hstage]; rfl)⟩
  | overflows session hstage notified =>
    exact hmoved (fun _ hs => by cases hs) hsame hkept (hnotified notified).2 (fun _ hs => by cases hs)
      (hdelivered.congr hsame (fun e he => Or.inl he) rfl) fun _ hs => by cases hs
  | skips event hstage notified old =>
    obtain ⟨hyielded, hbound⟩ := hnotified notified
    have hgoing : r.stage ≠ .ended := by rw [hstage]; exact Stage.noConfusion
    refine hmoved (fun _ hs => by cases hs) hsame hkept hbound (fun _ hs => by cases hs)
      (hdelivered.congr hsame (fun e he => Or.inl he) rfl) fun hopen _ => ?_
    obtain ⟨after, earlier, hf⟩ := hflow hopen (by rw [hstage]; rfl)
    exact ⟨after, earlier, hf.skips (hgapless hopen hgoing after earlier hf.begins.read) hstage hyielded old⟩
  | receives event hstage notified new =>
    obtain ⟨hyielded, hbound⟩ := hnotified notified
    have hgoing : r.stage ≠ .ended := by rw [hstage]; exact Stage.noConfusion
    cases hopen : r.destroyed with
    | true =>
      have hwrite : r.write event = r := by rw [Response.write, if_pos hopen]
      rw [hwrite] at hsame hkept ⊢
      refine hmoved (fun _ hs => by cases hs) hsame hkept hbound (fun _ hs => by cases hs)
        (hdelivered.congr hsame (fun e he => Or.inl he) rfl) fun hd _ => ?_
      exact absurd (hopen.symm.trans hd) (by decide)
    | false =>
      obtain ⟨after, earlier, hf⟩ := hflow hopen (by rw [hstage]; rfl)
      have hknown := known_event hpair'.subscription (mem_given hyielded)
      rw [hconversation] at hknown
      have hf' := hf.receives hopen hknown hstage hyielded new
      refine hmoved (fun _ hs => by cases hs) hsame hkept hbound (fun _ hs => by cases hs) (hf'.delivered ?_ ?_)
        fun _ _ => ⟨after, earlier, hf'⟩
      · rw [hsame.conversationId]
        exact hgapless hopen hgoing after earlier hf.begins.read
      · rw [hsame.conversationId, write_open hopen]
        intro e he
        rcases List.mem_append.mp he with he | he
        · exact hdelivered.mine e he
        · obtain ⟨-, x, hx, hxv, -, hxn⟩ := hknown
          rw [List.mem_singleton.mp he]
          exact Or.inr (mem_publicAbove.mpr ⟨x, hx, hxv, (sequence_le hx).1, hxn⟩)

end Runs

variable {S : Setting} {past : List Action} {i : ℕ} {r : Response} {k : Id}

lemma sessions_le (later : List Action) :
    (S.state past).world.sessions.length ≤ (S.state (past ++ later)).world.sessions.length := by
  induction later using List.reverseRecOn with
  | nil => rw [List.append_nil]
  | append_singleton later a ih =>
    refine ih.trans ?_
    have hcalls : ∀ w : ServerWorld, w.sessions.length = w.calls.length := fun w => (List.length_map _).symm
    rw [← List.append_assoc, state_snoc, world_step, hcalls]
    cases moved (S.state (past ++ later)) a with
    | none => exact (hcalls _).ge
    | some m =>
      change _ ≤ (World.step (body S.server) _ m).sessions.length
      rw [hcalls, World.calls_step]
      split
      · rw [List.length_append]
        exact Nat.le_add_right _ _
      · exact Nat.le_refl _

lemma tracked_new {process : ℕ} {scope : Scope} {lastEventId : Option Id} {stamp : SyncStamp}
    (hvalid : (isOpaqueId k && lastEventId.all isOpaqueId) = true)
    (h : S.Pair (past ++ [.request process scope k lastEventId stamp]) i
      (asks (S.state past) process scope k lastEventId) b) :
    S.Tracked (past ++ [.request process scope k lastEventId stamp]) i
      (asks (S.state past) process scope k lastEventId) b := by
  have hcall : (S.state (past ++ [.request process scope k lastEventId stamp])).world =
      (S.state past).world.step (body S.server) (.start (.replayEvents scope k lastEventId stamp)) := by
    rw [state_snoc, world_step, moved, if_pos hvalid]
    rfl
  obtain ⟨set, hset⟩ := @subscribed_new S past k process scope lastEventId stamp hvalid
  cases hset.symm.trans h.subscription
  refine ⟨Nat.le_refl _, fun _ _ _ => rfl, fun _ _ _ _ _ => List.nil_prefix,
    fun session hs => ?_, ⟨fun _ he => absurd he List.not_mem_nil, Or.inl rfl⟩, fun _ hs => by cases hs⟩
  cases hs
  refine ⟨⟨stamp, ?_⟩, ⟨rfl, rfl⟩, fun earlier later hpast hlt => ?_⟩
  · rw [hcall, World.calls_step]
    have hlength : (S.state past).world.sessions.length = (S.state past).world.calls.length :=
      (List.length_map _).symm
    rw [hlength]
    exact List.getElem?_concat_length ..
  · rcases List.eq_nil_or_concat later with rfl | ⟨later, a', rfl⟩
    · rw [List.append_nil] at hpast
      subst hpast
      exact ⟨_, h.response, rfl, .refl _, id⟩
    · rw [List.concat_eq_append, ← List.append_assoc] at hpast
      obtain ⟨rfl, -⟩ := List.append_inj' hpast rfl
      have := @sessions_le S earlier later
      omega

lemma tracked (hfollows : Throughout (fun past a => S.Follows past i a) past)
    (hunpruned : Throughout (fun past a => S.Unpruned past i a) past) (h : S.Pair past i r b) :
    S.Tracked past i r b := by
  induction past using List.reverseRecOn generalizing r b with
  | nil => cases h.response
  | append_singleton past a ih =>
    obtain ⟨hfollows, hfollow⟩ := throughout_snoc.mp hfollows
    obtain ⟨hunpruned, -⟩ := throughout_snoc.mp hunpruned
    have hstep := h.response
    rw [state_snoc] at hstep
    rcases goes_step hstep with ⟨r₀, hi₀, -⟩ | ⟨process, scope, k, lastEventId, stamp, rfl, hvalid, -, rfl⟩
    · obtain ⟨b₀, hpair⟩ := paired hi₀
      obtain ⟨r', b', hpair', hgoes, hpasses⟩ := hpair.step a
      cases h.response.symm.trans hpair'.response
      cases h.subscription.symm.trans hpair'.subscription
      exact (ih hfollows hunpruned hpair).step hpair h hgoes hpasses hfollow hunpruned
    · exact tracked_new hvalid h

theorem delivered (S : Setting) (i : ℕ) (actions : List Action)
    (hfollows : Throughout (fun past a => S.Follows past i a) actions)
    (hunpruned : Throughout (fun past a => S.Unpruned past i a) actions) (r : Response)
    (hi : (S.state actions).responses[i]? = some r) : S.Delivered actions i r := by
  obtain ⟨b, hpair⟩ := paired hi
  exact (tracked hfollows hunpruned hpair).delivered

end Setting

end ChatCore.EventDelivery
