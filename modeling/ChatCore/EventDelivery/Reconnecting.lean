import ChatCore.EventDelivery.ManyProcesses

namespace ChatCore.EventDelivery

open Transition Protocol Relational Database Services Services.EventNumbering Services.EventStore
  Services.EventStreams

/-- The responses to requests of one reader, one after the other: each names no event, or one that has been seen
before. -/
def Resumes (k : Id) : List PublicConversationEvent → List Response → Prop
  | _, [] => True
  | seen, r :: chain => r.conversationId = k ∧
      (∀ eventId ∈ r.lastEventId.bind present, ∃ e ∈ seen, e.eventId = eventId) ∧
      Resumes k (seen ++ r.written.filter isEvent) chain

instance resumes_decidable (k : Id) : (seen : List PublicConversationEvent) → (chain : List Response) →
    Decidable (Resumes k seen chain)
  | _, [] => .isTrue trivial
  | _, _ :: chain => @instDecidableAnd _ _ _ (@instDecidableAnd _ _ _ (resumes_decidable k _ chain))

/-- What the reader has seen of its conversation. -/
def seenOf (chain : List Response) : List PublicConversationEvent :=
  chain.flatMap fun r => r.written.filter isEvent

/-- What is seen are public events of the log, and none is missing before any of them. -/
def Whole (all : List ConversationEvent) (seen : List PublicConversationEvent) : Prop :=
  ∀ e ∈ seen, normal e ∈ publicAbove 0 all ∧ ∀ x ∈ publicAbove 0 all, x.sequence < e.sequence → x ∈ seen.map normal

namespace Setting

variable {S : Setting} {actions : List Action} {i : ℕ} {k : Id} {r : Response}
  {seen : List PublicConversationEvent}

lemma eq_of_eventId {x y : ConversationEvent} (hkept : (S.log actions k).length ≤ S.server.retentionMaxEvents)
    (hx : x ∈ S.log actions k) (hy : y ∈ S.log actions k) (h : x.eventId = y.eventId) : x = y := by
  have hstored : eventsOf k (S.state actions).world.db.conversationEvents = S.log actions k := by
    rw [(@eventLog S actions k).stored, retained, Nat.sub_eq_zero_of_le hkept]
    rfl
  rw [← hstored] at hx hy
  exact Table.key_injective (mem_eventsOf.mp hx).1 (mem_eventsOf.mp hy).1 h

lemma eq_of_number {x y : PublicConversationEvent} (hx : x ∈ publicAbove 0 (S.log actions k))
    (hy : y ∈ publicAbove 0 (S.log actions k)) (h : x.sequence = y.sequence) : x = y := by
  obtain ⟨x', hx', -, -, rfl⟩ := mem_publicAbove.mp hx
  obtain ⟨y', hy', -, -, rfl⟩ := mem_publicAbove.mp hy
  rw [eq_of_sequence hx' hy' h]

lemma whole_append (hkept : (S.log actions k).length ≤ S.server.retentionMaxEvents) (h : S.Delivered actions i r)
    (hk : r.conversationId = k) (hcursor : ∀ eventId ∈ r.lastEventId.bind present, ∃ e ∈ seen, e.eventId = eventId)
    (hseen : Whole (S.log actions k) seen) : Whole (S.log actions k) (seen ++ r.written.filter isEvent) := by
  subst hk
  intro e he
  rcases List.mem_append.mp he with he | he
  · obtain ⟨hmine, hbefore⟩ := hseen e he
    refine ⟨hmine, fun x hx hlt => ?_⟩
    rw [List.map_append]
    exact List.mem_append_left _ (hbefore x hx hlt)
  obtain ⟨hwritten, hevent⟩ := List.mem_filter.mp he
  have hmine := (h.mine e hwritten).resolve_left (of_decide_eq_true hevent)
  refine ⟨hmine, fun x hx hlt => ?_⟩
  obtain hnil | ⟨after, earlier, hbegins, hfirst⟩ := h.first
  · rw [hnil] at he
    cases he
  rw [List.map_append, List.mem_append]
  by_cases hlarge : S.base r after earlier < x.sequence
  · right
    obtain ⟨x', hx', hvisible, -, rfl⟩ := mem_publicAbove.mp hx
    have habove : normal e ∈ (above (S.base r after earlier) (r.written.filter isEvent)).map normal :=
      List.mem_map_of_mem (mem_above.mpr ⟨he, hlarge.trans hlt⟩)
    have hfound := mem_of_prefix (publicAbove_sorted _ _) hfirst
      (mem_publicAbove.mpr ⟨x', hx', hvisible, hlarge, rfl⟩)
      habove hlt
    obtain ⟨y, hy, heq⟩ := List.mem_map.mp hfound
    exact heq ▸ List.mem_map_of_mem (mem_above.mp hy).1
  · left
    cases hid : r.lastEventId.bind present with
    | none =>
      obtain ⟨later, rfl⟩ := hbegins.read.earlier_append
      have hle := (@log_append S earlier r.conversationId later).length_le
      have hbase : S.base r after earlier = 0 := by
        rw [base, hid]
        exact Nat.sub_eq_zero_of_le (hle.trans hkept)
      obtain ⟨_, -, -, hpositive, rfl⟩ := mem_publicAbove.mp hx
      rw [hbase] at hlarge
      exact absurd hpositive hlarge
    | some eventId =>
      obtain ⟨cursor, hcursor', hsame, -, hnumber⟩ := hbegins.cursor eventId hid
      obtain ⟨e', he', hid'⟩ := hcursor eventId hid
      obtain ⟨hmine', hbefore⟩ := hseen e' he'
      obtain ⟨y, hy, -, -, hnormal⟩ := mem_publicAbove.mp hmine'
      have hids : y.eventId = e'.eventId := congrArg PublicConversationEvent.eventId hnormal
      obtain rfl := eq_of_eventId hkept hy hcursor' (hids.trans (hid'.trans hsame.symm))
      have hsequence : e'.sequence = after :=
        (congrArg PublicConversationEvent.sequence hnormal).symm.trans hnumber
      have hbase : S.base r after earlier = after := by
        rw [base, hid]
        rfl
      rcases Nat.lt_or_ge x.sequence e'.sequence with hbelow | hge
      · exact hbefore x hx hbelow
      · have heq : normal e' = x := eq_of_number hmine' hx (by
          change e'.sequence = x.sequence
          omega)
        exact heq ▸ List.mem_map_of_mem he'

lemma whole_chain {chain : List Response} (hkept : (S.log actions k).length ≤ S.server.retentionMaxEvents)
    (h : ∀ r ∈ chain, ∃ i, S.Delivered actions i r) (hresumes : Resumes k seen chain)
    (hseen : Whole (S.log actions k) seen) : Whole (S.log actions k) (seen ++ seenOf chain) := by
  induction chain generalizing seen with
  | nil => rwa [seenOf, List.flatMap_nil, List.append_nil]
  | cons r chain ih =>
    obtain ⟨hk, hcursor, hrest⟩ := hresumes
    obtain ⟨⟨i, hr⟩, hchain⟩ := List.forall_mem_cons.mp h
    have hmore := ih hchain hrest (whole_append hkept hr hk hcursor hseen)
    rwa [List.append_assoc] at hmore

end Setting

/-- A reader that comes back any number of times, to any processes, each time with an event that it has been sent
before or with none, misses nothing: it has been sent every public event before any that it has been sent, while
none is pruned and each of the responses is in order. -/
theorem reconnecting_gapless (S : Setting) (actions : List Action) (k : Id) (chain : List Response)
    (hchain : ∀ r ∈ chain, ∃ i, (S.state actions).responses[i]? = some r ∧
      Throughout (fun past a => S.Follows past i a) actions)
    (hresumes : Resumes k [] chain)
    (hstored : Throughout (fun past _ => Stored S.server.retentionMaxEvents (S.state past)) actions)
    (hkept : (S.log actions k).length ≤ S.server.retentionMaxEvents) :
    Whole (S.log actions k) (seenOf chain) := by
  refine Setting.whole_chain hkept (fun r hr => ?_) hresumes fun e he => absurd he List.not_mem_nil
  obtain ⟨i, hi, hfollows⟩ := hchain r hr
  exact ⟨i, S.delivered i actions hfollows (Setting.unpruned_of_stored hstored) r hi⟩

section Scenario

def resumed : List Action := begun ++ appends "second" "two" 3 0 ++ proceeds 0 4 ++ [.disconnect 0] ++
  appends "third" "three" 4 0 ++ [ask (some "second")] ++ EventStreams.moves (List.replicate 4 (.advance 5)) ++
  proceeds 1 3 ++ appends "fourth" "four" 6 0 ++ proceeds 1 4

lemma serial_resumed :
    Throughout (fun past a => Serial small.server 0 "conversation" (small.state past) a) resumed := by
  have hserial : Along (State.step small.server small.options) (Serial small.server 0 "conversation")
      (initial small.principals small.browserSessions small.bootstraps) resumed := by decide +kernel
  exact throughout_of_along hserial

lemma stored_resumed :
    Throughout (fun past _ => Stored small.server.retentionMaxEvents (small.state past)) resumed := by
  have hstored : Along (State.step small.server small.options)
    (fun s _ => Stored small.server.retentionMaxEvents s)
      (initial small.principals small.browserSessions small.bootstraps) resumed := by decide +kernel
  exact throughout_of_along hstored

theorem resumed_gapless : (seenOf (small.state resumed).responses).map (·.sequence) = [1, 2, 3, 4] ∧
    Whole (small.log resumed "conversation") (seenOf (small.state resumed).responses) := by
  have hlength : (small.log resumed "conversation").length = 4 := by decide +kernel
  have hkept : (small.log resumed "conversation").length ≤ small.server.retentionMaxEvents := by
    rw [hlength]
    decide
  obtain ⟨chain, hchain⟩ : ∃ chain, chain = (small.state resumed).responses := ⟨_, rfl⟩
  have hall : ∀ r ∈ chain, r.conversationId = "conversation" := by
    rw [hchain]
    decide +kernel
  have hresumes : Resumes "conversation" [] chain := by
    rw [hchain]
    decide +kernel
  have hnumbers : (seenOf chain).map (·.sequence) = [1, 2, 3, 4] := by
    rw [hchain]
    decide +kernel
  rw [← hchain]
  refine ⟨hnumbers, reconnecting_gapless small resumed "conversation" chain (fun r hr => ?_) hresumes
    stored_resumed hkept⟩
  obtain ⟨i, hi⟩ := List.mem_iff_getElem?.mp hr
  rw [hchain] at hi
  exact ⟨i, hi, Setting.follows_of_serial serial_resumed hi (hall r hr)⟩

end Scenario

end ChatCore.EventDelivery
