import ChatCore.EventDelivery.OneProcess

namespace ChatCore.EventDelivery

open Transition Protocol Relational Database Services Services.EventNumbering Services.EventStore
  Services.EventStreams

lemma mem_of_prefix {α : Type} {f : α → ℕ} {l front : List α} (hl : l.Pairwise fun a b => f a < f b)
    (hfront : front <+: l)
    {x y : α} (hx : x ∈ l) (hy : y ∈ front) (hlt : f x < f y) : x ∈ front := by
  obtain ⟨back, rfl⟩ := hfront
  obtain ⟨-, -, hcross⟩ := List.pairwise_append.mp hl
  refine (List.mem_append.mp hx).resolve_right fun hback => ?_
  exact absurd (hcross y hy x hback) (Nat.not_lt.mpr (Nat.le_of_lt hlt))

namespace Setting

variable (S : Setting) (past : List Action) (i : ℕ)

/-- With an event, the response has written every public event before it that comes after the base. -/
def Gapless (r : Response) : Prop :=
  ∀ e ∈ r.written, isEvent e = true → ∃ after earlier, S.Begins past i r after earlier ∧
    ∀ x ∈ publicAbove (S.base r after earlier) (S.log past r.conversationId),
      x.sequence < e.sequence → x ∈ r.written.map normal

variable {S past i} {r : Response} {after : ℕ} {earlier : List Action}

lemma Delivered.gapless (h : S.Delivered past i r) : S.Gapless past i r := by
  intro e he hevent
  have hmem : e ∈ r.written.filter isEvent := List.mem_filter.mpr ⟨he, hevent⟩
  obtain hnil | ⟨after, earlier, hbegins, hfirst⟩ := h.first
  · rw [hnil] at hmem
    cases hmem
  refine ⟨after, earlier, hbegins, fun x hx hlt => ?_⟩
  obtain ⟨_, -, -, hlarge, rfl⟩ := mem_publicAbove.mp hx
  have habove : normal e ∈ (above (S.base r after earlier) (r.written.filter isEvent)).map normal :=
    List.mem_map_of_mem (mem_above.mpr ⟨hmem, hlarge.trans hlt⟩)
  have hfound := mem_of_prefix (publicAbove_sorted _ _) hfirst hx habove hlt
  obtain ⟨y, hy, heq⟩ := List.mem_map.mp hfound
  exact heq ▸ List.mem_map_of_mem (List.mem_of_mem_filter (mem_above.mp hy).1)

lemma Begins.base_eq_zero (h : S.Begins past i r after earlier) (hnone : r.lastEventId = none)
    (hkept : (S.log past r.conversationId).length ≤ S.server.retentionMaxEvents) : S.base r after earlier = 0 := by
  obtain ⟨later, rfl⟩ := h.read.earlier_append
  have hle := (@log_append S earlier r.conversationId later).length_le
  rw [base, hnone]
  exact Nat.sub_eq_zero_of_le (hle.trans hkept)

end Setting

/-- Whatever the processes append and publish, a response all of whose steps are in order leaves no gap. -/
theorem ordered_responses_gapless (S : Setting) (i : ℕ) (actions : List Action)
    (hfollows : Throughout (fun past a => S.Follows past i a) actions)
    (hunpruned : Throughout (fun past a => S.Unpruned past i a) actions) (r : Response)
    (hi : (S.state actions).responses[i]? = some r) : S.Gapless actions i r :=
  (S.delivered i actions hfollows hunpruned r hi).gapless

section Scenario

theorem followed_gapless : ∃ r, (small.state followed).responses[0]? = some r ∧
    r.written.map (fun e => (e.sequence, isEvent e)) = [(1, true), (2, true), (5, false)] ∧
      small.Gapless followed 0 r := by
  have hall : ∀ r ∈ (small.state followed).responses, r.conversationId = "conversation" ∧
      r.written.map (fun e => (e.sequence, isEvent e)) = [(1, true), (2, true), (5, false)] := by decide +kernel
  obtain ⟨r, hi⟩ : ∃ r, (small.state followed).responses[0]? = some r :=
    Option.isSome_iff_exists.mp (by decide +kernel)
  obtain ⟨hk, hwritten⟩ := hall r (List.mem_of_getElem? hi)
  exact ⟨r, hi, hwritten, ordered_responses_gapless small 0 followed
    (Setting.follows_of_serial serial_followed hi hk)
    (unpruned_followed 0) r hi⟩

def crossed : List Action := begun ++ proceeds 0 3 ++ appends "second" "two" 3 1 ++ appends "third" "three" 4 0 ++
  proceeds 0 1

theorem crossed_gap : ∃ r b, small.Pair crossed 0 r b ∧ b.terminal = false ∧ r.written.map (·.sequence) = [1, 3] ∧
    (publicAbove 0 (small.log crossed r.conversationId)).map (·.sequence) = [1, 2, 3] ∧
      ¬ small.Gapless crossed 0 r := by
  have hall : ∀ r ∈ (small.state crossed).responses, r.conversationId = "conversation" ∧ r.lastEventId = none ∧
      r.process = 0 ∧ r.written.map (fun e => (e.sequence, isEvent e)) = [(1, true), (3, true)] :=
        by decide +kernel
  have hlog : (publicAbove 0 (small.log crossed "conversation")).map (·.sequence) = [1, 2, 3] := by decide +kernel
  have hkept : (small.log crossed "conversation").length ≤ small.server.retentionMaxEvents := by decide +kernel
  have hlive : ∀ b ∈ ((small.state crossed).brokers 0).buffered, b.terminal = false := by decide +kernel
  obtain ⟨r, hi⟩ : ∃ r, (small.state crossed).responses[0]? = some r :=
    Option.isSome_iff_exists.mp (by decide +kernel)
  obtain ⟨hk, hfirst, hprocess, hwritten⟩ := hall r (List.mem_of_getElem? hi)
  obtain ⟨b, hpair⟩ := Setting.paired hi
  have hb := hpair.subscription
  rw [hprocess] at hb
  have hsequences : r.written.map (·.sequence) = [1, 3] := by
    have := congrArg (List.map Prod.fst) hwritten
    rw [List.map_map] at this
    exact this
  refine ⟨r, b, hpair, hlive b (List.mem_of_getElem? hb), hsequences, by rw [hk]; exact hlog, fun h => ?_⟩
  have hthird : (3, true) ∈ r.written.map fun e => (e.sequence, isEvent e) := by
    rw [hwritten]
    decide
  obtain ⟨e, he, hlast⟩ := List.mem_map.mp hthird
  obtain ⟨hthree, hevent⟩ := Prod.mk.inj hlast
  obtain ⟨after, earlier, hbegins, hmissed⟩ := h e he hevent
  rw [hbegins.base_eq_zero hfirst (hk ▸ hkept), hk] at hmissed
  have hsecond : 2 ∈ (publicAbove 0 (small.log crossed "conversation")).map (·.sequence) := by
    rw [hlog]
    decide
  obtain ⟨x, hx, htwo⟩ := List.mem_map.mp hsecond
  obtain ⟨y, hy, heq⟩ := List.mem_map.mp (hmissed x hx (by omega))
  have hin : 2 ∈ r.written.map (·.sequence) := List.mem_map.mpr ⟨y, hy, by rw [← htwo, ← heq]; rfl⟩
  rw [hsequences] at hin
  exact absurd hin (by decide)

end Scenario

end ChatCore.EventDelivery
