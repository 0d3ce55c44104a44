import Mathlib.Data.List.Sort
import Mathlib.Tactic.Lemma

/-! Keyset pagination: pages of a list in descending order, each found from the last row of the one before. -/

namespace ChatCore.Paging

variable {ρ κ τ α β ε : Type}

/-- The pages that a client collects by following the cursors, if `n` requests are enough. -/
def traverse (request : Option τ → Except ε (List α × Option τ)) : ℕ → Option τ → Option (Except ε (List α))
  | 0, _ => none
  | n + 1, cursor => match request cursor with
    | .error e => some (.error e)
    | .ok (data, none) => some (.ok data)
    | .ok (data, some next) => (traverse request n (some next)).map fun rest => rest.map (data ++ ·)

section Traverse

variable {request : Option τ → Except ε (List α × Option τ)} {cursor : Option τ} {data : List α} (n : ℕ)

lemma traverse_error {e : ε} (h : request cursor = .error e) :
    traverse request (n + 1) cursor = some (.error e) := by
  rw [traverse, h]

lemma traverse_last (h : request cursor = .ok (data, none)) :
    traverse request (n + 1) cursor = some (.ok data) := by
  rw [traverse, h]

lemma traverse_more {next : τ} (h : request cursor = .ok (data, some next)) :
    traverse request (n + 1) cursor = (traverse request n (some next)).map fun rest => rest.map (data ++ ·) := by
  rw [traverse, h]

lemma traverse_add (m : ℕ) {outcome : Except ε (List α)} (h : traverse request n cursor = some outcome) :
    traverse request (n + m) cursor = some outcome := by
  induction n generalizing cursor outcome with
  | zero => cases h
  | succ n ih =>
    rw [Nat.succ_add]
    cases hr : request cursor with
    | error e =>
      rw [traverse_error _ hr] at h ⊢
      exact h
    | ok page =>
      obtain ⟨data, next⟩ := page
      cases next with
      | none =>
        rw [traverse_last _ hr] at h ⊢
        exact h
      | some next =>
        rw [traverse_more _ hr] at h ⊢
        obtain ⟨rest, hrest, rfl⟩ := Option.map_eq_some_iff.mp h
        rw [ih hrest]
        rfl

lemma traverse_unique {m : ℕ} {outcome outcome' : Except ε (List α)} (h : traverse request n cursor = some outcome)
    (h' : traverse request m cursor = some outcome') : outcome = outcome' := by
  have hn := traverse_add n m h
  rw [Nat.add_comm, traverse_add m n h'] at hn
  exact (Option.some.inj hn).symm

lemma traverse_map (f : α → β) {request' : Option τ → Except ε (List β × Option τ)} {given : τ → Prop}
    (hg : ∀ cursor data next, request cursor = .ok (data, some next) → given next)
    (h : ∀ cursor, (∀ token, cursor = some token → given token) →
      request' cursor = (request cursor).map fun page => (page.1.map f, page.2))
    (hc : ∀ token, cursor = some token → given token) :
    traverse request' n cursor = (traverse request n cursor).map fun outcome => outcome.map (List.map f) := by
  induction n generalizing cursor with
  | zero => rfl
  | succ n ih =>
    have hr' := h cursor hc
    cases hr : request cursor with
    | error e =>
      rw [hr] at hr'
      rw [traverse_error n hr, traverse_error n hr']
      rfl
    | ok page =>
      obtain ⟨data, next⟩ := page
      rw [hr] at hr'
      cases next with
      | none =>
        rw [traverse_last n hr, traverse_last n hr']
        rfl
      | some next =>
        have hnext : ∀ token, some next = some token → given token := by
          rintro token ⟨⟩
          exact hg cursor data next hr
        rw [traverse_more n hr, traverse_more n hr', ih hnext, Option.map_map, Option.map_map]
        refine congrArg (Option.map · _) (funext fun outcome => ?_)
        cases outcome with
        | error e => rfl
        | ok rest => exact congrArg Except.ok List.map_append.symm

end Traverse

variable [LinearOrder κ]

/-- Rows in descending order of their positions, and tokens that stand for bounds on the positions. -/
structure Keyset (ρ κ τ : Type) [LinearOrder κ] where
  rows : List ρ
  position : ρ → κ
  sorted : rows.Pairwise fun a b => position b < position a
  limit : ℕ
  positive : 1 ≤ limit
  token : ρ → τ
  decode : τ → Option κ
  faithful : ∀ r ∈ rows, ∀ b, decode (token r) = some b → b ≤ position r

namespace Keyset

variable (p : Keyset ρ κ τ) (invalid : ε)

def below (bound : Option κ) (r : ρ) : Bool := bound.all fun b => decide (p.position r < b)

def rest (bound : Option κ) : List ρ := p.rows.filter (p.below bound)

def next (rows : List ρ) : Option τ :=
  if p.limit < rows.length then (rows.take p.limit).getLast?.map p.token else none

def request : Option τ → Except ε (List ρ × Option τ)
  | none => .ok ((p.rest none).take p.limit, p.next (p.rest none))
  | some token => match p.decode token with
    | none => .error invalid
    | some b => .ok ((p.rest (some b)).take p.limit, p.next (p.rest (some b)))

def Crosses (tail next : ρ) : Prop := ∃ b, p.decode (p.token tail) = some b ∧ p.position next < b

def CrossesFrom (m : ℕ) : Prop := ∀ k tail next, m ≤ k → p.limit ∣ k + 1 → p.rows[k]? = some tail →
  p.rows[k + 1]? = some next → p.Crosses tail next

variable {p} {bound : Option κ} {b : κ}

lemma rest_sorted : (p.rest bound).Pairwise fun r s => p.position s < p.position r := p.sorted.filter _

lemma mem_rest {r : ρ} : r ∈ p.rest bound ↔ r ∈ p.rows ∧ p.below bound r = true := List.mem_filter

lemma rest_none : p.rest none = p.rows := List.filter_eq_self.mpr fun _ _ => rfl

section Step

variable (hmore : p.limit < (p.rest bound).length)

include hmore

lemma tail_lt : p.limit - 1 < (p.rest bound).length := Nat.lt_of_le_of_lt (Nat.sub_le _ _) hmore

lemma next_eq : p.next (p.rest bound) = some (p.token (p.rest bound)[p.limit - 1]) := by
  have hlen : ((p.rest bound).take p.limit).length = p.limit := List.length_take_of_le (Nat.le_of_lt hmore)
  rw [next, if_pos hmore, List.getLast?_eq_getElem?, hlen, List.getElem?_take_of_lt
    (Nat.sub_lt p.positive Nat.one_pos),
    List.getElem?_eq_getElem (tail_lt hmore)]
  rfl

variable (hb : p.decode (p.token (p.rest bound)[p.limit - 1]) = some b)

include hb

lemma le_tail : b ≤ p.position (p.rest bound)[p.limit - 1] :=
  p.faithful _ (mem_rest.mp (List.getElem_mem _)).1 b hb

lemma rest_some : p.rest (some b) = ((p.rest bound).drop p.limit).filter fun r => decide (p.position r < b) := by
  have hsub : p.rest (some b) = (p.rest bound).filter fun r => decide (p.position r < b) := by
    rw [rest, rest, List.filter_filter]
    refine List.filter_congr fun r hr => ?_
    cases bound with
    | none => simp [below]
    | some c =>
      have htail := (mem_rest.mp (List.getElem_mem (tail_lt hmore))).2
      have hle := le_tail hmore hb
      simp only [below, Option.all_some, decide_eq_true_eq] at htail ⊢
      by_cases hlt : p.position r < b
      · have hc := hlt.trans_le (hle.trans htail.le)
        simp [hlt, hc]
      · simp [hlt]
  rw [hsub]
  conv_lhs => rw [← List.take_append_drop p.limit (p.rest bound)]
  rw [List.filter_append, List.filter_eq_nil_iff.mpr, List.nil_append]
  intro r hr hlt
  obtain ⟨i, hi, rfl⟩ := List.mem_take_iff_getElem.mp hr
  have hi' : i < p.limit := (Nat.lt_min.mp hi).1
  have hge : p.position (p.rest bound)[p.limit - 1] ≤ p.position ((p.rest bound)[i]) := by
    rcases Nat.lt_or_ge i (p.limit - 1) with h | h
    · exact (List.pairwise_iff_getElem.mp rest_sorted i (p.limit - 1) _ _ h).le
    · have heq : i = p.limit - 1 := by omega
      subst heq
      exact le_refl _
  exact absurd (of_decide_eq_true hlt) ((le_tail hmore hb).trans hge).not_gt

lemma rest_of_crosses (hn : p.position (p.rest bound)[p.limit] < b) :
    p.rest (some b) = (p.rest bound).drop p.limit := by
  rw [rest_some hmore hb]
  refine List.filter_eq_self.mpr fun r hr => decide_eq_true ?_
  obtain ⟨i, hi, rfl⟩ := List.mem_drop_iff_getElem.mp hr
  rcases Nat.eq_zero_or_pos i with rfl | hpos
  · exact hn
  · exact (List.pairwise_iff_getElem.mp rest_sorted p.limit (p.limit + i) hmore (by omega) (by omega)).trans hn

lemma rest_length_lt : (p.rest (some b)).length < (p.rest bound).length := by
  have hle : (p.rest (some b)).length ≤ ((p.rest bound).drop p.limit).length := by
    rw [rest_some hmore hb]
    exact List.length_filter_le _ _
  have hpos := p.positive
  rw [List.length_drop] at hle
  omega

end Step

section Run

variable {invalid} {cursor : Option τ} {n : ℕ}

variable (invalid) in
lemma request_some {token : τ} (h : p.decode token = some b) :
    p.request invalid (some token) = .ok ((p.rest (some b)).take p.limit, p.next (p.rest (some b))) := by
  rw [request]
  simp only [h]

lemma request_invalid {token : τ} (h : p.decode token = none) :
    p.request invalid (some token) = .error invalid := by
  rw [request]
  simp only [h]

lemma next_none (h : (p.rest bound).length ≤ p.limit) : p.next (p.rest bound) = none := if_neg (Nat.not_lt.mpr h)

lemma traverse_rest (hc : p.request invalid cursor = .ok ((p.rest bound).take p.limit, p.next (p.rest bound)))
    (hn : (p.rest bound).length < n) : ∃ outcome, traverse (p.request invalid) n cursor = some outcome ∧
      ∀ xs, outcome = .ok xs → xs.Sublist (p.rest bound) := by
  induction n generalizing cursor bound with
  | zero => exact absurd hn (Nat.not_lt_zero _)
  | succ n ih =>
    by_cases hmore : p.limit < (p.rest bound).length
    · rw [next_eq hmore] at hc
      rw [traverse_more n hc]
      cases hb : p.decode (p.token (p.rest bound)[p.limit - 1]) with
      | none =>
        obtain ⟨n, rfl⟩ : ∃ k, n = k + 1 := ⟨n - 1, by omega⟩
        rw [traverse_error n (request_invalid hb)]
        exact ⟨_, rfl, nofun⟩
      | some b =>
        have hlt := rest_length_lt hmore hb
        obtain ⟨outcome, ho, hsub⟩ := ih (request_some invalid hb) (by omega)
        rw [ho]
        refine ⟨_, rfl, fun xs hxs => ?_⟩
        cases outcome with
        | error e => cases hxs
        | ok rest =>
          cases hxs
          conv_rhs => rw [← List.take_append_drop p.limit (p.rest bound)]
          refine (List.Sublist.refl _).append ((hsub rest rfl).trans ?_)
          rw [rest_some hmore hb]
          exact List.filter_sublist
    · have hle := Nat.le_of_not_lt hmore
      rw [next_none hle, List.take_of_length_le hle] at hc
      exact ⟨_, traverse_last n hc, fun xs hxs => by cases hxs; exact List.Sublist.refl _⟩

variable {m : ℕ}

lemma crossesFrom_last (hd : p.limit ∣ m) (hm : p.rows.length ≤ m + p.limit) : p.CrossesFrom m := by
  intro k tail next hk hdvd _ hnext
  have hlt := (List.getElem?_eq_some_iff.mp hnext).1
  obtain ⟨j, rfl⟩ := hd
  obtain ⟨i, hi⟩ := hdvd
  have hij : i < j + 1 := Nat.lt_of_mul_lt_mul_left (a := p.limit) (by rw [Nat.mul_add]; omega)
  have hji : j < i := Nat.lt_of_mul_lt_mul_left (a := p.limit) (by omega)
  omega

lemma crossesFrom_more (hd : p.limit ∣ m) (h : m + p.limit < p.rows.length) :
    p.CrossesFrom m ↔ p.Crosses (p.rows[m + (p.limit - 1)]) p.rows[m + p.limit] ∧
      p.CrossesFrom (m + p.limit) := by
  have hpos := p.positive
  constructor
  · intro hall
    refine ⟨?_, fun k tail next hk => hall k tail next (by omega)⟩
    refine hall (m + (p.limit - 1)) _ _ (by omega) ?_ (List.getElem?_eq_getElem _) ?_
    · have heq : m + (p.limit - 1) + 1 = m + p.limit := by omega
      rw [heq]
      exact Nat.dvd_add hd (Nat.dvd_refl _)
    · have heq : m + (p.limit - 1) + 1 = m + p.limit := by omega
      simp only [heq]
      exact List.getElem?_eq_getElem _
  · rintro ⟨hfirst, hall⟩ k tail next hk hdvd ht hnext
    by_cases hge : m + p.limit ≤ k
    · exact hall k tail next hge hdvd ht hnext
    · have hk' : k = m + (p.limit - 1) := by
        obtain ⟨j, rfl⟩ := hd
        obtain ⟨i, hi⟩ := hdvd
        have hij : j < i := Nat.lt_of_mul_lt_mul_left (a := p.limit) (by omega)
        have hle : p.limit * (j + 1) ≤ p.limit * i := Nat.mul_le_mul_left _ hij
        rw [Nat.mul_add] at hle
        omega
      subst hk'
      have heq : m + (p.limit - 1) + 1 = m + p.limit := by omega
      rw [heq] at hnext
      rw [List.getElem?_eq_getElem (by omega)] at ht hnext
      cases ht
      cases hnext
      exact hfirst

lemma traverse_drop (hd : p.limit ∣ m) (hrest : p.rest bound = p.rows.drop m)
    (hc : p.request invalid cursor = .ok ((p.rest bound).take p.limit, p.next (p.rest bound)))
    (hn : (p.rest bound).length < n) :
    traverse (p.request invalid) n cursor = some (.ok (p.rows.drop m)) ↔ p.CrossesFrom m := by
  induction n generalizing cursor bound m with
  | zero => exact absurd hn (Nat.not_lt_zero _)
  | succ n ih =>
    by_cases hmore : p.limit < (p.rest bound).length
    · have hpos := p.positive
      have hlen : m + p.limit < p.rows.length := by
        rw [hrest, List.length_drop] at hmore
        omega
      have htail : (p.rest bound)[p.limit - 1] = p.rows[m + (p.limit - 1)] := by
        simp only [hrest, List.getElem_drop]
      have hnext : (p.rest bound)[p.limit] = p.rows[m + p.limit] := by
        simp only [hrest, List.getElem_drop]
      rw [next_eq hmore] at hc
      rw [traverse_more n hc, crossesFrom_more hd hlen]
      cases hb : p.decode (p.token (p.rest bound)[p.limit - 1]) with
      | none =>
        obtain ⟨n, rfl⟩ : ∃ k, n = k + 1 := ⟨n - 1, by omega⟩
        rw [traverse_error n (request_invalid hb)]
        constructor
        · exact nofun
        · rintro ⟨⟨b, hb', -⟩, -⟩
          rw [← htail, hb] at hb'
          cases hb'
      | some b =>
        have hlt := rest_length_lt hmore hb
        have hsplit : p.rows.drop m = (p.rest bound).take p.limit ++ p.rows.drop (m + p.limit) := by
          rw [← List.drop_drop, ← hrest]
          exact (List.take_append_drop _ _).symm
        by_cases hcross : p.position p.rows[m + p.limit] < b
        · have hrest' : p.rest (some b) = p.rows.drop (m + p.limit) := by
            rw [rest_of_crosses hmore hb (hnext ▸ hcross), hrest, List.drop_drop]
          rw [← ih (Nat.dvd_add hd (Nat.dvd_refl _)) hrest' (request_some invalid hb) (by omega), hsplit]
          have hc' : p.Crosses p.rows[m + (p.limit - 1)] p.rows[m + p.limit] := ⟨b, htail ▸ hb, hcross⟩
          simp only [hc', true_and]
          cases ht : traverse (p.request invalid) n
              (some (p.token (p.rest bound)[p.limit - 1])) with
          | none => exact ⟨nofun, nofun⟩
          | some outcome =>
            cases outcome with
            | error e => exact ⟨nofun, nofun⟩
            | ok rest =>
              constructor
              · intro h
                exact congrArg (some ∘ Except.ok) (List.append_cancel_left (Except.ok.inj (Option.some.inj h)))
              · intro h
                rw [Except.ok.inj (Option.some.inj h)]
                rfl
        · constructor
          · intro h
            obtain ⟨outcome, ho, hsub⟩ := traverse_rest (request_some invalid hb) (n := n) (by omega)
            rw [ho] at h
            cases outcome with
            | error e => cases h
            | ok rest =>
              rw [hsplit] at h
              have heq : rest = p.rows.drop (m + p.limit) :=
                List.append_cancel_left (Except.ok.inj (Option.some.inj h))
              have hmem : p.rows[m + p.limit] ∈ p.rest (some b) := by
                refine (hsub rest rfl).subset ?_
                rw [heq, List.drop_eq_getElem_cons hlen]
                exact List.mem_cons_self
              exact absurd (of_decide_eq_true (mem_rest.mp hmem).2) hcross
          · rintro ⟨⟨b', hb', hlt'⟩, -⟩
            rw [← htail, hb] at hb'
            cases hb'
            exact absurd hlt' hcross
    · have hle := Nat.le_of_not_lt hmore
      rw [next_none hle, List.take_of_length_le hle] at hc
      rw [traverse_last n hc, hrest]
      refine iff_of_true rfl (crossesFrom_last hd ?_)
      rw [hrest, List.length_drop] at hle
      omega

variable (invalid) in
theorem traverse_all : (∃ n, traverse (p.request invalid) n none = some (.ok p.rows)) ↔ p.CrossesFrom 0 := by
  have hstart : p.request invalid none = .ok ((p.rest none).take p.limit, p.next (p.rest none)) := rfl
  have hiff := traverse_drop (n := p.rows.length + 1) (Nat.dvd_zero p.limit) (rest_none (p := p)) hstart
    (by rw [rest_none]; omega)
  rw [List.drop_zero] at hiff
  rw [← hiff]
  constructor
  · rintro ⟨n, hn⟩
    obtain ⟨outcome, ho, -⟩ := traverse_rest hstart (n := p.rows.length + 1) (by rw [rest_none]; omega)
    rw [ho, traverse_unique _ ho hn]
  · exact fun h => ⟨_, h⟩

lemma token_of_next {rows : List ρ} {token : τ} (h : p.next rows = some token) :
    ∃ r ∈ rows, p.token r = token := by
  rw [next] at h
  split at h
  · obtain ⟨r, hr, rfl⟩ := Option.map_eq_some_iff.mp h
    exact ⟨r, List.mem_of_mem_take (List.mem_of_getLast? hr), rfl⟩
  · cases h

lemma token_of_request {data : List ρ} {token : τ} (h : p.request invalid cursor = .ok (data, some token)) :
    ∃ r ∈ p.rows, p.token r = token := by
  have hpage : ∃ bound, p.next (p.rest bound) = some token := by
    cases cursor with
    | none => exact ⟨none, (Prod.mk.inj (Except.ok.inj h)).2⟩
    | some text =>
      cases hb : p.decode text with
      | none =>
        rw [request_invalid hb] at h
        cases h
      | some b =>
        rw [request_some invalid hb] at h
        exact ⟨some b, (Prod.mk.inj (Except.ok.inj h)).2⟩
  obtain ⟨bound, hnext⟩ := hpage
  obtain ⟨r, hr, hr'⟩ := token_of_next hnext
  exact ⟨r, (mem_rest.mp hr).1, hr'⟩

variable (invalid) in
theorem traverse_mapped (f : ρ → α) (request : Option τ → Except ε (List α × Option τ)) (given : τ → Prop)
    (hg : ∀ r ∈ p.rows, given (p.token r)) (h : ∀ cursor, (∀ token, cursor = some token → given token) →
      request cursor = (p.request invalid cursor).map fun page => (page.1.map f, page.2)) :
    (∃ n, traverse request n none = some (.ok (p.rows.map f))) ↔ p.CrossesFrom 0 := by
  have hgiven : ∀ cursor data next, p.request invalid cursor = .ok (data, some next) → given next := by
    intro cursor data next hr
    obtain ⟨r, hr', rfl⟩ := token_of_request hr
    exact hg r hr'
  rw [← traverse_all invalid]
  refine exists_congr fun n => ?_
  rw [traverse_map n f hgiven h fun _ hc => by cases hc]
  constructor
  · intro hm
    obtain ⟨outcome, ho, hf⟩ := Option.map_eq_some_iff.mp hm
    cases outcome with
    | error e => cases hf
    | ok xs =>
      have hstart : p.request invalid none = .ok ((p.rest none).take p.limit, p.next (p.rest none)) := rfl
      obtain ⟨outcome, ho', hsub⟩ := traverse_rest hstart (n := p.rows.length + 1) (by rw [rest_none]; omega)
      have hxs := hsub xs (traverse_unique _ ho' ho)
      rw [rest_none] at hxs
      have hlen : xs.length = p.rows.length := by
        have hmap := congrArg List.length (Except.ok.inj hf)
        rwa [List.length_map, List.length_map] at hmap
      rw [ho, hxs.eq_of_length hlen]
  · intro ho
    rw [ho]
    rfl

end Run

end Keyset

end ChatCore.Paging
