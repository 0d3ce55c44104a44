import ChatCore.Connectors.Haystack

namespace ChatCore.Connectors

section WellFormed

def transported : Text → Text
  | [] => []
  | [u] => [if isHighSurrogate u || isLowSurrogate u then 0xFFFD else u]
  | u :: v :: rest =>
      if isHighSurrogate u && isLowSurrogate v then u :: v :: transported rest
      else (if isHighSurrogate u || isLowSurrogate u then 0xFFFD else u) :: transported (v :: rest)

/-- The text is cut between the halves of a pair. -/
def cutsPair (s : Text) (offset : ℕ) : Bool :=
  (s.take offset).getLast?.any isHighSurrogate && (s.drop offset).head?.any isLowSurrogate

variable {isOpen : Bool} {s t : Text} {u : UInt16}

lemma scan_append : scan isOpen (s ++ t) = (scan isOpen s).bind fun o => scan o t := List.foldlM_append

lemma scan_cons : scan isOpen (u :: s) = (follow isOpen u).bind fun o => scan o s := List.foldlM_cons

lemma low_not_high (h : isLowSurrogate u = true) : isHighSurrogate u = false := by
  simp only [isLowSurrogate, isHighSurrogate, Bool.and_eq_true, decide_eq_true_eq, Bool.and_eq_false_iff,
    decide_eq_false_iff_not, UInt16.le_iff_toNat_le] at h ⊢
  simp at h ⊢
  omega

lemma follow_high {o : Bool} (h : follow isOpen u = some o) : o = isHighSurrogate u := by
  cases hl : isLowSurrogate u with
  | true =>
    rw [low_not_high hl]
    cases isOpen with
    | true => simpa [follow, hl] using h.symm
    | false => simp [follow, hl] at h
  | false =>
    cases isOpen with
    | true => simp [follow, hl] at h
    | false => simpa [follow, hl] using h.symm

lemma scan_last {o : Bool} (hs : s ≠ []) (h : scan isOpen s = some o) : s.getLast?.any isHighSurrogate = o := by
  obtain ⟨front, u, rfl⟩ := List.eq_nil_or_concat s |>.resolve_left hs
  rw [List.concat_eq_append, scan_append] at h
  obtain ⟨p, -, h⟩ := Option.bind_eq_some_iff.mp h
  rw [scan_cons] at h
  obtain ⟨q, hq, h⟩ := Option.bind_eq_some_iff.mp h
  rw [List.concat_eq_append, List.getLast?_append_cons]
  cases h
  exact (follow_high hq).symm

lemma scan_open {o : Bool} (hs : s ≠ []) (h : scan true s = some o) :
    s.head?.any isLowSurrogate = true ∧ scan false s = none := by
  cases s with
  | nil => exact absurd rfl hs
  | cons u s =>
    cases hl : isLowSurrogate u with
    | true => simp [scan_cons, follow, hl]
    | false => simp [scan_cons, follow, hl] at h

lemma scan_take (h : scan false s = some false) (offset : ℕ) :
    scan false (s.take offset) = some (cutsPair s offset) := by
  have hall : (scan false (s.take offset)).bind (fun o => scan o (s.drop offset)) = some false := by
    rw [← scan_append, List.take_append_drop]
    exact h
  obtain ⟨o, ho, hrest⟩ := Option.bind_eq_some_iff.mp hall
  rw [ho, cutsPair]
  by_cases hnil : s.take offset = []
  · rw [hnil] at ho ⊢
    cases ho
    rfl
  · rw [scan_last hnil ho]
    cases o with
    | false => rfl
    | true =>
      have hne : s.drop offset ≠ [] := by
        intro hnil
        rw [hnil] at hrest
        cases hrest
      rw [(scan_open hne hrest).1]
      rfl

lemma replaced_eq : (if isHighSurrogate u || isLowSurrogate u then 0xFFFD else u) = u ↔
    isHighSurrogate u = false ∧ isLowSurrogate u = false := by
  rw [← Bool.or_eq_false_iff]
  cases h : isHighSurrogate u || isLowSurrogate u with
  | false => simp
  | true =>
    refine iff_of_false (fun he => ?_) (by simp)
    have hu : u = 0xFFFD := he.symm
    rw [hu] at h
    exact absurd h (by decide)

lemma transported_eq (s : Text) : transported s = s ↔ isWellFormed s = true := by
  rw [isWellFormed, decide_eq_true_iff]
  induction s using transported.induct with
  | case1 => exact iff_of_true rfl rfl
  | case2 u =>
    rw [transported, List.cons_eq_cons, replaced_eq]
    cases hh : isHighSurrogate u <;> cases hl : isLowSurrogate u <;> simp [scan, follow, hh, hl]
  | case3 u v rest h ih =>
    obtain ⟨hu, hv⟩ := Bool.and_eq_true_iff.mp h
    have hul : isLowSurrogate u = false := by
      cases hl : isLowSurrogate u with
      | false => rfl
      | true => exact absurd (hu.symm.trans (low_not_high hl)) (by decide)
    rw [transported, if_pos h]
    simpa [scan_cons, follow, hu, hul, hv] using ih
  | case4 u v rest h ih =>
    rw [transported, if_neg h, List.cons_eq_cons, replaced_eq, ih]
    rw [Bool.and_eq_true_iff, not_and, Bool.not_eq_true] at h
    cases hl : isLowSurrogate u with
    | true => simp [scan_cons, follow, hl]
    | false =>
      cases hh : isHighSurrogate u with
      | false =>
        have hstep : scan false (u :: v :: rest) = scan false (v :: rest) := by
          rw [scan_cons, follow, hl, hh]
          rfl
        rw [hstep]
        simp
      | true => simp [scan_cons, follow, hl, hh, h hh]

end WellFormed

namespace Haystack

variable {s : Text}

lemma scan_slice (h : scan false s = some false) (offset length : ℕ) :
    scan (cutsPair s offset) (slice s offset (offset + length)) = some (cutsPair s (offset + length)) := by
  have hsplit := scan_take h (offset + length)
  rw [List.take_add, scan_append, scan_take h offset] at hsplit
  rw [slice, Nat.add_sub_cancel_left]
  exact hsplit

lemma slice_wellFormed_iff (h : scan false s = some false) {offset length : ℕ} (hlt : offset < s.length)
    (hpos : 0 < length) : isWellFormed (slice s offset (offset + length)) = true ↔
      cutsPair s offset = false ∧ cutsPair s (offset + length) = false := by
  have hslice := scan_slice h offset length
  rw [isWellFormed, decide_eq_true_iff]
  cases hcut : cutsPair s offset with
  | false =>
    rw [hcut] at hslice
    rw [hslice]
    simp
  | true =>
    rw [hcut] at hslice
    have hne : slice s offset (offset + length) ≠ [] := by
      apply List.ne_nil_of_length_pos
      rw [slice, List.length_take, List.length_drop]
      omega
    rw [(scan_open hne hslice).2]
    simp

/-- What the deltas of a text are for: together they are the text, and each of them can be stored and sent. -/
structure Complete (s : Text) : Prop where
  whole : (textChunks s).flatten = s
  sizes : ∀ chunk ∈ textChunks s, 1 ≤ chunk.length ∧ chunk.length ≤ 20000
  wellFormed : ∀ chunk ∈ textChunks s, isWellFormed chunk = true
  unchanged : ∀ chunk ∈ textChunks s, transported chunk = chunk

lemma complete_iff : Complete s ↔ ∀ chunk ∈ textChunks s, isWellFormed chunk = true := by
  constructor
  · exact Complete.wellFormed
  · intro h
    refine ⟨textChunks_flatten s, fun chunk hc => ?_, h, fun chunk hc => (transported_eq chunk).mpr (h chunk hc)⟩
    exact lengthBetween_iff.mp (chunk_valid hc)

lemma mem_textChunks {chunk : Text} : chunk ∈ textChunks s ↔
    ∃ n, 20000 * n < s.length ∧ chunk = slice s (20000 * n) (20000 * n + 20000) := by
  rw [textChunks, List.mem_map]
  constructor
  · rintro ⟨n, hn, rfl⟩
    have hlt := List.mem_range.mp hn
    exact ⟨n, by omega, rfl⟩
  · rintro ⟨n, hn, rfl⟩
    exact ⟨n, List.mem_range.mpr (by omega), rfl⟩

lemma cutsPair_end {offset : ℕ} (h : s.length ≤ offset) : cutsPair s offset = false := by
  rw [cutsPair, List.drop_eq_nil_of_le h]
  simp

/-- The chunks of a well-formed text are complete unless a pair falls on a multiple of their length. -/
theorem chunks_complete_iff (hs : isWellFormed s = true) :
    Complete s ↔ ∀ n, cutsPair s (20000 * n) = false := by
  have hscan := of_decide_eq_true hs
  rw [complete_iff]
  constructor
  · intro h n
    by_cases hlt : 20000 * n < s.length
    · exact ((slice_wellFormed_iff hscan hlt (by decide)).mp (h _ (mem_textChunks.mpr ⟨n, hlt, rfl⟩))).1
    · exact cutsPair_end (by omega)
  · intro h chunk hchunk
    obtain ⟨n, hlt, rfl⟩ := mem_textChunks.mp hchunk
    exact (slice_wellFormed_iff hscan hlt (by decide)).mpr ⟨h n, h (n + 1)⟩

section Emoji

def waving (letters : ℕ) : Text := List.replicate letters 97 ++ [0xD83D, 0xDC4B]

lemma scan_letters (n : ℕ) : scan false (List.replicate n 97) = some false := by
  induction n with
  | zero => rfl
  | succ n ih => exact scan_cons.trans ih

lemma waving_wellFormed (n : ℕ) : isWellFormed (waving n) = true := by
  apply decide_eq_true
  rw [waving, scan_append, scan_letters]
  decide

lemma waving_front (n : ℕ) : slice (waving n) 0 (n + 1) = List.replicate n 97 ++ [0xD83D] := by
  have hletters : (List.replicate n (97 : UInt16)).length = n := List.length_replicate
  rw [slice, waving, List.drop_zero, Nat.sub_zero, List.take_append, hletters, Nat.add_sub_cancel_left,
    List.take_of_length_le (by omega)]
  rfl

lemma waving_length (n : ℕ) : (waving n).length = n + 2 := by
  rw [waving, List.length_append, List.length_replicate]
  rfl

/-- The first chunk ends with the first half of the emoji. -/
theorem emoji_cut : isWellFormed (waving 19999) = true ∧ ¬ Complete (waving 19999) := by
  refine ⟨waving_wellFormed 19999, fun h => ?_⟩
  have hlt : 20000 * 0 < (waving 19999).length := by
    rw [waving_length]
    omega
  have hformed : scan false (slice (waving 19999) 0 (19999 + 1)) = some false :=
    of_decide_eq_true (h.wellFormed _ (mem_textChunks.mpr ⟨0, hlt, rfl⟩))
  rw [waving_front, scan_append, scan_letters] at hformed
  exact absurd hformed (by decide)

theorem short_emoji_complete : Complete (waving 5) := by
  refine (chunks_complete_iff (waving_wellFormed 5)).mpr fun n => ?_
  cases n with
  | zero => decide
  | succ n => exact cutsPair_end (by rw [waving_length]; omega)

end Emoji

end Haystack

end ChatCore.Connectors
