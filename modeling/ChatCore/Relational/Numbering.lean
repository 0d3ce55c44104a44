import Mathlib.Data.List.Nodup
import Mathlib.Data.Nat.Notation
import Mathlib.Tactic.Lemma

/-! Rows numbered from one in the order they were added, of which the last `keep` are stored. -/

namespace ChatCore.Relational

variable {ρ : Type} {number : ρ → ℕ} {all : List ρ} {next keep : ℕ} {r : ρ}

structure Numbered (number : ρ → ℕ) (all : List ρ) (next : ℕ) : Prop where
  numbers : all.map number = List.range' 1 all.length
  next_eq : next = all.length + 1

def retained (keep : ℕ) (all : List ρ) : List ρ := all.drop (all.length - keep)

lemma numbered_nil : Numbered number [] 1 := ⟨rfl, rfl⟩

lemma Numbered.snoc (h : Numbered number all next) (hr : number r = next) :
    Numbered number (all ++ [r]) (next + 1) := by
  refine ⟨?_, by simp [h.next_eq]⟩
  rw [List.map_append, h.numbers, List.length_append, List.length_singleton, List.range'_append_1.symm]
  simp [hr, h.next_eq, Nat.add_comm]

lemma Numbered.nodup (h : Numbered number all next) : (all.map number).Nodup := h.numbers ▸ List.nodup_range'

lemma filter_above {l : List ρ} {first : ℕ} (hl : l.map number = List.range' first l.length) (bound : Int) :
    l.filter (fun q => !decide ((number q : Int) ≤ bound)) = l.drop (bound + 1 - first).toNat := by
  induction l generalizing first with
  | nil => simp
  | cons q l ih =>
    rw [List.map_cons, List.length_cons, List.range'_succ, List.cons.injEq] at hl
    obtain ⟨hq, hl⟩ := hl
    have ih := ih hl
    by_cases hb : (number q : Int) ≤ bound
    · have hd : (bound + 1 - first).toNat = (bound + 1 - ((first + 1 : ℕ) : Int)).toNat + 1 := by omega
      rw [List.filter_cons_of_neg (by simpa using hb), ih, hd, List.drop_succ_cons]
    · have hd : (bound + 1 - first).toNat = 0 := by omega
      have hd' : (bound + 1 - ((first + 1 : ℕ) : Int)).toNat = 0 := by omega
      rw [List.filter_cons_of_pos (by simpa using hb), ih, hd, hd', List.drop_zero, List.drop_zero]

lemma Numbered.retained_numbers (h : Numbered number all next) : (retained keep all).map number =
    List.range' (1 + (all.length - keep)) (all.length - (all.length - keep)) := by
  rw [retained, List.map_drop, h.numbers, List.drop_range']
  simp

lemma Numbered.retained_snoc (h : Numbered number all next) (hr : number r = next) (hk : 1 ≤ keep) :
    (retained keep all ++ [r]).filter (fun q => !decide ((number q : Int) ≤ (next : Int) - keep)) =
      retained keep (all ++ [r]) := by
  have hn := h.next_eq
  have hlen : (retained keep all).length = all.length - (all.length - keep) := by simp [retained]
  have hmap : (retained keep all ++ [r]).map number =
      List.range' (1 + (all.length - keep)) (retained keep all ++ [r]).length := by
    rw [List.map_append, h.retained_numbers, List.length_append, List.length_singleton, hlen,
      List.range'_append_1.symm, List.map_singleton, hr]
    have hlast : next = 1 + (all.length - keep) + (all.length - (all.length - keep)) := by omega
    rw [hlast]
    rfl
  rw [filter_above hmap]
  unfold retained
  rw [List.length_append, List.length_singleton]
  by_cases hle : keep ≤ all.length
  · have h1 : (((next : Int) - keep) + 1 - ((1 + (all.length - keep) : ℕ) : Int)).toNat = 1 := by omega
    have h2 : all.length + 1 - keep = (all.length - keep) + 1 := by omega
    rw [h1, h2, ← List.drop_append_of_le_length (by omega), List.drop_drop]
  · have h1 : (((next : Int) - keep) + 1 - ((1 + (all.length - keep) : ℕ) : Int)).toNat = 0 := by omega
    have h2 : all.length + 1 - keep = 0 := by omega
    have h3 : all.length - keep = 0 := by omega
    rw [h1, h2, h3, List.drop_zero, List.drop_zero, List.drop_zero]

lemma Numbered.mem_retained (h : Numbered number all next) (hr : r ∈ all) :
    r ∈ retained keep all ↔ all.length < number r + keep := by
  have hnodup := h.nodup
  obtain ⟨i, hi, rfl⟩ := List.getElem_of_mem hr
  have hnumber : number all[i] = 1 + i := by
    have hget : (all.map number)[i]? = (List.range' 1 all.length)[i]? := by rw [h.numbers]
    simpa [hi] using hget
  rw [retained, hnumber, List.mem_drop_iff_getElem]
  constructor
  · rintro ⟨j, hj, heq⟩
    have hsame : all.length - keep + j = i := by
      refine (List.Nodup.getElem_inj_iff (List.Nodup.of_map _ hnodup)).mp heq
    omega
  · intro hlt
    refine ⟨i - (all.length - keep), by omega, ?_⟩
    congr 1
    omega

lemma Numbered.disjoint_retained (h : Numbered number all next) (hr : r ∈ all.take (all.length - keep)) :
    r ∉ retained keep all := by
  have hnodup : (all.take (all.length - keep) ++ all.drop (all.length - keep)).Nodup := by
    rw [List.take_append_drop]
    exact List.Nodup.of_map _ h.nodup
  exact fun hm => List.disjoint_of_nodup_append hnodup hr hm

lemma retained_concat (hk : 1 ≤ keep) : retained keep (all ++ [r]) = all.drop (all.length + 1 - keep) ++ [r] := by
  rw [retained, List.length_append, List.length_singleton, List.drop_append_of_le_length (by omega)]

lemma mem_retained_of_mem_drop {n : ℕ} (hn : all.length - keep ≤ n) (h : r ∈ all.drop n) :
    r ∈ retained keep all := by
  obtain ⟨m, rfl⟩ := Nat.exists_eq_add_of_le hn
  rw [← List.drop_drop] at h
  exact List.mem_of_mem_drop h

lemma length_retained_le : (retained keep all).length ≤ keep := by
  rw [retained, List.length_drop]
  omega

lemma getLast_mem_retained (hk : 1 ≤ keep) (hr : all.getLast? = some r) : r ∈ retained keep all := by
  obtain ⟨init, rfl⟩ := List.getLast?_eq_some_iff.mp hr
  rw [retained, List.drop_append_of_le_length (by simp; omega)]
  simp

end ChatCore.Relational
