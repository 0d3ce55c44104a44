import Mathlib.Data.List.Nodup
import Mathlib.Tactic.Lemma

/-! Tables with a primary key: no two rows of a table carry the same key. -/

namespace ChatCore.Relational

structure Table {ρ κ : Type} (key : ρ → κ) where
  rows : List ρ
  keys_nodup : (rows.map key).Nodup

namespace Table

variable {ρ κ : Type} {key : ρ → κ}

instance : EmptyCollection (Table key) := ⟨⟨[], List.nodup_nil⟩⟩

instance : Membership ρ (Table key) := ⟨fun t r => r ∈ t.rows⟩

@[simp] lemma mem_rows (t : Table key) (r : ρ) : r ∈ t.rows ↔ r ∈ t := Iff.rfl

@[simp] lemma empty_rows : (∅ : Table key).rows = [] := rfl

lemma notMem_empty (r : ρ) : r ∉ (∅ : Table key) := by
  rw [← mem_rows]
  simp

@[ext] lemma ext {t u : Table key} (h : t.rows = u.rows) : t = u := by
  cases t
  cases u
  simpa using h

lemma key_injective {t : Table key} {r s : ρ} (hr : r ∈ t) (hs : s ∈ t) (h : key r = key s) : r = s :=
  List.inj_on_of_nodup_map t.keys_nodup hr hs h

section Keys

variable [DecidableEq κ]

def find? (t : Table key) (k : κ) : Option ρ := t.rows.find? (fun r => decide (key r = k))

def insert (t : Table key) (r : ρ) : Table key :=
  if h : key r ∈ t.rows.map key then t
  else ⟨t.rows ++ [r], by
    rw [List.map_append, List.nodup_append]
    refine ⟨t.keys_nodup, List.nodup_singleton _, ?_⟩
    intro a ha b hb hab
    simp only [List.map_cons, List.map_nil, List.mem_singleton] at hb
    exact h (hb ▸ hab ▸ ha)⟩

lemma find?_eq_some {t : Table key} {k : κ} {r : ρ} : t.find? k = some r ↔ r ∈ t ∧ key r = k := by
  constructor
  · intro h
    exact ⟨List.mem_of_find?_eq_some h, by simpa using List.find?_some h⟩
  · rintro ⟨hr, rfl⟩
    unfold find?
    cases h : t.rows.find? (fun s => decide (key s = key r)) with
    | none => exact absurd (List.find?_eq_none.mp h r hr) (by simp)
    | some s =>
      have hs : key s = key r := by simpa using List.find?_some h
      rw [key_injective (List.mem_of_find?_eq_some h) hr hs]

lemma find?_eq_none {t : Table key} {k : κ} : t.find? k = none ↔ ∀ r ∈ t, key r ≠ k := by
  unfold find?
  rw [List.find?_eq_none]
  simp

lemma find?_key {t : Table key} {r : ρ} (h : r ∈ t) : t.find? (key r) = some r :=
  find?_eq_some.mpr ⟨h, rfl⟩

@[simp] lemma find?_empty (k : κ) : (∅ : Table key).find? k = none := rfl

lemma length_filter_key_le (t : Table key) (k : κ) : (t.rows.filter fun r => decide (key r = k)).length ≤ 1 := by
  have hall : (t.rows.filter fun r => decide (key r = k)).map key =
      List.replicate (t.rows.filter fun r => decide (key r = k)).length k := by
    rw [List.eq_replicate_iff]
    refine ⟨List.length_map .., fun i hi => ?_⟩
    obtain ⟨r, hr, rfl⟩ := List.mem_map.mp hi
    simpa using (List.mem_filter.mp hr).2
  have hnodup := t.keys_nodup.sublist (List.filter_sublist (p := fun r => decide (key r = k)).map key)
  rw [hall] at hnodup
  exact List.nodup_replicate.mp hnodup

lemma insert_of_absent {t : Table key} {r : ρ} (h : t.find? (key r) = none) :
    (t.insert r).rows = t.rows ++ [r] := by
  have hk : key r ∉ t.rows.map key := by
    rintro hm
    obtain ⟨s, hs, he⟩ := List.mem_map.mp hm
    exact find?_eq_none.mp h s hs he
  simp only [insert, dif_neg hk]

lemma insert_of_present {t : Table key} {r s : ρ} (h : t.find? (key r) = some s) : t.insert r = t := by
  obtain ⟨hs, he⟩ := find?_eq_some.mp h
  have hk : key r ∈ t.rows.map key := List.mem_map.mpr ⟨s, hs, he⟩
  simp only [insert, dif_pos hk]

lemma mem_insert_of_absent {t : Table key} {r s : ρ} (h : t.find? (key r) = none) :
    s ∈ t.insert r ↔ s ∈ t ∨ s = r := by
  rw [← mem_rows, insert_of_absent h]
  simp

lemma mem_of_mem_insert {t : Table key} {r s : ρ} (h : s ∈ t.insert r) : s ∈ t ∨ s = r := by
  cases hf : t.find? (key r) with
  | none => exact (mem_insert_of_absent hf).mp h
  | some u => rw [insert_of_present hf] at h; exact Or.inl h

lemma mem_insert_of_mem {t : Table key} {r s : ρ} (h : s ∈ t) : s ∈ t.insert r := by
  cases hf : t.find? (key r) with
  | none => exact (mem_insert_of_absent hf).mpr (Or.inl h)
  | some u => rw [insert_of_present hf]; exact h

lemma find?_insert_of_ne {t : Table key} {r : ρ} {k : κ} (h : key r ≠ k) :
    (t.insert r).find? k = t.find? k := by
  cases hf : t.find? (key r) with
  | none => simp [find?, insert_of_absent hf, List.find?_append, h]
  | some s => rw [insert_of_present hf]

lemma find?_insert_self {t : Table key} {r : ρ} (h : t.find? (key r) = none) :
    (t.insert r).find? (key r) = some r :=
  find?_key ((mem_insert_of_absent h).mpr (Or.inr rfl))

lemma find?_of_insert_eq_none {t : Table key} {r : ρ} {k : κ} (h : (t.insert r).find? k = none) :
    t.find? k = none :=
  find?_eq_none.mpr fun s hs => find?_eq_none.mp h s (mem_insert_of_mem hs)

lemma ne_of_insert_eq_none {t : Table key} {r : ρ} {k : κ} (h : (t.insert r).find? k = none) : key r ≠ k := by
  rintro rfl
  rw [find?_insert_self (find?_of_insert_eq_none h)] at h
  cases h

lemma insert_insert_of_absent {t : Table key} {r s : ρ} (hr : t.find? (key r) = none) (hs : t.find? (key s) = none)
    (hne : key r ≠ key s) : ((t.insert r).insert s).rows = t.rows ++ [r, s] := by
  rw [insert_of_absent ((find?_insert_of_ne hne).trans hs), insert_of_absent hr, List.append_assoc]
  rfl

end Keys

def update (t : Table key) (p : ρ → Bool) (f : ρ → ρ) (hf : ∀ r, key (f r) = key r) : Table key :=
  ⟨t.rows.map (fun r => if p r then f r else r), by
    rw [List.map_map]
    convert t.keys_nodup using 1
    apply List.map_congr_left
    intro r _
    simp only [Function.comp_apply]
    split
    · exact hf r
    · rfl⟩

def rewrite [DecidableEq κ] (t : Table key) (f : ρ → ρ) : Option (Table key) :=
  if h : ((t.rows.map f).map key).Nodup then some ⟨t.rows.map f, h⟩ else none

lemma rewrite_eq_some [DecidableEq κ] {t u : Table key} {f : ρ → ρ} :
    t.rewrite f = some u ↔ u.rows = t.rows.map f := by
  unfold rewrite
  split
  case isTrue h =>
    rw [Option.some.injEq]
    constructor
    · rintro rfl
      rfl
    · exact fun hu => ext hu.symm
  case isFalse h =>
    refine iff_of_false (fun hn => by cases hn) fun hu => h ?_
    rw [← hu]
    exact u.keys_nodup

lemma rewrite_of_nodup [DecidableEq κ] {t : Table key} {f : ρ → ρ} (h : (t.rows.map (key ∘ f)).Nodup) :
    ∃ u, t.rewrite f = some u :=
  ⟨⟨t.rows.map f, by rwa [List.map_map]⟩, rewrite_eq_some.mpr rfl⟩

def delete (t : Table key) (p : ρ → Bool) : Table key :=
  ⟨t.rows.filter (fun r => !p r), t.keys_nodup.sublist (List.filter_sublist.map key)⟩

@[simp] lemma update_rows (t : Table key) (p : ρ → Bool) (f : ρ → ρ) (hf : ∀ r, key (f r) = key r) :
    (t.update p f hf).rows = t.rows.map (fun r => if p r then f r else r) := rfl

@[simp] lemma delete_rows (t : Table key) (p : ρ → Bool) :
    (t.delete p).rows = t.rows.filter (fun r => !p r) := rfl

lemma mem_update {t : Table key} {p : ρ → Bool} {f : ρ → ρ} {hf : ∀ r, key (f r) = key r} {s : ρ} :
    s ∈ t.update p f hf ↔ ∃ r ∈ t, s = if p r then f r else r := by
  rw [← mem_rows, update_rows, List.mem_map]
  exact exists_congr fun r => and_congr_right fun _ => eq_comm

lemma update_congr {t : Table key} {p q : ρ → Bool} (f : ρ → ρ) (hf : ∀ r, key (f r) = key r)
    (h : ∀ r ∈ t, p r = q r) : t.update p f hf = t.update q f hf := by
  apply ext
  apply List.map_congr_left
  intro r hr
  rw [h r hr]

lemma delete_congr {t : Table key} {p q : ρ → Bool} (h : ∀ r ∈ t, p r = q r) : t.delete p = t.delete q := by
  apply ext
  apply List.filter_congr
  intro r hr
  rw [h r hr]

lemma delete_delete {t : Table key} {p q : ρ → Bool} : (t.delete p).delete q = t.delete fun r => p r || q r := by
  apply ext
  rw [delete_rows, delete_rows, delete_rows, List.filter_filter]
  exact List.filter_congr fun r _ => by rw [Bool.not_or, Bool.and_comm]

lemma delete_false {t : Table key} : (t.delete fun _ => false) = t := by
  apply ext
  rw [delete_rows]
  exact List.filter_eq_self.mpr fun _ _ => rfl

lemma mem_delete {t : Table key} {p : ρ → Bool} {s : ρ} : s ∈ t.delete p ↔ s ∈ t ∧ p s = false := by
  rw [← mem_rows, delete_rows]
  simp

variable [DecidableEq κ]

lemma find?_update (t : Table key) (p : ρ → Bool) (f : ρ → ρ) (hf : ∀ r, key (f r) = key r) (k : κ) :
    (t.update p f hf).find? k = (t.find? k).map (fun r => if p r then f r else r) := by
  cases h : t.find? k with
  | none =>
    refine find?_eq_none.mpr fun s hs => ?_
    obtain ⟨r, hr, rfl⟩ := mem_update.mp hs
    have hk := find?_eq_none.mp h r hr
    split
    · exact hf r ▸ hk
    · exact hk
  | some r =>
    obtain ⟨hr, rfl⟩ := find?_eq_some.mp h
    refine find?_eq_some.mpr ⟨mem_update.mpr ⟨r, hr, rfl⟩, ?_⟩
    change key (if p r then f r else r) = key r
    split
    · exact hf r
    · rfl

lemma find?_delete_of_find?_none {t : Table key} {p : ρ → Bool} {k : κ} (h : t.find? k = none) :
    (t.delete p).find? k = none :=
  find?_eq_none.mpr fun s hs => find?_eq_none.mp h s (mem_delete.mp hs).1

lemma find?_delete_of_kept {t : Table key} {p : ρ → Bool} {k : κ}
    (h : ∀ r ∈ t, key r = k → p r = false) : (t.delete p).find? k = t.find? k := by
  cases hf : t.find? k with
  | none => exact find?_delete_of_find?_none hf
  | some r =>
    obtain ⟨hr, hk⟩ := find?_eq_some.mp hf
    exact find?_eq_some.mpr ⟨mem_delete.mpr ⟨hr, h r hr hk⟩, hk⟩

end Table

end ChatCore.Relational
