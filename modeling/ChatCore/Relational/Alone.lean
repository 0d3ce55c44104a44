import ChatCore.Relational.SafeRules
import Mathlib.Data.Set.Insert

/-! Programs that run alone: what their transactions leave, and what they keep. -/

namespace ChatCore.Relational

namespace Program

variable {σ ν ε α β : Type}

@[simp] lemma exec_map (f : α → β) (p : Program σ ν ε α) (c v : σ) :
    (f <$> p).exec c v = ((p.exec c v).1.map f, (p.exec c v).2) := by
  rw [map_eq_pure_bind, exec_bind]
  rcases p.exec c v with ⟨_ | a, c', v'⟩ <;> rfl

@[simp] lemma exec_transaction (p : Program σ ν ε α) (c v : σ) :
    p.transaction.exec c v = match p.exec c v with
      | (.ok a, _, v') => (.ok a, v', v')
      | (.error e, c', v') => (.error e, c', v') := by
  rw [transaction, exec_bind]
  rcases p.exec c v with ⟨_ | a, c', v'⟩ <;> rfl

lemma exec_transaction_ok {p : Program σ ν ε α} {c v v' : σ} {a : α} (h : p.exec c v = (.ok a, c, v')) :
    p.transaction.exec c v = (.ok a, v', v') := by
  rw [exec_transaction, h]

lemma exec_transaction_error {p : Program σ ν ε α} {c v v' : σ} {e : ε} (h : p.exec c v = (.error e, c, v')) :
    p.transaction.exec c v = (.error e, c, v') := by
  rw [exec_transaction, h]

lemma exec_bind_ok {p : Program σ ν ε α} {f : α → Program σ ν ε β} {c v c' v' : σ} {a : α}
    (h : p.exec c v = (.ok a, c', v')) : (p >>= f).exec c v = (f a).exec c' v' := by
  rw [exec_bind, h]

lemma exec_bind_error {p : Program σ ν ε α} {f : α → Program σ ν ε β} {c v c' v' : σ} {e : ε}
    (h : p.exec c v = (.error e, c', v')) : (p >>= f).exec c v = (.error e, c', v') := by
  rw [exec_bind, h]

lemma run_bind {p : Program σ ν ε α} {f : α → Program σ ν ε β} {db v : σ} {a : α}
    (h : p.exec db db = (.ok a, v, v)) :
    (p >>= f).run db = (f a).run v := by
  simp only [run, exec_bind, h]

lemma run_of_exec {p : Program σ ν ε α} {db c v : σ} {r : Except ε α} (h : p.exec db db = (r, c, v)) :
    p.run db = (r, v) := by
  rw [run, h]

lemma run_map (f : α → β) (p : Program σ ν ε α) (db : σ) :
    (f <$> p).run db = ((p.run db).1.map f, (p.run db).2) := by
  simp only [run, exec_map]

lemma exec_bind_inv {p : Program σ ν ε α} {f : α → Program σ ν ε β} {c v : σ} {b : β} {w : σ × σ}
    (h : (p >>= f).exec c v = (.ok b, w)) :
    ∃ a c' v', p.exec c v = (.ok a, c', v') ∧ (f a).exec c' v' = (.ok b, w) := by
  rw [exec_bind] at h
  rcases hp : p.exec c v with ⟨e | a, c', v'⟩ <;> rw [hp] at h
  · cases h
  · exact ⟨a, c', v', rfl, h⟩

lemma exec_pure_inv {a b : α} {c v : σ} {w : σ × σ} (h : (Pure.pure a : Program σ ν ε α).exec c v = (.ok b, w)) :
    b = a ∧ w = (c, v) := by
  cases h
  exact ⟨rfl, rfl⟩

lemma exec_error {p : Program σ ν ε α} {c v : σ} {e : ε} (h : (p.exec c v).1 = .error e) :
    (p.exec c v).2.2 = (p.exec c v).2.1 := by
  induction p generalizing c v with
  | pure a => cases h
  | throw e => rfl
  | statement locks write next ih => exact ih _ h
  | commit next ih => exact ih h

lemma Single.exec_committed {p : Program σ ν ε α} (hp : p.Single) (c v : σ) : (p.exec c v).2.1 = c := by
  induction p generalizing v with
  | pure | throw => rfl
  | statement locks write next ih => exact ih _ (hp _) _
  | commit next ih => exact hp.elim

lemma Keeps.exec {K : σ → σ → Prop} (htrans : ∀ a b c, K a b → K b c → K a c) {p : Program σ ν ε α}
    (hp : p.Keeps K)
    {db c v : σ} (hc : K db c) (hv : K db v) : K db (p.exec c v).2.1 ∧ K db (p.exec c v).2.2 := by
  induction p generalizing c v with
  | pure a => exact ⟨hc, hv⟩
  | throw e => exact ⟨hc, hc⟩
  | statement locks write next ih => exact ih _ (hp _).2 hc (htrans _ _ _ hv ((hp _).1 _))
  | commit next ih => exact ih hp hv hv

lemma Keeps.exec_ok {K : σ → σ → Prop} (hid : ∀ a, K a a) (htrans : ∀ a b c, K a b → K b c → K a c)
    {p : Program σ ν ε α} (hp : p.Keeps K) {c v : σ} {a : α} {w : σ × σ}
    (h : p.exec c v = (.ok a, w)) : K v w.2 := by
  induction p generalizing c v with
  | pure b =>
    cases h
    exact hid v
  | throw e => cases h
  | statement locks write next ih => exact htrans _ _ _ ((hp _).1 v) (ih _ (hp _).2 h)
  | commit next ih => exact ih hp h

lemma Keeps.run {K : σ → σ → Prop} (hid : ∀ a, K a a) (htrans : ∀ a b c, K a b → K b c → K a c)
    {p : Program σ ν ε α} (hp : p.Keeps K) (db : σ) : K db (p.run db).2 := (hp.exec htrans (hid db) (hid db)).2

lemma Keeps.run_eq {p : Program σ ν ε α} (hp : p.Keeps Eq) (db : σ) : (p.run db).2 = db :=
  (hp.run (fun _ => rfl) (fun _ _ _ => Eq.trans) db).symm

lemma run_transaction_bind {p : Program σ ν ε α} (hp : p.Single) {f : α → Program σ ν ε β}
    (hf : ∀ a, (f a).Keeps Eq)
    (db : σ) : (∃ e, (p.transaction >>= f).run db = (.error e, db)) ∨
      ∃ a v, p.exec db db = (.ok a, db, v) ∧ ((p.transaction >>= f).run db).2 = v := by
  have hc := hp.exec_committed db db
  rcases h : p.exec db db with ⟨e | a, c', v'⟩
  · have he := exec_error (p := p) (c := db) (v := db) (by rw [h])
    rw [h] at hc he
    change c' = db at hc
    change v' = c' at he
    rw [he, hc] at h
    exact Or.inl ⟨e, run_of_exec (exec_bind_error (exec_transaction_error h))⟩
  · rw [h] at hc
    change c' = db at hc
    rw [hc] at h
    refine Or.inr ⟨a, v', by rw [hc], ?_⟩
    rw [run_bind (exec_transaction_ok h)]
    exact (hf a).run_eq v'

lemma Returns.run {Q : α → Prop} {p : Program σ ν ε α} (hp : p.Returns Q) (db : σ) :
    ∀ a, (p.run db).1 = .ok a → Q a := by
  have hall : ∀ c v a, (p.exec c v).1 = .ok a → Q a := by
    induction p with
    | pure a =>
      intro c v b hb
      cases hb
      exact hp
    | throw e => intro c v b hb; cases hb
    | statement locks write next ih => exact fun c v => ih _ (hp _) c _
    | commit next ih => exact fun c v => ih hp v v
  exact hall db db

end Program

namespace Table

variable {ρ κ : Type} {key : ρ → κ} {t : Table key}

lemma filter_update {p q : ρ → Bool} {f : ρ → ρ} (hf : ∀ r, key (f r) = key r) (hq : ∀ r, q (f r) = q r) :
    (t.update p f hf).rows.filter q = (t.rows.filter q).map fun r => if p r then f r else r := by
  rw [update_rows, List.filter_map]
  refine congrArg _ (List.filter_congr fun r _ => ?_)
  simp only [Function.comp_apply]
  split
  · exact hq r
  · rfl

lemma filter_update_of_not {p q : ρ → Bool} {f : ρ → ρ} (hf : ∀ r, key (f r) = key r) (hq : ∀ r, q (f r) = q r)
    (hp : ∀ r ∈ t, p r = true → q r = false) : (t.update p f hf).rows.filter q = t.rows.filter q := by
  rw [filter_update hf hq]
  conv_rhs => rw [← List.map_id (t.rows.filter q)]
  refine List.map_congr_left fun r hr => ?_
  obtain ⟨hm, hqr⟩ := List.mem_filter.mp hr
  rw [if_neg fun h => by rw [hp r hm h] at hqr; cases hqr]
  rfl

lemma update_of_not {p : ρ → Bool} {f : ρ → ρ} {hf : ∀ r, key (f r) = key r} (h : ∀ r ∈ t, p r = false) :
    t.update p f hf = t := by
  apply ext
  rw [update_rows]
  conv_rhs => rw [← List.map_id t.rows]
  refine List.map_congr_left fun r hr => ?_
  rw [if_neg (by simp [h r hr])]
  rfl

variable [DecidableEq κ]

lemma filter_key (k : κ) : (t.rows.filter fun r => decide (key r = k)) = (t.find? k).toList := by
  cases h : t.find? k with
  | none => exact List.filter_eq_nil_iff.mpr fun r hr => by simpa using find?_eq_none.mp h r hr
  | some r =>
    obtain ⟨hr, hk⟩ := find?_eq_some.mp h
    have hm : r ∈ t.rows.filter fun r => decide (key r = k) := List.mem_filter.mpr ⟨hr, decide_eq_true hk⟩
    obtain ⟨s, hs⟩ := List.length_eq_one_iff.mp
      (Nat.le_antisymm (t.length_filter_key_le k) (List.length_pos_of_mem hm))
    rw [hs, List.mem_singleton] at hm
    rw [hs, hm]
    rfl

lemma filter_key_and (k : κ) (q : ρ → Bool) :
    (t.rows.filter fun r => decide (key r = k) && q r) = ((t.find? k).filter q).toList := by
  have hand : (t.rows.filter fun r => decide (key r = k) && q r) =
      (t.rows.filter fun r => decide (key r = k)).filter q := by
    rw [List.filter_filter]
    exact List.filter_congr fun r _ => Bool.and_comm _ _
  rw [hand, filter_key]
  cases t.find? k with
  | none => rfl
  | some r => by_cases h : q r = true <;> simp [Option.filter, h]

def image {X : Type} (g : ρ → X) (t : Table key) : Set X := {x | ∃ r ∈ t, g r = x}

section Image

variable {X : Type} {g : ρ → X}

omit [DecidableEq κ] in
lemma mem_image {r : ρ} (h : r ∈ t) : g r ∈ t.image g := ⟨r, h, rfl⟩

omit [DecidableEq κ] in
lemma image_update {p : ρ → Bool} {f : ρ → ρ} (hf : ∀ r, key (f r) = key r := by intro _; rfl)
    (hg : ∀ r, g (f r) = g r := by intro _; rfl) :
    (t.update p f hf).image g = t.image g := by
  have hone : ∀ r, g (if p r then f r else r) = g r := by
    intro r
    split
    · exact hg r
    · rfl
  ext x
  constructor
  · rintro ⟨s, hs, rfl⟩
    obtain ⟨r, hr, rfl⟩ := mem_update.mp hs
    exact ⟨r, hr, (hone r).symm⟩
  · rintro ⟨r, hr, rfl⟩
    exact ⟨_, mem_update.mpr ⟨r, hr, rfl⟩, hone r⟩

lemma image_insert {r : ρ} (h : t.find? (key r) = none) : (t.insert r).image g = t.image g ∪ {g r} := by
  ext x
  constructor
  · rintro ⟨s, hs, rfl⟩
    rcases (mem_insert_of_absent h).mp hs with hs | rfl
    · exact Or.inl ⟨s, hs, rfl⟩
    · exact Or.inr rfl
  · rintro (⟨s, hs, rfl⟩ | rfl)
    · exact ⟨s, mem_insert_of_mem hs, rfl⟩
    · exact ⟨r, (mem_insert_of_absent h).mpr (Or.inr rfl), rfl⟩

omit [DecidableEq κ] in
lemma image_delete {p : ρ → Bool} {q : X → Bool} (h : ∀ r, p r = q (g r)) :
    (t.delete p).image g = {x ∈ t.image g | q x = false} := by
  ext x
  constructor
  · rintro ⟨r, hr, rfl⟩
    obtain ⟨hr, hp⟩ := mem_delete.mp hr
    exact ⟨⟨r, hr, rfl⟩, (h r).symm.trans hp⟩
  · rintro ⟨⟨r, hr, rfl⟩, hq⟩
    exact ⟨r, mem_delete.mpr ⟨hr, (h r).trans hq⟩, rfl⟩

end Image

lemma filter_insert_of_not {q : ρ → Bool} {r : ρ} (hr : q r = false) :
    (t.insert r).rows.filter q = t.rows.filter q := by
  cases h : t.find? (key r) with
  | none => simp [insert_of_absent h, hr]
  | some s => rw [insert_of_present h]

end Table

namespace Relation

open Program

variable {σ ν ε α ρ κ : Type} {key : ρ → κ} [QueryError ε] [DecidableEq κ] (t : Relation σ ν key) {p : ρ → Bool}
  {f : ρ → ρ} {hf : ∀ r, key (f r) = key r} {c v : σ}

lemma exec_updateTable_ok (hc : ∀ r ∈ t.get v, p r = true → t.check (f r) = none) :
    (t.updateTable p f hf : Program σ ν ε (List ρ)).exec c v =
    (.ok ((t.matching p v).map f), c, t.put v ((t.get v).update p f hf)) := by
  rw [exec_updateTable, List.findSome?_eq_none_iff.mpr]
  intro r hr
  obtain ⟨s, hs, rfl⟩ := List.mem_map.mp hr
  obtain ⟨hm, hp⟩ := List.mem_filter.mp hs
  exact hc s hm hp

section Insert

variable {t} {r s : ρ}

lemma exec_insertInto_ok (h : t.broken v r = none) :
    (t.insertInto r : Program σ ν ε Unit).exec c v = (.ok (), c, t.put v ((t.get v).insert r)) := by
  rw [exec_insertInto, h]

lemma exec_insertInto_broken {name : String} (h : t.broken v r = some name) :
    (t.insertInto r : Program σ ν ε Unit).exec c v = (.error (QueryError.constraint name), c, c) := by
  rw [exec_insertInto, h]

lemma exec_insertOrIgnore_present (h : (t.get v).find? (key r) = some s) :
    (t.insertOrIgnore r : Program σ ν ε Unit).exec c v = (.ok (), c, v) := by
  rw [exec_insertOrIgnore, h]

lemma exec_insertOrIgnore_ok (h : t.broken v r = none) :
    (t.insertOrIgnore r : Program σ ν ε Unit).exec c v = (.ok (), c, t.put v ((t.get v).insert r)) := by
  rw [exec_insertOrIgnore, (t.broken_eq_none.mp h).2.1, h]

lemma exec_insertOrIgnore_broken {name : String} (hf : (t.get v).find? (key r) = none)
    (h : t.broken v r = some name) :
    (t.insertOrIgnore r : Program σ ν ε Unit).exec c v = (.error (QueryError.constraint name), c, c) := by
  rw [exec_insertOrIgnore, hf, h]

end Insert

section Inversion

variable {t} {r : ρ} {w : σ × σ}

omit [DecidableEq κ] in
lemma exec_orThrow_inv {a : Option α} {b : α} (h : (orThrow a : Program σ ν ε α).exec c v = (.ok b, w)) :
    a = some b ∧ w = (c, v) := by
  cases a with
  | none => cases h
  | some a =>
    cases h
    exact ⟨rfl, rfl⟩

omit [DecidableEq κ] in
lemma exec_selectFirstOrThrow_inv (h : (t.selectFirstOrThrow p : Program σ ν ε ρ).exec c v = (.ok r, w)) :
    (t.matching p v).head? = some r ∧ w = (c, v) :=
  exec_orThrow_inv ((exec_bind_ok (t.exec_selectFirst p c v)).symm.trans h)

lemma exec_insertInto_inv {u : Unit} (h : (t.insertInto r : Program σ ν ε Unit).exec c v = (.ok u, w)) :
    t.broken v r = none ∧ w = (c, t.put v ((t.get v).insert r)) := by
  cases hb : t.broken v r with
  | some name =>
    rw [exec_insertInto_broken hb] at h
    cases h
  | none =>
    rw [exec_insertInto_ok hb] at h
    cases h
    exact ⟨rfl, rfl⟩

lemma exec_updateTable_inv {rows : List ρ}
    (h : (t.updateTable p f hf : Program σ ν ε (List ρ)).exec c v = (.ok rows, w)) :
    rows = (t.matching p v).map f ∧ w = (c, t.put v ((t.get v).update p f hf)) := by
  rw [exec_updateTable] at h
  cases hc : ((t.matching p v).map f).findSome? t.check with
  | some name =>
    rw [hc] at h
    cases h
  | none =>
    rw [hc] at h
    cases h
    exact ⟨rfl, rfl⟩

end Inversion

section Select

variable {t} {k : κ} {r : ρ}

omit [QueryError ε] in
lemma exec_selectFirst_key : (t.selectFirst (fun r => decide (key r = k)) : Program σ ν ε (Option ρ)).exec c v =
    (.ok ((t.get v).find? k), c, v) := by
  rw [exec_selectFirst, matching, Table.filter_key, Option.head?_toList]

lemma exec_selectFirstOrThrow_key (h : (t.get v).find? k = some r) :
    (t.selectFirstOrThrow (fun r => decide (key r = k)) : Program σ ν ε ρ).exec c v = (.ok r, c, v) := by
  rw [exec_selectFirstOrThrow, matching, Table.filter_key, h]
  rfl

end Select

end Relation

end ChatCore.Relational
