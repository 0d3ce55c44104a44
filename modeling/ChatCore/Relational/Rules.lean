import ChatCore.Relational.RelyGuarantee

/-! The rules of the statements: which writes they guard, keep to a relation, and leave safe. -/

namespace ChatCore.Relational

open Program

variable {σ ν ε α β ρ κ C : Type} {key : ρ → κ}

section Shape

variable {cell : ν → σ → C} {held : List (Lock ν)} {K : σ → σ → Prop}

@[simp] lemma guarded_pure (a : α) : (Pure.pure a : Program σ ν ε α).Guarded cell held := trivial

@[simp] lemma guarded_throw (e : ε) : (throw e : Program σ ν ε α).Guarded cell held := trivial

@[simp] lemma guarded_select (query : σ → α) : (select query : Program σ ν ε α).Guarded cell held :=
  fun _ => ⟨fun _ _ _ => rfl, trivial⟩

@[simp] lemma guarded_lock (locks : σ → List (Lock ν)) : (lock locks : Program σ ν ε Unit).Guarded cell held :=
  fun _ => ⟨fun _ _ _ => rfl, trivial⟩

lemma guarded_lock_bind {locks : σ → List (Lock ν)} {f : Unit → Program σ ν ε α}
    (h : ∀ db, (f ()).Guarded cell (locks db ++ held)) : (lock locks >>= f).Guarded cell held :=
  fun v => ⟨fun _ _ _ => rfl, h v.rows⟩

lemma Program.Guarded.map {p : Program σ ν ε α} (f : α → β) (h : p.Guarded cell held) :
    (f <$> p).Guarded cell held := by
  rw [map_eq_pure_bind]
  exact h.bind fun _ => trivial

lemma Program.Guarded.transaction {p : Program σ ν ε α} (h : p.Guarded cell held) :
    p.transaction.Guarded cell held := h.bind fun _ => trivial

lemma Program.Guarded.coarsen {C' : Type} {cell' : ν → σ → C'} {p : Program σ ν ε α}
    (hc : ∀ n db db', cell n db = cell n db' → cell' n db = cell' n db') (h : p.Guarded cell held) :
    p.Guarded cell' held := by
  induction p generalizing held with
  | pure | throw => trivial
  | commit next ih => exact ih h
  | statement locks write next ih => exact fun v => ⟨fun base n hn => hc _ _ _ ((h v).1 base n hn), ih v (h v).2⟩

@[simp] lemma single_pure (a : α) : (Pure.pure a : Program σ ν ε α).Single := trivial

@[simp] lemma single_throw (e : ε) : (throw e : Program σ ν ε α).Single := trivial

@[simp] lemma single_select (query : σ → α) : (select query : Program σ ν ε α).Single := fun _ => trivial

@[simp] lemma single_lock (locks : σ → List (Lock ν)) : (lock locks : Program σ ν ε Unit).Single :=
  fun _ => trivial

@[simp] lemma keeps_pure (a : α) : (Pure.pure a : Program σ ν ε α).Keeps K := trivial

@[simp] lemma keeps_throw (e : ε) : (throw e : Program σ ν ε α).Keeps K := trivial

lemma keeps_select (hK : ∀ db, K db db) (query : σ → α) : (select query : Program σ ν ε α).Keeps K :=
  fun _ => ⟨hK, trivial⟩

lemma keeps_lock (hK : ∀ db, K db db) (locks : σ → List (Lock ν)) : (lock locks : Program σ ν ε Unit).Keeps K :=
  fun _ => ⟨hK, trivial⟩

lemma Program.Keeps.map {p : Program σ ν ε α} (f : α → β) (h : p.Keeps K) : (f <$> p).Keeps K := by
  rw [map_eq_pure_bind]
  exact h.bind fun _ => trivial

lemma Program.Keeps.transaction {p : Program σ ν ε α} (h : p.Keeps K) : p.transaction.Keeps K :=
  h.bind fun _ => trivial

section Errors

variable {E : ε → Prop}

lemma raises_select (query : σ → α) : (select query : Program σ ν ε α).Raises E := fun _ => trivial

lemma raises_lock (locks : σ → List (Lock ν)) : (lock locks : Program σ ν ε Unit).Raises E := fun _ => trivial

lemma Program.Raises.map {p : Program σ ν ε α} (f : α → β) (h : p.Raises E) : (f <$> p).Raises E := by
  rw [map_eq_pure_bind]
  exact h.bind fun _ => trivial

lemma Program.Raises.transaction {p : Program σ ν ε α} (h : p.Raises E) : p.transaction.Raises E :=
  h.bind fun _ => trivial

end Errors

end Shape

namespace Relation

variable (t : Relation σ ν key) {cell : ν → σ → C} {held : List (Lock ν)} {K : σ → σ → Prop}

section Reads

@[simp] lemma guarded_selectFrom (p : ρ → Bool) : (t.selectFrom p : Program σ ν ε _).Guarded cell held :=
  guarded_select _

@[simp] lemma guarded_selectFirst (p : ρ → Bool) : (t.selectFirst p : Program σ ν ε _).Guarded cell held :=
  guarded_select _

@[simp] lemma guarded_forUpdate (p : ρ → Bool) : (t.forUpdate p : Program σ ν ε _).Guarded cell held :=
  fun _ => ⟨fun _ _ _ => rfl, trivial⟩

@[simp] lemma guarded_skipLocked (p : ρ → Bool) : (t.skipLocked p : Program σ ν ε _).Guarded cell held :=
  fun _ => ⟨fun _ _ _ => rfl, trivial⟩

@[simp] lemma single_selectFrom (p : ρ → Bool) : (t.selectFrom p : Program σ ν ε _).Single := fun _ => trivial

@[simp] lemma single_selectFirst (p : ρ → Bool) : (t.selectFirst p : Program σ ν ε _).Single := fun _ => trivial

@[simp] lemma single_forUpdate (p : ρ → Bool) : (t.forUpdate p : Program σ ν ε _).Single := fun _ => trivial

@[simp] lemma single_skipLocked (p : ρ → Bool) : (t.skipLocked p : Program σ ν ε _).Single := fun _ => trivial

lemma keeps_selectFrom (hK : ∀ db, K db db) (p : ρ → Bool) : (t.selectFrom p : Program σ ν ε _).Keeps K :=
  keeps_select hK _

lemma keeps_selectFirst (hK : ∀ db, K db db) (p : ρ → Bool) : (t.selectFirst p : Program σ ν ε _).Keeps K :=
  keeps_select hK _

lemma keeps_forUpdate (hK : ∀ db, K db db) (p : ρ → Bool) : (t.forUpdate p : Program σ ν ε _).Keeps K :=
  fun _ => ⟨hK, trivial⟩

lemma keeps_skipLocked (hK : ∀ db, K db db) (p : ρ → Bool) : (t.skipLocked p : Program σ ν ε _).Keeps K :=
  fun _ => ⟨hK, trivial⟩

variable [QueryError ε]

@[simp] lemma guarded_orThrow (a : Option α) : (orThrow a : Program σ ν ε α).Guarded cell held := by
  cases a <;> trivial

@[simp] lemma guarded_selectFirstOrThrow (p : ρ → Bool) :
    (t.selectFirstOrThrow p : Program σ ν ε ρ).Guarded cell held :=
  (t.guarded_selectFirst p).bind fun _ => guarded_orThrow _

@[simp] lemma single_orThrow (a : Option α) : (orThrow a : Program σ ν ε α).Single := by
  cases a <;> trivial

@[simp] lemma single_selectFirstOrThrow (p : ρ → Bool) : (t.selectFirstOrThrow p : Program σ ν ε ρ).Single :=
  (t.single_selectFirst p).bind fun _ => single_orThrow _

@[simp] lemma keeps_orThrow (a : Option α) : (orThrow a : Program σ ν ε α).Keeps K := by
  cases a <;> trivial

lemma keeps_selectFirstOrThrow (hK : ∀ db, K db db) (p : ρ → Bool) :
    (t.selectFirstOrThrow p : Program σ ν ε ρ).Keeps K :=
  (t.keeps_selectFirst hK p).bind fun _ => keeps_orThrow _

end Reads

section Writes

variable [QueryError ε] [DecidableEq κ]

def Inserts (K : σ → σ → Prop) (r : ρ) : Prop := ∀ base, K base (t.put base ((t.get base).insert r))

def Updates (K : σ → σ → Prop) (f : ρ → ρ) (hf : ∀ r, key (f r) = key r) : Prop :=
  ∀ base q, K base (t.put base ((t.get base).update q f hf))

def Deletes (K : σ → σ → Prop) : Prop := ∀ base q, K base (t.put base ((t.get base).delete q))

def Shields {X : Type} (cell : ν → σ → C) (extra : ν → Table key → X) : Prop :=
  ∀ n base (u : Table key), (∀ k, t.row k = n → u.find? k = (t.get base).find? k) →
    extra n u = extra n (t.get base) → cell n (t.put base u) = cell n base

variable {X : Type} {extra : ν → Table key → X} {t}

omit [DecidableEq κ] in
lemma unlocked_rowLocks {mode : LockMode} (hm : mode ≠ .keyShare) {rows : List ρ} {n : ν}
    (h : Unlocked (t.rowLocks mode rows ++ held) n) {k : κ} (hk : t.row k = n) : k ∉ rows.map key := by
  rintro hmem
  obtain ⟨r, hr, rfl⟩ := List.mem_map.mp hmem
  exact h ⟨t.row (key r), mode⟩ (List.mem_append_left _ (List.mem_map.mpr ⟨r, hr, rfl⟩)) hm hk

omit [DecidableEq κ] in
lemma unlocked_insertLocks {r : ρ} {n : ν} (h : Unlocked (t.insertLocks r ++ held) n) : t.row (key r) ≠ n :=
  h ⟨t.row (key r), .update⟩ (by simp [insertLocks]) (by simp [Lock.exclusive])

lemma seen_eq_false {p : ρ → Bool} {db : σ} {r : ρ} (h : key r ∉ (t.matching p db).map key) :
    t.seen p db r = false := by simpa [seen] using fun _ => by simpa using h

lemma seen_imp {p : ρ → Bool} {db : σ} (r : ρ) (h : t.seen p db r = true) : p r = true := by
  simp only [seen, Bool.and_eq_true] at h
  exact h.1

lemma Shields.insert (hs : t.Shields cell extra) {r : ρ} {base : σ} {n : ν}
    (hn : Unlocked (t.insertLocks r ++ held) n)
    (hx : extra n ((t.get base).insert r) = extra n (t.get base)) :
    cell n (t.put base ((t.get base).insert r)) = cell n base :=
  hs n base _ (fun _ hk => Table.find?_insert_of_ne fun he => unlocked_insertLocks hn (he ▸ hk)) hx

lemma Shields.insertInto (hs : t.Shields cell extra) {r : ρ}
    (hx : ∀ n u, Unlocked (t.insertLocks r ++ held) n → extra n (u.insert r) = extra n u) :
    (t.insertInto r : Program σ ν ε Unit).Guarded cell held := by
  intro v
  refine ⟨fun base n hn => hs.insert hn (hx n _ hn), ?_⟩
  dsimp only
  cases t.broken v.rows r <;> trivial

lemma Shields.insertOrIgnore (hs : t.Shields cell extra) {r : ρ}
    (hx : ∀ n u, Unlocked (t.insertLocks r ++ held) n → extra n (u.insert r) = extra n u) :
    (t.insertOrIgnore r : Program σ ν ε Unit).Guarded cell held := by
  intro v
  cases hf : (t.get v.rows).find? (key r) with
  | some s => exact ⟨fun _ _ _ => by simp only [hf], by simp only [hf]; trivial⟩
  | none =>
    refine ⟨fun base n hn => ?_, ?_⟩
    · simp only [hf]
      exact hs.insert hn (hx n _ hn)
    · simp only [hf]
      cases t.broken v.rows r <;> trivial

lemma Shields.insertUnless (hs : t.Shields cell extra) {conflicts : ρ → Bool} {r : ρ}
    (hx : ∀ n u, Unlocked (t.insertLocks r ++ held) n → extra n (u.insert r) = extra n u) :
    (t.insertUnless conflicts r : Program σ ν ε Unit).Guarded cell held := by
  intro v
  by_cases he : (t.matching conflicts v.rows).isEmpty = true
  · simp only [he, if_true]
    refine ⟨fun base n hn => hs.insert hn (hx n _ hn), ?_⟩
    cases t.broken v.rows r <;> trivial
  · simp only [he]
    exact ⟨fun _ _ _ => rfl, trivial⟩

lemma Shields.update_locked (hs : t.Shields cell extra) {p : ρ → Bool} {f : ρ → ρ} {hf : ∀ r, key (f r) = key r}
    {db base : σ} {n : ν} (hn : Unlocked (t.rowLocks .noKeyUpdate (t.matching p db) ++ held) n)
    (hx : extra n ((t.get base).update (t.seen p db) f hf) = extra n (t.get base)) :
    cell n (t.put base ((t.get base).update (t.seen p db) f hf)) = cell n base := by
  refine hs n base _ (fun k hk => ?_) hx
  rw [Table.find?_update]
  cases hfind : (t.get base).find? k with
  | none => rfl
  | some r =>
    obtain ⟨-, rfl⟩ := Table.find?_eq_some.mp hfind
    simp [seen_eq_false (unlocked_rowLocks (by decide) hn hk)]

lemma Shields.upsert (hs : t.Shields cell extra) {conflicts : ρ → Bool} {f : ρ → ρ} {hf : ∀ r, key (f r) = key r}
    {r : ρ} (hinsert : ∀ n u, Unlocked (t.insertLocks r ++ held) n → extra n (u.insert r) = extra n u)
    (hupdate : ∀ n u q, (∀ r, q r = true → conflicts r = true) → extra n (Table.update u q f hf) = extra n u) :
    (t.upsert conflicts f hf r : Program σ ν ε Unit).Guarded cell held := by
  intro v
  by_cases he : (t.matching conflicts v.rows).isEmpty = true
  · simp only [he, if_true]
    refine ⟨fun base n hn => hs.insert hn (hinsert n _ hn), ?_⟩
    cases t.broken v.rows r <;> trivial
  · simp only [he]
    refine ⟨fun base n hn => hs.update_locked hn (hupdate n _ _ seen_imp), ?_⟩
    cases ((t.matching conflicts v.rows).map f).findSome? t.check <;> trivial

lemma Shields.updateTable_bind (hs : t.Shields cell extra) {p : ρ → Bool} {f : ρ → ρ}
    {hf : ∀ r, key (f r) = key r}
    (hx : ∀ n u q, (∀ r, q r = true → p r = true) → extra n (Table.update u q f hf) = extra n u)
    {next : List ρ → Program σ ν ε β}
    (hnext : ∀ db, (next ((t.matching p db).map f)).Guarded cell
      (t.rowLocks .noKeyUpdate (t.matching p db) ++ held)) :
    (t.updateTable p f hf >>= next).Guarded cell held := by
  intro v
  refine ⟨fun base n hn => hs.update_locked hn (hx _ _ _ seen_imp), ?_⟩
  dsimp only
  cases ((t.matching p v.rows).map f).findSome? t.check with
  | some name => trivial
  | none => exact hnext v.rows

lemma Shields.updateTable (hs : t.Shields cell extra) {p : ρ → Bool} {f : ρ → ρ} {hf : ∀ r, key (f r) = key r}
    (hx : ∀ n u q, (∀ r, q r = true → p r = true) → extra n (Table.update u q f hf) = extra n u) :
    (t.updateTable p f hf : Program σ ν ε _).Guarded cell held := by
  rw [← bind_pure (t.updateTable p f hf)]
  exact hs.updateTable_bind hx fun _ => trivial

omit [QueryError ε] in
lemma Shields.deleteFrom (hs : t.Shields cell extra) {p : ρ → Bool}
    (hx : ∀ n u q, Unlocked held n → (∀ r, q r = true → p r = true) → extra n (Table.delete u q) = extra n u) :
    (t.deleteFrom p : Program σ ν ε _).Guarded cell held := by
  intro v
  refine ⟨fun base n hn => hs n base _ (fun k hk => ?_)
    (hx _ _ _ (hn.mono (List.subset_append_right _ _)) seen_imp), trivial⟩
  refine Table.find?_delete_of_kept fun r _ hr => ?_
  subst hr
  exact seen_eq_false (unlocked_rowLocks (by decide) hn hk)

@[simp] lemma single_insertInto (r : ρ) : (t.insertInto r : Program σ ν ε Unit).Single := by
  intro v
  dsimp only
  cases t.broken v.rows r <;> trivial

@[simp] lemma single_insertOrIgnore (r : ρ) : (t.insertOrIgnore r : Program σ ν ε Unit).Single := by
  intro v
  dsimp only
  cases (t.get v.rows).find? (key r) with
  | some s => trivial
  | none =>
    dsimp only
    cases t.broken v.rows r <;> trivial

@[simp] lemma single_insertUnless (conflicts : ρ → Bool) (r : ρ) :
    (t.insertUnless conflicts r : Program σ ν ε Unit).Single := by
  intro v
  dsimp only
  split
  · cases t.broken v.rows r <;> trivial
  · trivial

@[simp] lemma single_upsert (conflicts : ρ → Bool) (f : ρ → ρ) (hf : ∀ r, key (f r) = key r) (r : ρ) :
    (t.upsert conflicts f hf r : Program σ ν ε Unit).Single := by
  intro v
  dsimp only
  split
  · cases t.broken v.rows r <;> trivial
  · cases ((t.matching conflicts v.rows).map f).findSome? t.check <;> trivial

@[simp] lemma single_updateTable (p : ρ → Bool) (f : ρ → ρ) (hf : ∀ r, key (f r) = key r) :
    (t.updateTable p f hf : Program σ ν ε _).Single := by
  intro v
  dsimp only
  cases ((t.matching p v.rows).map f).findSome? t.check <;> trivial

omit [QueryError ε] in
@[simp] lemma single_deleteFrom (p : ρ → Bool) : (t.deleteFrom p : Program σ ν ε _).Single := fun _ => trivial

lemma keeps_insertInto {r : ρ} (h : t.Inserts K r) :
    (t.insertInto r : Program σ ν ε Unit).Keeps K := by
  intro v
  refine ⟨h, ?_⟩
  dsimp only
  cases t.broken v.rows r <;> trivial

lemma keeps_insertOrIgnore (hK : ∀ db, K db db) {r : ρ} (h : t.Inserts K r) :
    (t.insertOrIgnore r : Program σ ν ε Unit).Keeps K := by
  intro v
  cases hf : (t.get v.rows).find? (key r) with
  | some s => exact ⟨fun _ => by simp only [hf]; exact hK _, by simp only [hf]; trivial⟩
  | none =>
    refine ⟨fun base => by simp only [hf]; exact h _, ?_⟩
    simp only [hf]
    cases t.broken v.rows r <;> trivial

lemma keeps_updateTable_where {p : ρ → Bool} {f : ρ → ρ} {hf : ∀ r, key (f r) = key r}
    (h : ∀ base q, (∀ r, q r = true → p r = true) → K base (t.put base ((t.get base).update q f hf))) :
    (t.updateTable p f hf : Program σ ν ε _).Keeps K := by
  intro v
  refine ⟨fun base => h base _ seen_imp, ?_⟩
  dsimp only
  cases ((t.matching p v.rows).map f).findSome? t.check <;> trivial

lemma keeps_updateTable {p : ρ → Bool} {f : ρ → ρ} {hf : ∀ r, key (f r) = key r}
    (h : t.Updates K f hf) :
    (t.updateTable p f hf : Program σ ν ε _).Keeps K := keeps_updateTable_where fun base q _ => h base q

omit [QueryError ε] in
lemma keeps_deleteFrom {p : ρ → Bool} (h : t.Deletes K) :
    (t.deleteFrom p : Program σ ν ε _).Keeps K :=
  fun _ => ⟨fun base => h base _, trivial⟩

end Writes

section Errors

variable {E : ε → Prop}

lemma raises_selectFrom (p : ρ → Bool) : (t.selectFrom p : Program σ ν ε _).Raises E := fun _ => trivial

lemma raises_selectFirst (p : ρ → Bool) : (t.selectFirst p : Program σ ν ε _).Raises E := fun _ => trivial

variable [QueryError ε]

lemma raises_orThrow (hE : E QueryError.noResult) (a : Option α) : (orThrow a : Program σ ν ε α).Raises E := by
  cases a with
  | none => exact hE
  | some a => trivial

lemma raises_selectFirstOrThrow (hE : E QueryError.noResult) (p : ρ → Bool) :
    (t.selectFirstOrThrow p : Program σ ν ε ρ).Raises E :=
  (t.raises_selectFirst p).bind fun _ => raises_orThrow hE _

variable [DecidableEq κ] {t}

lemma raises_insertInto {r : ρ} (hE : ∀ db name, t.broken db r = some name → E (QueryError.constraint name)) :
    (t.insertInto r : Program σ ν ε Unit).Raises E := by
  intro v
  dsimp only
  cases hb : t.broken v.rows r with
  | none => trivial
  | some name => exact hE _ name hb

lemma raises_insertOrIgnore {r : ρ} (hE : ∀ db name, t.broken db r = some name → E (QueryError.constraint name)) :
    (t.insertOrIgnore r : Program σ ν ε Unit).Raises E := by
  intro v
  dsimp only
  cases (t.get v.rows).find? (key r) with
  | some s => trivial
  | none =>
    dsimp only
    cases hb : t.broken v.rows r with
    | none => trivial
    | some name => exact hE _ name hb

lemma raises_updateTable {p : ρ → Bool} {f : ρ → ρ} {hf : ∀ r, key (f r) = key r}
    (hc : ∀ r, t.check (f r) = none) :
    (t.updateTable p f hf : Program σ ν ε _).Raises E := by
  intro v
  have hnone : ((t.matching p v.rows).map f).findSome? t.check = none := by simp [hc]
  simp only [hnone]
  trivial

omit [QueryError ε] in
lemma raises_deleteFrom (p : ρ → Bool) : (t.deleteFrom p : Program σ ν ε _).Raises E := fun _ => trivial

end Errors

end Relation

end ChatCore.Relational
