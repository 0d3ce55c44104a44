import ChatCore.Relational.Program

/-! The statements of a database program over a relation of the stored rows. -/

namespace ChatCore.Relational

/-- The errors that the database itself raises. -/
class QueryError (ε : Type) where
  constraint : String → ε
  noResult : ε

/-- A table of the rows `σ` with its constraints: `entries` are the unique index entries of a
row besides its primary key, `parents` the rows that its foreign keys refer to. -/
structure Relation (σ ν : Type) {ρ κ : Type} (key : ρ → κ) where
  get : σ → Table key
  put : σ → Table key → σ
  row : κ → ν
  entries : ρ → List ν
  parents : ρ → List ν
  primaryKey : String
  check : ρ → Option String
  violation : σ → ρ → Option String

/-- How the database happens to order the rows that a query leaves unordered. -/
structure Arrangement (ρ : Type) where
  arrange : List ρ → List ρ
  perm : ∀ rows, (arrange rows).Perm rows

def Arrangement.sorted {ρ : Type} (order : Arrangement ρ) (le : ρ → ρ → Bool) (rows : List ρ) : List ρ :=
  (order.arrange rows).mergeSort le

lemma Arrangement.mem_sorted {ρ : Type} {order : Arrangement ρ} {le : ρ → ρ → Bool} {rows : List ρ} {r : ρ} :
    r ∈ order.sorted le rows ↔ r ∈ rows := by
  rw [sorted, List.mem_mergeSort, (order.perm rows).mem_iff]

namespace Relation

open Program

variable {σ ν ε ρ κ : Type} {key : ρ → κ} (t : Relation σ ν key)

def matching (p : ρ → Bool) (db : σ) : List ρ := (t.get db).rows.filter p

def rowLocks (mode : LockMode) (rows : List ρ) : List (Lock ν) := rows.map (fun r => ⟨t.row (key r), mode⟩)

def insertLocks (r : ρ) : List (Lock ν) :=
  ⟨t.row (key r), .update⟩ ::
    ((t.entries r).map (fun n => ⟨n, .update⟩) ++ (t.parents r).map (fun n => ⟨n, .keyShare⟩))

def selectFrom (p : ρ → Bool) : Program σ ν ε (List ρ) := select (t.matching p)

def selectFirst (p : ρ → Bool) : Program σ ν ε (Option ρ) := select (fun db => (t.matching p db).head?)

def forUpdate (p : ρ → Bool) : Program σ ν ε (List ρ) :=
  .statement (fun v => t.rowLocks .update (t.matching p v.rows)) (fun _ base => base)
    (fun v => .pure (t.matching p v.rows))

def skipLocked (p : ρ → Bool) : Program σ ν ε (List ρ) :=
  .statement (fun v => t.rowLocks .update (free v)) (fun _ base => base) (fun v => .pure (free v))
where
  free (v : View σ ν) : List ρ :=
    (t.matching p v.rows).filter (fun r => !v.busy ⟨t.row (key r), .update⟩)

variable [QueryError ε]

def orThrow {α : Type} : Option α → Program σ ν ε α
  | some a => .pure a
  | none => .throw QueryError.noResult

def selectFirstOrThrow (p : ρ → Bool) : Program σ ν ε ρ := do
  orThrow (← t.selectFirst p)

variable [DecidableEq κ]

def seen (p : ρ → Bool) (db : σ) (r : ρ) : Bool := p r && decide (key r ∈ (t.matching p db).map key)

omit [QueryError ε] in
lemma seen_of_mem {p : ρ → Bool} {db : σ} {r : ρ} (hr : r ∈ t.get db) : t.seen p db r = p r := by
  cases hp : p r with
  | false => simp [seen, hp]
  | true => simpa [seen, hp] using ⟨r, List.mem_filter.mpr ⟨hr, hp⟩, rfl⟩

omit [QueryError ε] in
lemma seen_of_keys {p : ρ → Bool} {db : σ} (h : ∀ r, p r = true → ∃ s ∈ t.matching p db, key s = key r) (r : ρ) :
    t.seen p db r = p r := by
  cases hp : p r with
  | false => simp [seen, hp]
  | true => simpa [seen, hp] using h r hp

def broken (db : σ) (r : ρ) : Option String :=
  (t.check r).or ((((t.get db).find? (key r)).map (fun _ => t.primaryKey)).or (t.violation db r))

omit [QueryError ε] in
lemma broken_eq_none {db : σ} {r : ρ} : t.broken db r = none ↔
    t.check r = none ∧ (t.get db).find? (key r) = none ∧ t.violation db r = none := by
  simp [broken]

def insertInto (r : ρ) : Program σ ν ε Unit :=
  .statement (fun _ => t.insertLocks r) (fun _ base => t.put base ((t.get base).insert r))
    (fun v => match t.broken v.rows r with
      | some name => .throw (QueryError.constraint name)
      | none => .pure ())

def insertOrIgnore (r : ρ) : Program σ ν ε Unit :=
  .statement (fun _ => t.insertLocks r)
    (fun v base => match (t.get v.rows).find? (key r) with
      | some _ => base
      | none => t.put base ((t.get base).insert r))
    (fun v => match (t.get v.rows).find? (key r) with
      | some _ => .pure ()
      | none => match t.broken v.rows r with
        | some name => .throw (QueryError.constraint name)
        | none => .pure ())

/-- `ON CONFLICT (columns) DO NOTHING`, where `conflicts` picks the rows with the same values in these columns. -/
def insertUnless (conflicts : ρ → Bool) (r : ρ) : Program σ ν ε Unit :=
  .statement (fun v => if (t.matching conflicts v.rows).isEmpty then t.insertLocks r else [])
    (fun v base => if (t.matching conflicts v.rows).isEmpty then t.put base ((t.get base).insert r) else base)
    (fun v => if (t.matching conflicts v.rows).isEmpty then
        match t.broken v.rows r with
        | some name => .throw (QueryError.constraint name)
        | none => .pure ()
      else .pure ())

def upsert (conflicts : ρ → Bool) (f : ρ → ρ) (hf : ∀ r, key (f r) = key r) (r : ρ) : Program σ ν ε Unit :=
  .statement
    (fun v => if (t.matching conflicts v.rows).isEmpty then t.insertLocks r
      else t.rowLocks .noKeyUpdate (t.matching conflicts v.rows))
    (fun v base => if (t.matching conflicts v.rows).isEmpty then t.put base ((t.get base).insert r)
      else t.put base ((t.get base).update (t.seen conflicts v.rows) f hf))
    (fun v => if (t.matching conflicts v.rows).isEmpty then
        match t.broken v.rows r with
        | some name => .throw (QueryError.constraint name)
        | none => .pure ()
      else match ((t.matching conflicts v.rows).map f).findSome? t.check with
        | some name => .throw (QueryError.constraint name)
        | none => .pure ())

def updateTable (p : ρ → Bool) (f : ρ → ρ) (hf : ∀ r, key (f r) = key r) :
    Program σ ν ε (List ρ) :=
  .statement (fun v => t.rowLocks .noKeyUpdate (t.matching p v.rows))
    (fun v base => t.put base ((t.get base).update (t.seen p v.rows) f hf))
    (fun v => match ((t.matching p v.rows).map f).findSome? t.check with
      | some name => .throw (QueryError.constraint name)
      | none => .pure ((t.matching p v.rows).map f))

def deleteFrom (p : ρ → Bool) : Program σ ν ε (List ρ) :=
  .statement (fun v => t.rowLocks .update (t.matching p v.rows))
    (fun v base => t.put base ((t.get base).delete (t.seen p v.rows)))
    (fun v => .pure (t.matching p v.rows))

section Alone

variable (p : ρ → Bool) (f : ρ → ρ) (hf : ∀ r, key (f r) = key r) (r : ρ) (c v : σ)

omit [QueryError ε] [DecidableEq κ] in
@[simp] lemma exec_selectFrom : (t.selectFrom p : Program σ ν ε _).exec c v = (.ok (t.matching p v), c, v) := rfl

omit [QueryError ε] [DecidableEq κ] in
@[simp] lemma exec_selectFirst :
    (t.selectFirst p : Program σ ν ε _).exec c v = (.ok (t.matching p v).head?, c, v) := rfl

omit [QueryError ε] [DecidableEq κ] in
@[simp] lemma exec_forUpdate : (t.forUpdate p : Program σ ν ε _).exec c v = (.ok (t.matching p v), c, v) := rfl

omit [QueryError ε] [DecidableEq κ] in
@[simp] lemma exec_skipLocked :
    (t.skipLocked p : Program σ ν ε _).exec c v = (.ok (t.matching p v), c, v) := by
  simp [skipLocked, exec, skipLocked.free]

omit [DecidableEq κ] in
@[simp] lemma exec_orThrow {α : Type} (a : Option α) :
    (orThrow a : Program σ ν ε α).exec c v = match a with
      | some a => (.ok a, c, v)
      | none => (.error QueryError.noResult, c, c) := by
  cases a <;> rfl

omit [DecidableEq κ] in
@[simp] lemma exec_selectFirstOrThrow :
    (t.selectFirstOrThrow p : Program σ ν ε ρ).exec c v = match (t.matching p v).head? with
      | some r => (.ok r, c, v)
      | none => (.error QueryError.noResult, c, c) := by
  simp only [selectFirstOrThrow, exec_bind, exec_selectFirst, exec_orThrow]

@[simp] lemma exec_insertInto :
    (t.insertInto r : Program σ ν ε Unit).exec c v = match t.broken v r with
      | some name => (.error (QueryError.constraint name), c, c)
      | none => (.ok (), c, t.put v ((t.get v).insert r)) := by
  simp only [insertInto, exec]
  cases t.broken v r <;> rfl

@[simp] lemma exec_insertOrIgnore :
    (t.insertOrIgnore r : Program σ ν ε Unit).exec c v = match (t.get v).find? (key r) with
      | some _ => (.ok (), c, v)
      | none => match t.broken v r with
        | some name => (.error (QueryError.constraint name), c, c)
        | none => (.ok (), c, t.put v ((t.get v).insert r)) := by
  simp only [insertOrIgnore, exec]
  cases (t.get v).find? (key r) with
  | some s => rfl
  | none => cases t.broken v r <;> rfl

omit [QueryError ε] in
@[simp] lemma exec_deleteFrom : (t.deleteFrom p : Program σ ν ε (List ρ)).exec c v =
    (.ok (t.matching p v), c, t.put v ((t.get v).delete p)) := by
  have hs : (t.get v).delete (t.seen p v) = (t.get v).delete p :=
    Table.delete_congr fun r hr => t.seen_of_mem hr
  simp only [deleteFrom, exec, hs]

@[simp] lemma exec_updateTable :
    (t.updateTable p f hf : Program σ ν ε (List ρ)).exec c v =
      match ((t.matching p v).map f).findSome? t.check with
      | some name => (.error (QueryError.constraint name), c, c)
      | none => (.ok ((t.matching p v).map f), c, t.put v ((t.get v).update p f hf)) := by
  have hs : (t.get v).update (t.seen p v) f hf = (t.get v).update p f hf :=
    Table.update_congr f hf fun r hr => t.seen_of_mem hr
  simp only [updateTable, exec, hs]
  cases ((t.matching p v).map f).findSome? t.check <;> rfl

end Alone

end Relation

end ChatCore.Relational
