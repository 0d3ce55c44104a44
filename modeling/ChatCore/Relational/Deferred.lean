import ChatCore.Relational.Statements

/-! A transaction that is alone with its database: constraints hold after every statement or, where
they are deferred, at the commit. -/

namespace ChatCore.Relational

variable {σ ε α β : Type}

structure Constraint (σ : Type) where
  name : String
  deferrable : Bool
  holds : σ → Bool

def Consistent (constraints : List (Constraint σ)) (db : σ) : Prop := ∀ c ∈ constraints, c.holds db = true

instance (constraints : List (Constraint σ)) (db : σ) : Decidable (Consistent constraints db) :=
  inferInstanceAs (Decidable (∀ c ∈ constraints, c.holds db = true))

def unique [DecidableEq α] (entries : List α) : Bool := decide entries.Nodup

def references [DecidableEq α] (children parents : List α) : Bool := children.all fun x => decide (x ∈ parents)

structure Open (σ : Type) where
  db : σ
  deferred : Bool

abbrev Statements (σ ε : Type) := StateT (Open σ) (Except ε)

variable [QueryError ε] (constraints : List (Constraint σ))

def violated (deferred : Bool) (db : σ) : Option (Constraint σ) :=
  constraints.find? fun c => !(c.deferrable && deferred) && !c.holds db

def enforce (deferred : Bool) (db : σ) : Except ε Unit := match violated constraints deferred db with
  | some c => .error (QueryError.constraint c.name)
  | none => .ok ()

def execute (f : σ → Except ε σ) : Statements σ ε Unit := fun t => do
  let db ← f t.db
  enforce constraints t.deferred db
  return ((), { t with db := db })

def Statements.select (f : σ → α) : Statements σ ε α := fun t => .ok (f t.db, t)

def deferConstraints : Statements σ ε Unit := fun t => .ok ((), { t with deferred := true })

def committed (body : Statements σ ε α) (db : σ) : Except ε (α × σ) := do
  let (a, t) ← body ⟨db, false⟩
  enforce constraints false t.db
  return (a, t.db)

def transact (body : Statements σ ε α) (db : σ) : Except ε α × σ := match committed constraints body db with
  | .ok (a, db') => (.ok a, db')
  | .error e => (.error e, db)

section Columns

variable [DecidableEq α] [DecidableEq β]

lemma unique_iff {l : List α} : unique l = true ↔ l.Nodup := decide_eq_true_iff

lemma references_iff {l m : List α} : references l m = true ↔ l ⊆ m := by
  simp [references, List.subset_def]

end Columns

section Rules

omit [QueryError ε] in
lemma bind_eq_ok {x : Except ε α} {f : α → Except ε β} {b : β} :
    x >>= f = .ok b ↔ ∃ a, x = .ok a ∧ f a = .ok b := by
  cases x with
  | error e =>
    refine iff_of_false (fun h => ?_) fun ⟨a, h, _⟩ => ?_
    · cases h
    · cases h
  | ok a =>
    constructor
    · exact fun h => ⟨a, rfl, h⟩
    · rintro ⟨b, hb, h⟩
      cases hb
      exact h

omit [QueryError ε] in
lemma pure_eq_ok {a b : α} : (pure a : Except ε α) = .ok b ↔ a = b :=
  ⟨fun h => by cases h; rfl, fun h => h ▸ rfl⟩

variable {constraints}

lemma enforce_ok {deferred : Bool} {db : σ} {u : Unit} : enforce (ε := ε) constraints deferred db = .ok u ↔
    ∀ c ∈ constraints, (c.deferrable && deferred) = false → c.holds db = true := by
  unfold enforce violated
  cases h : constraints.find? fun c => !(c.deferrable && deferred) && !c.holds db with
  | none =>
    refine iff_of_true rfl fun c hc hd => ?_
    have hn := List.find?_eq_none.mp h c hc
    simpa [hd] using hn
  | some c =>
    refine iff_of_false (fun he => by cases he) fun hall => ?_
    have hc := List.find?_some h
    simp only [Bool.and_eq_true, Bool.not_eq_true'] at hc
    rw [hall c (List.mem_of_find?_eq_some h) hc.1] at hc
    exact absurd hc.2 (by decide)

lemma enforce_all {db : σ} {u : Unit} :
    enforce (ε := ε) constraints false db = .ok u ↔ Consistent constraints db := by
  simp [enforce_ok, Consistent]

omit [QueryError ε] in
lemma statements_bind {x : Statements σ ε α} {k : α → Statements σ ε β} {t : Open σ} {r : β × Open σ} :
    (x >>= k) t = .ok r ↔ ∃ a t', x t = .ok (a, t') ∧ k a t' = .ok r := by
  change (do let (a, t') ← x t; k a t') = .ok r ↔ _
  rw [bind_eq_ok, Prod.exists]

lemma execute_ok {f : σ → Except ε σ} {t t' : Open σ} {u : Unit} : execute constraints f t = .ok (u, t') ↔
    ∃ db, f t.db = .ok db ∧ (∀ c ∈ constraints, (c.deferrable && t.deferred) = false → c.holds db = true) ∧
      t' = { t with db := db } := by
  unfold execute
  simp only [bind_eq_ok, pure_eq_ok, enforce_ok, Prod.mk.injEq]
  constructor
  · rintro ⟨db, hf, _, hc, -, rfl⟩
    exact ⟨db, hf, hc, rfl⟩
  · rintro ⟨db, hf, hc, rfl⟩
    exact ⟨db, hf, (), hc, trivial, rfl⟩

omit [QueryError ε] in
lemma select_ok {f : σ → α} {t t' : Open σ} {a : α} :
    (Statements.select f : Statements σ ε α) t = .ok (a, t') ↔ a = f t.db ∧ t' = t := by
  simp only [Statements.select, Except.ok.injEq, Prod.mk.injEq, eq_comm]

omit [QueryError ε] in
lemma deferConstraints_ok {t t' : Open σ} {u : Unit} :
    (deferConstraints : Statements σ ε Unit) t = .ok (u, t') ↔ t' = { t with deferred := true } := by
  simp only [deferConstraints, Except.ok.injEq, Prod.mk.injEq, true_and, eq_comm]

omit [QueryError ε] in
lemma statements_pure_ok {a b : α} {t t' : Open σ} :
    (pure a : Statements σ ε α) t = .ok (b, t') ↔ b = a ∧ t' = t := by
  change Except.ok (a, t) = .ok (b, t') ↔ _
  simp only [Except.ok.injEq, Prod.mk.injEq, eq_comm]

lemma committed_ok {body : Statements σ ε α} {db db' : σ} {a : α} : committed constraints body db = .ok (a, db') ↔
    ∃ t, body ⟨db, false⟩ = .ok (a, t) ∧ t.db = db' ∧ Consistent constraints db' := by
  unfold committed
  simp only [bind_eq_ok, pure_eq_ok, enforce_all, Prod.exists, Prod.mk.injEq]
  constructor
  · rintro ⟨b, t, hb, _, hc, rfl, rfl⟩
    exact ⟨t, hb, rfl, hc⟩
  · rintro ⟨t, hb, rfl, hc⟩
    exact ⟨a, t, hb, (), hc, rfl, rfl⟩

lemma transact_ok {body : Statements σ ε α} {db db' : σ} {a : α} : transact constraints body db = (.ok a, db') ↔
    ∃ t, body ⟨db, false⟩ = .ok (a, t) ∧ t.db = db' ∧ Consistent constraints db' := by
  rw [← committed_ok, transact]
  cases committed constraints body db with
  | error e => simp
  | ok r => simp [Prod.ext_iff]

lemma transact_error {body : Statements σ ε α} {db db' : σ} {e : ε}
    (h : transact constraints body db = (.error e, db')) :
    db' = db := by
  rw [transact] at h
  split at h
  · cases h
  · cases h
    rfl

end Rules

end ChatCore.Relational
