import ChatCore.Relational.Table
import Mathlib.Data.List.Basic

/-! Database programs: sequences of statements, grouped into transactions by their commits. -/

namespace ChatCore.Relational

inductive LockMode
  | keyShare
  | noKeyUpdate
  | update
  deriving DecidableEq, Repr

def LockMode.conflicts : LockMode → LockMode → Bool
  | .keyShare, .update | .update, .keyShare => true
  | .keyShare, _ | _, .keyShare => false
  | _, _ => true

/-- A lock names what it protects; `mode` follows PostgreSQL's row-level lock modes. -/
structure Lock (ν : Type) where
  target : ν
  mode : LockMode
  deriving DecidableEq, Repr

def Lock.conflicts {ν : Type} [DecidableEq ν] (a b : Lock ν) : Bool :=
  decide (a.target = b.target) && a.mode.conflicts b.mode

def Lock.exclusive {ν : Type} (l : Lock ν) : Prop := l.mode ≠ .keyShare

lemma Lock.conflicts_comm {ν : Type} [DecidableEq ν] (a b : Lock ν) : a.conflicts b = b.conflicts a := by
  have hm : a.mode.conflicts b.mode = b.mode.conflicts a.mode := by cases a.mode <;> cases b.mode <;> rfl
  simp only [Lock.conflicts, hm, eq_comm]

lemma Lock.conflicts_of_exclusive {ν : Type} [DecidableEq ν] {a b : Lock ν} (ht : a.target = b.target)
    (ha : a.exclusive) (hb : b.exclusive) : a.conflicts b = true := by
  rcases a with ⟨t, m⟩
  rcases b with ⟨u, n⟩
  simp only [Lock.exclusive] at ha hb
  simp only at ht
  subst ht
  cases m <;> cases n <;> simp_all [Lock.conflicts, LockMode.conflicts]

structure View (σ ν : Type) where
  rows : σ
  busy : Lock ν → Bool

inductive Program (σ ν ε α : Type) : Type
  | pure (a : α)
  | throw (e : ε)
  | statement (locks : View σ ν → List (Lock ν)) (write : View σ ν → σ → σ)
      (next : View σ ν → Program σ ν ε α)
  | commit (next : Program σ ν ε α)

namespace Program

variable {σ ν ε α β : Type}

def bind : Program σ ν ε α → (α → Program σ ν ε β) → Program σ ν ε β
  | .pure a, f => f a
  | .throw e, _ => .throw e
  | .statement locks write next, f => .statement locks write (fun v => (next v).bind f)
  | .commit next, f => .commit (next.bind f)

instance : Monad (Program σ ν ε) where
  pure := .pure
  bind := bind

lemma bind_pure_right (p : Program σ ν ε α) : p.bind .pure = p := by
  induction p with
  | pure | throw => rfl
  | statement locks write next ih => simp only [bind, ih]
  | commit next ih => simp only [bind, ih]

lemma bind_assoc_right {γ : Type} (p : Program σ ν ε α) (f : α → Program σ ν ε β)
    (g : β → Program σ ν ε γ) : (p.bind f).bind g = p.bind (fun a => (f a).bind g) := by
  induction p with
  | pure | throw => rfl
  | statement locks write next ih => simp only [bind, ih]
  | commit next ih => simp only [bind, ih]

instance : LawfulMonad (Program σ ν ε) :=
  LawfulMonad.mk' _ bind_pure_right (fun _ _ => rfl) bind_assoc_right

def exec : Program σ ν ε α → σ → σ → Except ε α × σ × σ
  | .pure a, committed, view => (.ok a, committed, view)
  | .throw e, committed, _ => (.error e, committed, committed)
  | .statement _ write next, committed, view =>
      (next ⟨view, fun _ => false⟩).exec committed (write ⟨view, fun _ => false⟩ view)
  | .commit next, _, view => next.exec view view

def run (p : Program σ ν ε α) (db : σ) : Except ε α × σ :=
  ((p.exec db db).1, (p.exec db db).2.2)

@[simp] lemma exec_pure (a : α) (c v : σ) :
    (Pure.pure a : Program σ ν ε α).exec c v = (.ok a, c, v) := rfl

@[simp] lemma exec_throw (e : ε) (c v : σ) :
    (throw e : Program σ ν ε α).exec c v = (.error e, c, c) := rfl

@[simp] lemma throw_bind (e : ε) (f : α → Program σ ν ε β) :
    (throw e : Program σ ν ε α) >>= f = throw e := rfl

lemma exec_bind (p : Program σ ν ε α) (f : α → Program σ ν ε β) (c v : σ) :
    (p >>= f).exec c v = match p.exec c v with
      | (.ok a, c', v') => (f a).exec c' v'
      | (.error e, c', v') => (.error e, c', v') := by
  change (p.bind f).exec c v = _
  induction p generalizing c v with
  | pure | throw => rfl
  | statement locks write next ih => simp only [bind, exec, ih]
  | commit next ih => simp only [bind, exec, ih]

def commitNow : Program σ ν ε Unit := .commit (.pure ())

def select (query : σ → α) : Program σ ν ε α :=
  .statement (fun _ => []) (fun _ base => base) (fun v => .pure (query v.rows))

def lock (locks : σ → List (Lock ν)) : Program σ ν ε Unit :=
  .statement (fun v => locks v.rows) (fun _ base => base) (fun _ => .pure ())

def transaction (p : Program σ ν ε α) : Program σ ν ε α := do
  let a ← p
  commitNow
  return a

@[simp] lemma exec_select (q : σ → α) (c v : σ) :
    (select q : Program σ ν ε α).exec c v = (.ok (q v), c, v) := rfl

@[simp] lemma exec_lock (locks : σ → List (Lock ν)) (c v : σ) :
    (lock locks : Program σ ν ε Unit).exec c v = (.ok (), c, v) := rfl

@[simp] lemma exec_commitNow (c v : σ) :
    (commitNow : Program σ ν ε Unit).exec c v = (.ok (), v, v) := rfl

end Program

end ChatCore.Relational
