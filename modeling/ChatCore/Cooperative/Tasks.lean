import Mathlib.Data.Nat.Notation
import Mathlib.Tactic.Lemma

/-! Cooperative programs: they share a state on one thread, and others run only while one awaits a reply. -/

namespace ChatCore.Cooperative

/-- `start` begins a job of which the program does not await the end. -/
inductive Program (σ ε κ : Type) {ι : Type} (reply : ι → Type) (α : Type) : Type
  | pure (a : α)
  | throw (e : ε)
  | update (write : σ → σ) (next : σ → Program σ ε κ reply α)
  | start (job : κ) (next : Program σ ε κ reply α)
  | await (request : ι) (next : Except ε (reply request) → Program σ ε κ reply α)

namespace Program

variable {σ ε κ ι α β : Type} {reply : ι → Type}

def bind : Program σ ε κ reply α → (α → Program σ ε κ reply β) → Program σ ε κ reply β
  | .pure a, f => f a
  | .throw e, _ => .throw e
  | .update write next, f => .update write fun s => (next s).bind f
  | .start job next, f => .start job (next.bind f)
  | .await request next, f => .await request fun r => (next r).bind f

instance : Monad (Program σ ε κ reply) where
  pure := .pure
  bind := bind

def tryCatch : Program σ ε κ reply α → (ε → Program σ ε κ reply α) → Program σ ε κ reply α
  | .pure a, _ => .pure a
  | .throw e, handler => handler e
  | .update write next, handler => .update write fun s => (next s).tryCatch handler
  | .start job next, handler => .start job (next.tryCatch handler)
  | .await request next, handler => .await request fun r => (next r).tryCatch handler

instance : MonadExceptOf ε (Program σ ε κ reply) where
  throw := .throw
  tryCatch := tryCatch

def get : Program σ ε κ reply σ := .update id .pure

def modify (write : σ → σ) : Program σ ε κ reply Unit := .update write fun _ => .pure ()

def fork (job : κ) : Program σ ε κ reply Unit := .start job (.pure ())

def call (request : ι) : Program σ ε κ reply (reply request) := .await request fun
  | .ok a => .pure a
  | .error e => .throw e

def andFinally (p : Program σ ε κ reply α) (cleanup : Program σ ε κ reply Unit) : Program σ ε κ reply α := do
  let a ← tryCatch p fun e => do
    cleanup
    throw e
  cleanup
  return a

def pause (request : ι) : Program σ ε κ reply Unit := .await request fun _ => .pure ()

/-- `await` of a call: what follows its end has to wait for its turn. -/
def settle (turn : ι) (p : Program σ ε κ reply α) : Program σ ε κ reply α := p.andFinally (pause turn)

/-- The part of a program that runs before another may: the state after it, the jobs it starts and what is left. -/
def advance : Program σ ε κ reply α → σ → σ × List κ × Program σ ε κ reply α
  | .update write next, s => (next (write s)).advance (write s)
  | .start job next, s =>
      let (s', jobs, rest) := next.advance s
      (s', job :: jobs, rest)
  | p, s => (s, [], p)

def awaited : Program σ ε κ reply α → Option ι
  | .await request _ => some request
  | _ => none

end Program

/-- The tasks that programs became, in the order they began, with the jobs that they began as, if they did. -/
structure Traced (σ ε κ : Type) {ι : Type} (reply : ι → Type) where
  state : σ
  tasks : List (Option κ × Program σ ε κ reply Unit)

namespace Traced

variable {σ ε κ ι : Type} {reply : ι → Type} (body : κ → Program σ ε κ reply Unit)

def launch (t : Traced σ ε κ reply) (job : κ) : Traced σ ε κ reply :=
  let (state, jobs, rest) := (body job).advance t.state
  ⟨state, t.tasks ++ (some job, rest) :: jobs.map fun job => (some job, body job)⟩

def invoke (t : Traced σ ε κ reply) (program : Program σ ε κ reply Unit) : Traced σ ε κ reply :=
  let (state, jobs, rest) := program.advance t.state
  jobs.foldl (launch body) ⟨state, t.tasks ++ [(none, rest)]⟩

def resume [DecidableEq ι] (t : Traced σ ε κ reply) (task : ℕ) (request : ι) (answer : Except ε (reply request)) :
    Traced σ ε κ reply :=
  match t.tasks[task]? with
  | some (origin, .await request' next) =>
      if h : request = request' then
        let (state, jobs, rest) := (next (h ▸ answer)).advance t.state
        jobs.foldl (launch body) ⟨state, t.tasks.set task (origin, rest)⟩
      else t
  | _ => t

end Traced

end ChatCore.Cooperative
