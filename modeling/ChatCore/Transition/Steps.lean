import Mathlib.Data.List.Basic
import Mathlib.Tactic.Lemma

/-! Runs of a deterministic step function: what holds at every step, and what the steps keep. -/

namespace ChatCore.Transition

variable {σ α : Type} (step : σ → α → σ)

def exec (s : σ) (actions : List α) : σ := actions.foldl step s

/-- `P` holds of each step of the run, of the state before it and the action. -/
def Along (P : σ → α → Prop) : σ → List α → Prop
  | _, [] => True
  | s, a :: actions => P s a ∧ Along P (step s a) actions

def Once (P : σ → α → Prop) : σ → List α → Prop
  | _, [] => False
  | s, a :: actions => P s a ∨ Once P (step s a) actions

instance along_decidable {P : σ → α → Prop} [∀ s a, Decidable (P s a)] :
    (s : σ) → (actions : List α) → Decidable (Along step P s actions)
  | _, [] => .isTrue trivial
  | s, a :: actions => @instDecidableAnd _ _ _ (along_decidable (step s a) actions)

variable {step}

@[simp] lemma exec_nil (s : σ) : exec step s [] = s := rfl

@[simp] lemma exec_cons (s : σ) (a : α) (actions : List α) :
    exec step s (a :: actions) = exec step (step s a) actions := rfl

lemma exec_append (s : σ) (actions actions' : List α) :
    exec step s (actions ++ actions') = exec step (exec step s actions) actions' := List.foldl_append

variable {P Q : σ → α → Prop} {inv : σ → Prop} {s : σ} {actions : List α}

@[simp] lemma along_nil : Along step P s [] := trivial

lemma along_append {actions' : List α} :
    Along step P s (actions ++ actions') ↔ Along step P s actions ∧
      Along step P (exec step s actions) actions' := by
  induction actions generalizing s with
  | nil => simp [Along]
  | cons a actions ih => simp [Along, ih, and_assoc]

lemma once_append {actions' : List α} :
    Once step P s (actions ++ actions') ↔ Once step P s actions ∨ Once step P (exec step s actions) actions' := by
  induction actions generalizing s with
  | nil => simp [Once]
  | cons a actions ih => simp [Once, ih, or_assoc]

lemma once_snoc {a : α} : Once step P s (actions ++ [a]) ↔ Once step P s actions ∨ P (exec step s actions) a := by
  simp [once_append, Once]

lemma along_true : Along step (fun _ _ => True) s actions := by
  induction actions generalizing s with
  | nil => trivial
  | cons a actions ih => exact ⟨trivial, ih⟩

lemma along_of_forall {R : α → Prop} (h : ∀ a ∈ actions, R a) : Along step (fun _ a => R a) s actions := by
  induction actions generalizing s with
  | nil => trivial
  | cons a actions ih =>
    obtain ⟨ha, hrest⟩ := List.forall_mem_cons.mp h
    exact ⟨ha, ih hrest⟩

lemma Along.mono (hP : Along step P s actions) (h : ∀ s a, P s a → Q s a) : Along step Q s actions := by
  induction actions generalizing s with
  | nil => trivial
  | cons a actions ih => exact ⟨h s a hP.1, ih hP.2⟩

lemma Along.and (hP : Along step P s actions) (hQ : Along step Q s actions) :
    Along step (fun s a => P s a ∧ Q s a) s actions := by
  induction actions generalizing s with
  | nil => trivial
  | cons a actions ih => exact ⟨⟨hP.1, hQ.1⟩, ih hP.2 hQ.2⟩

theorem Along.invariant (h : Along step P s actions) (inv : σ → Prop) (hs : inv s)
    (hstep : ∀ s a, inv s → P s a → inv (step s a)) : inv (exec step s actions) := by
  induction actions generalizing s with
  | nil => exact hs
  | cons a actions ih => exact ih h.2 (hstep s a hs h.1)

theorem Along.achieves (h : Along step P s actions) (hs : inv s)
    (hstep : ∀ s a, inv s → P s a → inv (step s a) ∧ Q s a) : Along step Q s actions := by
  induction actions generalizing s with
  | nil => trivial
  | cons a actions ih => exact ⟨(hstep s a hs h.1).2, ih h.2 (hstep s a hs h.1).1⟩

theorem invariant {inv : σ → Prop} (hs : inv s) (hstep : ∀ s a, inv s → inv (step s a)) (actions : List α) :
    inv (exec step s actions) := along_true.invariant inv hs fun s a h _ => hstep s a h

end ChatCore.Transition
