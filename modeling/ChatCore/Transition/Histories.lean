import ChatCore.Transition.Steps
import Mathlib.Data.List.Induction

/-! What holds at every step of a run, of the actions before the step. -/

namespace ChatCore.Transition

variable {σ α : Type}

def Throughout (P : List α → α → Prop) (actions : List α) : Prop := Along (fun past a => past ++ [a]) P [] actions

variable {P Q : List α → α → Prop} {past future actions : List α} {a : α}

lemma throughout_snoc : Throughout P (past ++ [a]) ↔ Throughout P past ∧ P past a := by
  have hpast : ∀ earlier : List α, exec (fun past a => past ++ [a]) earlier past = earlier ++ past := by
    induction past with
    | nil => exact fun earlier => (List.append_nil earlier).symm
    | cons b past ih =>
      intro earlier
      rw [exec_cons, ih, List.append_assoc, List.singleton_append]
  rw [Throughout, along_append, hpast, List.nil_append]
  exact and_congr Iff.rfl ⟨fun h => h.1, fun h => ⟨h, trivial⟩⟩

lemma throughout_at (h : Throughout P (past ++ a :: future)) : Throughout P past ∧ P past a := by
  induction future using List.reverseRecOn with
  | nil => exact throughout_snoc.mp h
  | append_singleton future a' ih =>
    rw [← List.cons_append, ← List.append_assoc] at h
    exact ih (throughout_snoc.mp h).1

lemma throughout_mono (h : Throughout P actions)
    (hPQ : ∀ past a future, actions = past ++ a :: future → Throughout P past → P past a → Q past a) :
    Throughout Q actions := by
  induction actions using List.reverseRecOn with
  | nil => trivial
  | append_singleton actions a ih =>
    obtain ⟨h, ha⟩ := throughout_snoc.mp h
    refine throughout_snoc.mpr
      ⟨ih h fun past a' future hactions => hPQ past a' (future ++ [a]) ?_, hPQ actions a [] rfl h ha⟩
    rw [hactions, List.append_assoc, List.cons_append]

lemma throughout_of_along {step : σ → α → σ} {R : σ → α → Prop} {s : σ} (h : Along step R s actions) :
    Throughout (fun past a => R (exec step s past) a) actions := by
  induction actions using List.reverseRecOn with
  | nil => trivial
  | append_singleton actions a ih =>
    obtain ⟨h, ha⟩ := along_append.mp h
    exact throughout_snoc.mpr ⟨ih h, ha.1⟩

end ChatCore.Transition
