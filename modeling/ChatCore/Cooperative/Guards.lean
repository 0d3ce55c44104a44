import ChatCore.Cooperative.Owners
import Mathlib.Order.WellFounded

/-! Programs that keep a state still: from some moment on they make none of the guarded requests, as long as they
get no reply that is excluded. -/

namespace ChatCore.Cooperative

variable {σ ε κ ι α β : Type} {reply : ι → Type}

/-- How the state may change, which states are still, which requests are guarded, and which jobs may begin in a
still state or in any. -/
structure Guard (σ κ ι : Type) where
  Evolves : σ → σ → Prop
  refl : ∀ s, Evolves s s
  trans : ∀ {s s' s''}, Evolves s s' → Evolves s' s'' → Evolves s s''
  Still : σ → Prop
  guarded : ι → Bool
  Begins : Bool → κ → σ → Prop
  begins_mono : ∀ {still job s s'}, Evolves s s' → Begins still job s → Begins still job s'

namespace Program

abbrev Excluded (σ ε κ : Type) {ι : Type} (reply : ι → Type) (α : Type) :=
  σ → (i : ι) → Except ε (reply i) → Program σ ε κ reply α → Prop

variable (G : Guard σ κ ι)

/-- The program obeys the guard: while `still`, it leaves the state still and makes no guarded request. It goes
on still with each reply that it gets in a still state and that is not excluded. -/
def Obeys (Bad : Excluded σ ε κ reply α) (Q : Bool → α → σ → Prop) (E : Bool → ε → σ → Prop) :
    Bool → Program σ ε κ reply α → σ → Prop
  | still, .pure a, s => Q still a s
  | still, .throw e, s => E still e s
  | still, .update write next, s => G.Evolves s (write s) ∧ (still = true → G.Still (write s)) ∧
      Obeys Bad Q E still (next (write s)) (write s)
  | still, .start job next, s => G.Begins still job s ∧ Obeys Bad Q E still next s
  | still, .await i next, s => (still = true → G.guarded i = false) ∧ ∀ still' r s', G.Evolves s s' →
      (still' = true → G.Still s' ∧ ¬ Bad s' i r (.await i next)) → Obeys Bad Q E still' (next r) s'

section Rules

variable {G} {Bad : Excluded σ ε κ reply α} {Q Q' : Bool → α → σ → Prop} {E E' : Bool → ε → σ → Prop}
  {still : Bool} {s : σ}

lemma Obeys.mono {p : Program σ ε κ reply α} (h : Obeys G Bad Q E still p s)
    (hQ : ∀ still a s, Q still a s → Q' still a s) (hE : ∀ still e s, E still e s → E' still e s) :
    Obeys G Bad Q' E' still p s := by
  induction p generalizing s still with
  | pure a => exact hQ _ _ _ h
  | throw e => exact hE _ _ _ h
  | update write next ih => exact ⟨h.1, h.2.1, ih _ h.2.2⟩
  | start job next ih => exact ⟨h.1, ih h.2⟩
  | await i next ih => exact ⟨h.1, fun still' r s' hs' hr => ih r (h.2 still' r s' hs' hr)⟩

lemma Obeys.bind {p : Program σ ε κ reply β} {f : β → Program σ ε κ reply α}
    (h : Obeys G (fun s i r q => Bad s i r (q >>= f)) (fun still b s => Obeys G Bad Q E still (f b) s)
      E still p s) :
    Obeys G Bad Q E still (p >>= f) s := by
  change Obeys G Bad Q E still (p.bind f) s
  induction p generalizing s still with
  | pure b => exact h
  | throw e => exact h
  | update write next ih => exact ⟨h.1, h.2.1, ih _ h.2.2⟩
  | start job next ih => exact ⟨h.1, ih h.2⟩
  | await i next ih => exact ⟨h.1, fun still' r s' hs' hr => ih r (h.2 still' r s' hs' hr)⟩

lemma Obeys.tryCatch {p : Program σ ε κ reply α} {handler : ε → Program σ ε κ reply α}
    (h : Obeys G (fun s i r q => Bad s i r (q.tryCatch handler)) Q
      (fun still e s => Obeys G Bad Q E still (handler e) s)
      still p s) : Obeys G Bad Q E still (p.tryCatch handler) s := by
  induction p generalizing s still with
  | pure a => exact h
  | throw e => exact h
  | update write next ih => exact ⟨h.1, h.2.1, ih _ h.2.2⟩
  | start job next ih => exact ⟨h.1, ih h.2⟩
  | await i next ih => exact ⟨h.1, fun still' r s' hs' hr => ih r (h.2 still' r s' hs' hr)⟩

end Rules

section Advance

variable {G} {Bad : Excluded σ ε κ reply α} {still : Bool} {s s' : σ}

variable (G Bad) in
def Armed (p : Program σ ε κ reply α) (s : σ) : Prop := match p with
  | .await i next => ∀ still r s', G.Evolves s s' → (still = true → G.Still s' ∧ ¬ Bad s' i r (.await i next)) →
      Obeys G Bad (fun _ _ _ => True) (fun _ _ _ => True) still (next r) s'
  | _ => True

lemma Armed.mono {p : Program σ ε κ reply α} (h : Armed G Bad p s) (hs : G.Evolves s s') : Armed G Bad p s' := by
  cases p with
  | await i next => exact fun still r s'' hs' hr => h still r s'' (G.trans hs hs') hr
  | _ => trivial

def Unguarded (G : Guard σ κ ι) (p : Program σ ε κ reply α) : Prop := ∀ i, p.awaited = some i → G.guarded i = false

lemma Obeys.armed {Q : Bool → α → σ → Prop} {E : Bool → ε → σ → Prop} {p : Program σ ε κ reply α}
    (h : Obeys G Bad Q E still p s) : Armed G Bad p s ∧ (still = true → Unguarded G p) := by
  cases p with
  | await i next =>
    refine ⟨fun still' r s' hs' hr => (h.2 still' r s' hs' hr).mono (fun _ _ _ _ => trivial)
      fun _ _ _ _ => trivial,
      fun hstill j hj => ?_⟩
    cases hj
    exact h.1 hstill
  | _ => exact ⟨trivial, fun _ i hi => by cases hi⟩

lemma Obeys.advance {Q : Bool → α → σ → Prop} {E : Bool → ε → σ → Prop} {p : Program σ ε κ reply α}
    (h : Obeys G Bad Q E still p s) (hs : still = true → G.Still s) :
    G.Evolves s (p.advance s).1 ∧ (still = true → G.Still (p.advance s).1) ∧
      (∀ job ∈ (p.advance s).2.1, G.Begins still job (p.advance s).1) ∧
      Armed G Bad (p.advance s).2.2 (p.advance s).1 ∧ (still = true → Unguarded G (p.advance s).2.2) := by
  induction p generalizing s with
  | pure a => exact ⟨G.refl s, hs, fun job hj => absurd hj List.not_mem_nil, trivial, fun _ i hi => by cases hi⟩
  | throw e => exact ⟨G.refl s, hs, fun job hj => absurd hj List.not_mem_nil, trivial, fun _ i hi => by cases hi⟩
  | update write next ih =>
    obtain ⟨hwrite, hstill, hnext⟩ := h
    obtain ⟨hs', hrest⟩ := ih _ hnext hstill
    exact ⟨G.trans hwrite hs', hrest⟩
  | start job next ih =>
    obtain ⟨hbegins, hnext⟩ := h
    obtain ⟨hs', hstill, hjobs, hrest⟩ := ih hnext hs
    exact ⟨hs', hstill, List.forall_mem_cons.mpr ⟨G.begins_mono hs' hbegins, hjobs⟩, hrest⟩
  | await i next ih =>
    obtain ⟨harmed, hfree⟩ := h.armed
    exact ⟨G.refl s, hs, fun job hj => absurd hj List.not_mem_nil, harmed, hfree⟩

end Advance

section Progress

inductive Follows : Program σ ε κ reply α → Program σ ε κ reply α → Prop
  | update (write : σ → σ) (next : σ → Program σ ε κ reply α) (s : σ) : Follows (next s) (.update write next)
  | start (job : κ) (next : Program σ ε κ reply α) : Follows next (.start job next)
  | await (i : ι) (next : Except ε (reply i) → Program σ ε κ reply α) (r : Except ε (reply i)) :
      Follows (next r) (.await i next)

lemma follows_wellFounded : WellFounded (Follows : Program σ ε κ reply α → _ → Prop) := by
  refine ⟨fun p => ?_⟩
  induction p with
  | pure a => exact ⟨_, fun q h => by cases h⟩
  | throw e => exact ⟨_, fun q h => by cases h⟩
  | update write next ih => exact ⟨_, fun q h => by cases h; exact ih _⟩
  | start job next ih => exact ⟨_, fun q h => by cases h; exact ih⟩
  | await i next ih => exact ⟨_, fun q h => by cases h; exact ih _⟩

lemma advance_follows (p : Program σ ε κ reply α) (s : σ) : Relation.ReflTransGen Follows (p.advance s).2.2 p := by
  induction p generalizing s with
  | pure a => exact .refl
  | throw e => exact .refl
  | update write next ih => exact (ih _ _).tail (.update write next _)
  | start job next ih => exact (ih s).tail (.start job next)
  | await i next ih => exact .refl

lemma advance_ne {i : ι} {next : Except ε (reply i) → Program σ ε κ reply α} (r : Except ε (reply i)) (s : σ) :
    ((next r).advance s).2.2 ≠ .await i next := by
  intro h
  have hcycle : Relation.TransGen Follows ((next r).advance s).2.2 (.await i next) :=
    .tail' (advance_follows (next r) s) (.await i next r)
  rw [h] at hcycle
  exact follows_wellFounded.transGen.irrefl.irrefl _ hcycle

end Progress

end Program

namespace Traced

open Program

variable (G : Guard σ κ ι) (Bad : Excluded σ ε κ reply Unit)

def Steady (t : Traced σ ε κ reply) : Prop := ∀ task ∈ t.tasks, Armed G Bad task.2 t.state

def Silent (t t' : Traced σ ε κ reply) : Prop :=
  ∀ (n : ℕ) task, t'.tasks[n]? = some task → ¬ Unguarded G task.2 → t.tasks[n]? = some task

structure Passes (still : Bool) (t t' : Traced σ ε κ reply) : Prop where
  evolves : G.Evolves t.state t'.state
  stays : still = true → G.Still t'.state
  steady : Steady G Bad t'
  silent : still = true → Silent G t t'

variable {G Bad} {body : κ → Program σ ε κ reply Unit} {t t' t'' : Traced σ ε κ reply} {still : Bool}

lemma Passes.trans (h : Passes G Bad still t t') (h' : Passes G Bad still t' t'') : Passes G Bad still t t'' where
  evolves := G.trans h.evolves h'.evolves
  stays := h'.stays
  steady := h'.steady
  silent hstill n task hn hguarded := h.silent hstill n task (h'.silent hstill n task hn hguarded) hguarded

lemma silent_append {new : List (Option κ × Program σ ε κ reply Unit)} {s : σ}
    (h : ∀ task ∈ new, Unguarded G task.2) : Silent G t ⟨s, t.tasks ++ new⟩ := by
  intro n task hn hguarded
  rcases Nat.lt_or_ge n t.tasks.length with hlt | hge
  · exact (List.getElem?_append_left hlt).symm.trans hn
  · have hnew : (t.tasks ++ new)[n]? = new[n - t.tasks.length]? := List.getElem?_append_right hge
    exact absurd (h task (List.mem_of_getElem? (hnew.symm.trans hn))) hguarded

section Steps

variable (hbody : ∀ still job s, G.Begins still job s → (still = true → G.Still s) →
  Obeys G Bad (fun _ _ _ => True) (fun _ _ _ => True) still (body job) s)

include hbody

lemma passes_launch {job : κ} (h : Steady G Bad t) (hs : still = true → G.Still t.state)
    (hj : G.Begins still job t.state) : Passes G Bad still t (t.launch body job) := by
  obtain ⟨hevolves, hstays, hjobs, harmed, hfree⟩ := (hbody still job t.state hj hs).advance hs
  have hraw : ∀ job' ∈ ((body job).advance t.state).2.1, Armed G Bad (body job') ((body job).advance t.state).1 ∧
      (still = true → Unguarded G (body job')) := fun job' hm =>
    (hbody still job' _ (hjobs job' hm) hstays).armed
  refine ⟨hevolves, hstays, fun task hm => ?_, fun hstill => silent_append fun task hm => ?_⟩
  · rcases List.mem_append.mp hm with hm | hm
    · exact (h task hm).mono hevolves
    · rcases List.mem_cons.mp hm with rfl | hm
      · exact harmed
      · obtain ⟨job', hjob, rfl⟩ := List.mem_map.mp hm
        exact (hraw job' hjob).1
  · rcases List.mem_cons.mp hm with rfl | hm
    · exact hfree hstill
    · obtain ⟨job', hjob, rfl⟩ := List.mem_map.mp hm
      exact (hraw job' hjob).2 hstill

lemma passes_launchAll {jobs : List κ} (h : Steady G Bad t) (hs : still = true → G.Still t.state)
    (hj : ∀ job ∈ jobs, G.Begins still job t.state) : Passes G Bad still t (jobs.foldl (launch body) t) := by
  induction jobs generalizing t with
  | nil => exact ⟨G.refl _, hs, h, fun _ _ _ hn _ => hn⟩
  | cons job jobs ih =>
    obtain ⟨hjob, hjobs⟩ := List.forall_mem_cons.mp hj
    have hfirst := passes_launch hbody h hs hjob
    exact hfirst.trans (ih hfirst.steady hfirst.stays fun job' hm => G.begins_mono hfirst.evolves (hjobs job' hm))

lemma passes_invoke {program : Program σ ε κ reply Unit} (h : Steady G Bad t) (hs : still = true → G.Still t.state)
    (hp : Obeys G Bad (fun _ _ _ => True) (fun _ _ _ => True) still program t.state) :
    Passes G Bad still t (t.invoke body program) := by
  obtain ⟨hevolves, hstays, hjobs, harmed, hfree⟩ := hp.advance hs
  have hfirst : Passes G Bad still t
      ⟨(program.advance t.state).1, t.tasks ++ [(none, (program.advance t.state).2.2)]⟩ := by
    refine ⟨hevolves, hstays, fun task hm => ?_, fun hstill => silent_append fun task hm => ?_⟩
    · rcases List.mem_append.mp hm with hm | hm
      · exact (h task hm).mono hevolves
      · rw [List.mem_singleton.mp hm]
        exact harmed
    · rw [List.mem_singleton.mp hm]
      exact hfree hstill
  exact hfirst.trans (passes_launchAll hbody hfirst.steady hstays hjobs)

lemma passes_resume [DecidableEq ι] (h : Steady G Bad t) (task : ℕ) (request : ι)
    (answer : Except ε (reply request))
    (hs : still = true → G.Still t.state ∧ ∀ origin p, t.tasks[task]? = some (origin, p) →
      p.awaited = some request → ¬ Bad t.state request answer p) :
    Passes G Bad still t (t.resume body task request answer) := by
  unfold Traced.resume
  split
  case h_1 origin request' next htask =>
    split
    case isTrue he =>
      subst he
      have harmed := h _ (List.mem_of_getElem? htask)
      have hobeys := harmed still answer t.state (G.refl _) fun hstill =>
        ⟨(hs hstill).1, (hs hstill).2 origin _ htask rfl⟩
      obtain ⟨hevolves, hstays, hjobs, hnext, hfree⟩ := hobeys.advance fun hstill => (hs hstill).1
      have hfirst : Passes G Bad still t ⟨((next answer).advance t.state).1,
          t.tasks.set task (origin, ((next answer).advance t.state).2.2)⟩ := by
        refine ⟨hevolves, hstays, fun other hm => ?_, fun hstill n other hn hguarded => ?_⟩
        · rcases List.mem_or_eq_of_mem_set hm with hm | rfl
          · exact (h other hm).mono hevolves
          · exact hnext
        · have hset : (t.tasks.set task (origin, ((next answer).advance t.state).2.2))[n]? = some other := hn
          rw [List.getElem?_set] at hset
          split at hset
          · split at hset
            · cases hset
              exact absurd (hfree hstill) hguarded
            · cases hset
          · exact hset
      exact hfirst.trans (passes_launchAll hbody hfirst.steady hstays hjobs)
    case isFalse => exact ⟨G.refl _, fun hstill => (hs hstill).1, h, fun _ _ _ hn _ => hn⟩
  · exact ⟨G.refl _, fun hstill => (hs hstill).1, h, fun _ _ _ hn _ => hn⟩

end Steps

section Answers

lemma tasks_launchAll (jobs : List κ) {n : ℕ} (hn : n < t.tasks.length) :
    (jobs.foldl (launch body) t).tasks[n]? = t.tasks[n]? := by
  induction jobs generalizing t with
  | nil => rfl
  | cons job jobs ih =>
    have hlaunched : n < (t.launch body job).tasks.length := by
      change n < (t.tasks ++ _).length
      rw [List.length_append]
      exact Nat.lt_add_right _ hn
    rw [List.foldl_cons, ih hlaunched]
    exact List.getElem?_append_left hn

lemma Silent.answered [DecidableEq ι] {task : ℕ} {request : ι} {answer : Except ε (reply request)}
    (h : Silent G t (t.resume body task request answer))
    {before after : Option κ × Program σ ε κ reply Unit} (hbefore : t.tasks[task]? = some before)
    (hrequest : before.2.awaited = some request)
    (hafter : (t.resume body task request answer).tasks[task]? = some after) :
    Unguarded G after.2 := by
  obtain ⟨origin, p⟩ := before
  cases p with
  | await request' next =>
    cases hrequest
    by_contra hguarded
    have hsame := h task after hafter hguarded
    rw [hbefore, Option.some.injEq] at hsame
    obtain ⟨hlt, -⟩ := List.getElem?_eq_some_iff.mp hbefore
    have hnext : (t.resume body task request answer).tasks[task]? =
        some (origin, ((next answer).advance t.state).2.2) := by
      unfold Traced.resume
      rw [hbefore]
      dsimp only
      rw [dif_pos rfl]
      have hlength : task < (t.tasks.set task (origin, ((next answer).advance t.state).2.2)).length := by
        rwa [List.length_set]
      exact (tasks_launchAll _ hlength).trans (List.getElem?_set_self hlt)
    rw [hafter, Option.some.injEq] at hnext
    exact advance_ne answer t.state (congrArg Prod.snd (hnext.symm.trans hsame.symm))
  | _ => cases hrequest

end Answers

end Traced

end ChatCore.Cooperative
