import ChatCore.Cooperative.Owners
import Mathlib.Logic.Relation

/-! Where the changes of a state come from: the replies that the program that makes them has got. -/

namespace ChatCore.Cooperative

variable {σ ε κ ι α β : Type} {reply : ι → Type}

abbrev Got (σ ε : Type) {ι : Type} (reply : ι → Type) := List (σ × Σ i, Except ε (reply i))

namespace Program

def Traces (W : Got σ ε reply → σ → σ → Prop) (Q : Got σ ε reply → σ → α → Prop)
    (E : Got σ ε reply → σ → ε → Prop) :
    Got σ ε reply → σ → Program σ ε κ reply α → Prop
  | got, s, .pure a => Q got s a
  | got, s, .throw e => E got s e
  | got, s, .update write next => W got s (write s) ∧ Traces W Q E got (write s) (next (write s))
  | got, s, .start _ next => Traces W Q E got s next
  | got, _, .await i next => ∀ r s, Traces W Q E ((s, ⟨i, r⟩) :: got) s (next r)

section Rules

variable {W : Got σ ε reply → σ → σ → Prop} {Q Q' : Got σ ε reply → σ → α → Prop}
  {E E' : Got σ ε reply → σ → ε → Prop} {got : Got σ ε reply} {s : σ}

lemma Traces.mono {p : Program σ ε κ reply α} (h : p.Traces W Q E got s)
    (hQ : ∀ got s a, Q got s a → Q' got s a) (hE : ∀ got s e, E got s e → E' got s e) :
    p.Traces W Q' E' got s := by
  induction p generalizing got s with
  | pure a => exact hQ _ _ _ h
  | throw e => exact hE _ _ _ h
  | update write next ih => exact ⟨h.1, ih _ h.2⟩
  | start job next ih => exact ih h
  | await i next ih => exact fun r s => ih r (h r s)

lemma Traces.grows {p : Program σ ε κ reply α} (h : p.Traces W Q E got s) {base : Got σ ε reply}
    (hbase : base ⊆ got) :
    p.Traces W (fun got s a => Q got s a ∧ base ⊆ got) E got s := by
  induction p generalizing got s with
  | pure a => exact ⟨h, hbase⟩
  | throw e => exact h
  | update write next ih => exact ⟨h.1, ih _ h.2 hbase⟩
  | start job next ih => exact ih h hbase
  | await i next ih => exact fun r s => ih r (h r s) (List.subset_cons_of_subset _ hbase)

lemma Traces.bind {p : Program σ ε κ reply β} {f : β → Program σ ε κ reply α}
    (h : p.Traces W (fun got s b => (f b).Traces W Q E got s) E got s) : (p >>= f).Traces W Q E got s := by
  change (p.bind f).Traces W Q E got s
  induction p generalizing got s with
  | pure b => exact h
  | throw e => exact h
  | update write next ih => exact ⟨h.1, ih _ h.2⟩
  | start job next ih => exact ih h
  | await i next ih => exact fun r s => ih r (h r s)

lemma Traces.tryCatch {p : Program σ ε κ reply α} {handler : ε → Program σ ε κ reply α}
    (h : p.Traces W Q (fun got s e => (handler e).Traces W Q E got s) got s) :
    (p.tryCatch handler).Traces W Q E got s := by
  induction p generalizing got s with
  | pure a => exact h
  | throw e => exact h
  | update write next ih => exact ⟨h.1, ih _ h.2⟩
  | start job next ih => exact ih h
  | await i next ih => exact fun r s => ih r (h r s)

variable (W) in
abbrev Tells (p : Program σ ε κ reply α) : Prop :=
  ∀ got s, p.Traces W (fun _ _ _ => True) (fun _ _ _ => True) got s

lemma Tells.traces {p : Program σ ε κ reply α} (h : Tells W p) (hQ : ∀ got s a, Q got s a)
    (hE : ∀ got s e, E got s e) :
    p.Traces W Q E got s := (h got s).mono (fun got s a _ => hQ got s a) fun got s e _ => hE got s e

lemma tells_pure (a : α) : Tells W (pure a : Program σ ε κ reply α) := fun _ _ => trivial

lemma tells_throw (e : ε) : Tells W (throw e : Program σ ε κ reply α) := fun _ _ => trivial

lemma Tells.bind {p : Program σ ε κ reply β} {f : β → Program σ ε κ reply α} (hp : Tells W p)
    (hf : ∀ b, Tells W (f b)) : Tells W (p >>= f) :=
  fun _ _ => Traces.bind (hp.traces (fun got s b => hf b got s) fun _ _ _ => trivial)

lemma Tells.tryCatch {p : Program σ ε κ reply α} {handler : ε → Program σ ε κ reply α} (hp : Tells W p)
    (hh : ∀ e, Tells W (handler e)) : Tells W (p.tryCatch handler) :=
  fun _ _ => Traces.tryCatch (hp.traces (fun _ _ _ => trivial) fun got s e => hh e got s)

lemma traces_call {request : ι} {Q : Got σ ε reply → σ → reply request → Prop}
    (h : ∀ s a, Q ((s, ⟨request, .ok a⟩) :: got) s a) (hE : ∀ got s e, E got s e) :
    (call request : Program σ ε κ reply _).Traces W Q E got s := by
  intro r s
  cases r with
  | error e => exact hE _ s e
  | ok a => exact h s a

lemma tells_call (request : ι) : Tells W (call request : Program σ ε κ reply _) := fun _ _ =>
  traces_call (fun _ _ => trivial) fun _ _ _ => trivial

lemma tells_modify {write : σ → σ} (h : ∀ got s, W got s (write s)) :
    Tells W (modify write : Program σ ε κ reply Unit) := fun got s => ⟨h got s, trivial⟩

lemma traces_modify_bind {write : σ → σ} {p : Program σ ε κ reply α} (h : W got s (write s))
    (hp : p.Traces W Q E got (write s)) : (modify write >>= fun _ => p).Traces W Q E got s := ⟨h, hp⟩

lemma tells_fork (job : κ) : Tells W (fork job : Program σ ε κ reply Unit) := fun _ _ => trivial

lemma traces_get (hid : ∀ got s, W got s s) {f : σ → Program σ ε κ reply α} (h : (f s).Traces W Q E got s) :
    (get >>= f).Traces W Q E got s := ⟨hid got s, h⟩

lemma tells_get (hid : ∀ got s, W got s s) {f : σ → Program σ ε κ reply α} (h : ∀ s, Tells W (f s)) :
    Tells W (get >>= f) := fun got s => traces_get hid (h s got s)

lemma Tells.andFinally {p : Program σ ε κ reply α} {cleanup : Program σ ε κ reply Unit} (hp : Tells W p)
    (hc : Tells W cleanup) : Tells W (p.andFinally cleanup) :=
  (hp.tryCatch fun e => hc.bind fun _ => tells_throw e).bind fun a => hc.bind fun _ => tells_pure a

lemma tells_pause (request : ι) : Tells W (pause request : Program σ ε κ reply Unit) := fun _ _ _ _ => trivial

lemma Tells.settle {p : Program σ ε κ reply α} (hp : Tells W p) (turn : ι) : Tells W (p.settle turn) :=
  hp.andFinally (tells_pause turn)

lemma Traces.settle {p : Program σ ε κ reply α} {turn : ι}
    (h : p.Traces W (fun got _ a => ∀ r s, Q ((s, ⟨turn, r⟩) :: got) s a)
      (fun got _ e => ∀ r s, E ((s, ⟨turn, r⟩) :: got) s e) got s) : (p.settle turn).Traces W Q E got s :=
  Traces.bind (Traces.tryCatch (h.mono (fun _ _ _ h => h) fun _ _ _ h => h))

lemma Tells.discard {p : Program σ ε κ reply α} (hp : Tells W p) : Tells W (discard p) := by
  change Tells W (p >>= _)
  exact hp.bind fun _ => tells_pure ()

end Rules

section Advance

variable (W : Got σ ε reply → σ → σ → Prop) (known : Got σ ε reply)

def Open (p : Program σ ε κ reply α) : Prop := match p with
  | .await i next => ∃ got, got ⊆ known ∧
      ∀ r s, (next r).Traces W (fun _ _ _ => True) (fun _ _ _ => True) ((s, ⟨i, r⟩) :: got) s
  | _ => True

variable {W known} {got : Got σ ε reply}

lemma Open.mono {known' : Got σ ε reply} (hknown : known ⊆ known') {p : Program σ ε κ reply α}
    (h : p.Open W known) : p.Open W known' := by
  cases p with
  | await i next =>
    obtain ⟨got, hgot, hnext⟩ := h
    exact ⟨got, List.Subset.trans hgot hknown, hnext⟩
  | _ => trivial

lemma Traces.open {p : Program σ ε κ reply α} {s : σ}
    (h : p.Traces W (fun _ _ _ => True) (fun _ _ _ => True) got s)
    (hgot : got ⊆ known) : p.Open W known := by
  cases p with
  | await i next => exact ⟨got, hgot, h⟩
  | _ => trivial

lemma Traces.advance {p : Program σ ε κ reply α} {s : σ}
    (h : p.Traces W (fun _ _ _ => True) (fun _ _ _ => True) got s) (hgot : got ⊆ known) :
    Relation.ReflTransGen (W got) s (p.advance s).1 ∧ (p.advance s).2.2.Open W known := by
  induction p generalizing s with
  | pure a => exact ⟨.refl, trivial⟩
  | throw e => exact ⟨.refl, trivial⟩
  | update write next ih =>
    obtain ⟨hchanges, hopen⟩ := ih _ h.2
    exact ⟨.head h.1 hchanges, hopen⟩
  | start job next ih => exact ih h
  | await i next ih => exact ⟨.refl, got, hgot, h⟩

end Advance

end Program

namespace Traced

open Program

variable (W : Got σ ε reply → σ → σ → Prop) (known : Got σ ε reply)

def Permits (last : Option (σ × Σ i, Except ε (reply i))) (s s' : σ) : Prop :=
  W [] s s' ∨ ∃ r got, last = some r ∧ got ⊆ known ∧ W (r :: got) s s'

variable {W known} {body : κ → Program σ ε κ reply Unit} {t : Traced σ ε κ reply}

section Steps

variable (hbody : ∀ job, Tells W (body job))

include hbody

lemma sources_launchAll (jobs : List κ) (h : ∀ other ∈ t.tasks, other.2.Open W known) :
    Relation.ReflTransGen (W []) t.state (jobs.foldl (launch body) t).state ∧
      ∀ other ∈ (jobs.foldl (launch body) t).tasks, other.2.Open W known := by
  induction jobs generalizing t with
  | nil => exact ⟨.refl, h⟩
  | cons job jobs ih =>
    obtain ⟨hchanges, hopen⟩ := (hbody job [] t.state).advance (List.nil_subset known)
    have hlaunched : ∀ other ∈ (t.launch body job).tasks, other.2.Open W known := by
      intro other hm
      change other ∈ t.tasks ++ _ :: _ at hm
      rcases List.mem_append.mp hm with hm | hm
      · exact h other hm
      · rcases List.mem_cons.mp hm with rfl | hm
        · exact hopen
        · obtain ⟨job', -, rfl⟩ := List.mem_map.mp hm
          exact ((hbody job' [] t.state).open (List.nil_subset known))
    obtain ⟨hrest, htasks⟩ := ih hlaunched
    exact ⟨hchanges.trans hrest, htasks⟩

lemma sources_invoke {program : Program σ ε κ reply Unit} (hp : Tells W program)
    (h : ∀ other ∈ t.tasks, other.2.Open W known) :
    Relation.ReflTransGen (Permits W known none) t.state (t.invoke body program).state ∧
      ∀ other ∈ (t.invoke body program).tasks, other.2.Open W known := by
  obtain ⟨hchanges, hopen⟩ := (hp [] t.state).advance (List.nil_subset known)
  have hfirst : ∀ other ∈ t.tasks ++ [(none, (program.advance t.state).2.2)], other.2.Open W known := by
    intro other hm
    rcases List.mem_append.mp hm with hm | hm
    · exact h other hm
    · rw [List.mem_singleton.mp hm]
      exact hopen
  obtain ⟨hrest, htasks⟩ := sources_launchAll hbody (t := ⟨_, _⟩) (program.advance t.state).2.1 hfirst
  exact ⟨Relation.ReflTransGen.mono (fun _ _ hw => Or.inl hw) _ _ (hchanges.trans hrest), htasks⟩

lemma sources_resume [DecidableEq ι] (task : ℕ) (request : ι) (answer : Except ε (reply request))
    (h : ∀ other ∈ t.tasks, other.2.Open W known) :
    Relation.ReflTransGen (Permits W known (some (t.state, ⟨request, answer⟩))) t.state
        (t.resume body task request answer).state ∧
      ∀ other ∈ (t.resume body task request answer).tasks,
        other.2.Open W ((t.state, ⟨request, answer⟩) :: known) := by
  have hkept : ∀ other ∈ t.tasks, other.2.Open W ((t.state, ⟨request, answer⟩) :: known) := fun other hm =>
    (h other hm).mono (List.subset_cons_self _ _)
  unfold resume
  split
  case h_1 origin request' next htask =>
    split
    case isTrue he =>
      subst he
      obtain ⟨got, hgot, hnext⟩ := h _ (List.mem_of_getElem? htask)
      obtain ⟨hchanges, hopen⟩ :=
        (hnext answer t.state).advance (List.cons_subset_cons (t.state, ⟨request, answer⟩) hgot)
      have hfirst : ∀ other ∈ t.tasks.set task (origin, ((next answer).advance t.state).2.2),
          other.2.Open W ((t.state, ⟨request, answer⟩) :: known) := by
        intro other hm
        rcases List.mem_or_eq_of_mem_set hm with hm | rfl
        · exact hkept other hm
        · exact hopen
      obtain ⟨hrest, htasks⟩ := sources_launchAll hbody (t := ⟨_, _⟩) ((next answer).advance t.state).2.1 hfirst
      exact ⟨.trans (Relation.ReflTransGen.mono (fun _ _ hw => Or.inr ⟨_, got, rfl, hgot, hw⟩) _ _ hchanges)
        (Relation.ReflTransGen.mono (fun _ _ hw => Or.inl hw) _ _ hrest), htasks⟩
    case isFalse => exact ⟨.refl, hkept⟩
  · exact ⟨.refl, hkept⟩

end Steps

end Traced

end ChatCore.Cooperative
