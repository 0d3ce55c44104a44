import ChatCore.Cooperative.Tasks
import Mathlib.Data.List.Perm.Subperm

/-! Tasks that work for an owner until they end or another job takes over, and what they keep of the owners at
work. -/

namespace ChatCore.Cooperative

variable {σ ε κ ι α β ω : Type} {reply : ι → Type}

namespace Program

def isOver : Program σ ε κ reply α → Bool
  | .pure _ | .throw _ => true
  | _ => false

section Meets

variable (owner : κ → Option ω) (J : σ → List ω → Prop) (own : Option ω)

/-- `J` holds of the state and the owners at work whenever the program awaits a reply. `held` is its owner,
unless a job that it has started took over, and `live` are the other owners at work. -/
def Meets (Q : α → σ → Option ω → List ω → Prop) (E : ε → σ → Option ω → List ω → Prop) :
    Program σ ε κ reply α → σ → Option ω → List ω → Prop
  | .pure a, s, held, live => Q a s held live
  | .throw e, s, held, live => E e s held live
  | .update write next, s, held, live => Meets Q E (next (write s)) (write s) held live
  | .start job next, s, held, live => ∃ held', (held' = held ∨ held = owner job ∧ held' = none) ∧
      Meets Q E next s held' ((owner job).toList ++ live)
  | .await _ next, s, held, live => held = own ∧ J s (own.toList ++ live) ∧
      ∀ r s' live', J s' (own.toList ++ live') → Meets Q E (next r) s' own live'

abbrev Completes (p : Program σ ε κ reply α) : σ → Option ω → List ω → Prop :=
  Meets owner J own (fun _ s _ live => J s live) (fun _ s _ live => J s live) p

def Retains (s : σ) (held : Option ω) (live : List ω) : Prop := held = own ∧ J s (own.toList ++ live)

def Keeps (p : Program σ ε κ reply α) : Prop :=
  ∀ s live, J s (own.toList ++ live) → Meets owner J own (fun _ => Retains J own)
    (fun _ => Retains J own) p s own live

end Meets

section Rules

variable {owner : κ → Option ω} {J : σ → List ω → Prop} {own held : Option ω} {live : List ω} {s : σ}
  {Q Q' : α → σ → Option ω → List ω → Prop} {E E' : ε → σ → Option ω → List ω → Prop}

lemma Meets.mono {p : Program σ ε κ reply α} (h : Meets owner J own Q E p s held live)
    (hQ : ∀ a s held live, Q a s held live → Q' a s held live)
    (hE : ∀ e s held live, E e s held live → E' e s held live) : Meets owner J own Q' E' p s held live := by
  induction p generalizing s held live with
  | pure a => exact hQ _ _ _ _ h
  | throw e => exact hE _ _ _ _ h
  | update write next ih => exact ih _ h
  | start job next ih =>
    obtain ⟨held', hheld, hnext⟩ := h
    exact ⟨held', hheld, ih hnext⟩
  | await request next ih =>
    obtain ⟨hheld, hJ, hnext⟩ := h
    exact ⟨hheld, hJ, fun r s' live' hJ' => ih r (hnext r s' live' hJ')⟩

lemma Meets.bind {p : Program σ ε κ reply β} {f : β → Program σ ε κ reply α}
    (h : Meets owner J own (fun b => Meets owner J own Q E (f b)) E p s held live) :
    Meets owner J own Q E (p >>= f) s held live := by
  change Meets owner J own Q E (p.bind f) s held live
  induction p generalizing s held live with
  | pure b => exact h
  | throw e => exact h
  | update write next ih => exact ih _ h
  | start job next ih =>
    obtain ⟨held', hheld, hnext⟩ := h
    exact ⟨held', hheld, ih hnext⟩
  | await request next ih =>
    obtain ⟨hheld, hJ, hnext⟩ := h
    exact ⟨hheld, hJ, fun r s' live' hJ' => ih r (hnext r s' live' hJ')⟩

lemma Meets.tryCatch {p : Program σ ε κ reply α} {handler : ε → Program σ ε κ reply α}
    (h : Meets owner J own Q (fun e => Meets owner J own Q E (handler e)) p s held live) :
    Meets owner J own Q E (p.tryCatch handler) s held live := by
  induction p generalizing s held live with
  | pure a => exact h
  | throw e => exact h
  | update write next ih => exact ih _ h
  | start job next ih =>
    obtain ⟨held', hheld, hnext⟩ := h
    exact ⟨held', hheld, ih hnext⟩
  | await request next ih =>
    obtain ⟨hheld, hJ, hnext⟩ := h
    exact ⟨hheld, hJ, fun r s' live' hJ' => ih r (hnext r s' live' hJ')⟩

lemma Keeps.meets {p : Program σ ε κ reply α} (h : Keeps owner J own p) (hJ : J s (own.toList ++ live))
    (hQ : ∀ a s live, J s (own.toList ++ live) → Q a s own live)
    (hE : ∀ e s live, J s (own.toList ++ live) → E e s own live) : Meets owner J own Q E p s own live := by
  refine (h s live hJ).mono (fun a s' held' live' hr => ?_) (fun e s' held' live' hr => ?_)
  · obtain ⟨rfl, hJ'⟩ := hr
    exact hQ a s' live' hJ'
  · obtain ⟨rfl, hJ'⟩ := hr
    exact hE e s' live' hJ'

lemma keeps_pure (a : α) : Keeps owner J own (pure a : Program σ ε κ reply α) := fun _ _ hJ => ⟨rfl, hJ⟩

lemma keeps_throw (e : ε) : Keeps owner J own (throw e : Program σ ε κ reply α) := fun _ _ hJ => ⟨rfl, hJ⟩

lemma Keeps.bind {p : Program σ ε κ reply β} {f : β → Program σ ε κ reply α} (hp : Keeps owner J own p)
    (hf : ∀ b, Keeps owner J own (f b)) : Keeps owner J own (p >>= f) := fun _ _ hJ =>
  (hp.meets hJ (fun b _ _ hJ' => (hf b) _ _ hJ') fun _ _ _ hJ' => ⟨rfl, hJ'⟩).bind

lemma Keeps.tryCatch {p : Program σ ε κ reply α} {handler : ε → Program σ ε κ reply α} (hp : Keeps owner J own p)
    (hh : ∀ e, Keeps owner J own (handler e)) : Keeps owner J own (p.tryCatch handler) := fun _ _ hJ =>
  (hp.meets hJ (fun _ _ _ hJ' => ⟨rfl, hJ'⟩) fun e _ _ hJ' => (hh e) _ _ hJ').tryCatch

lemma keeps_call (request : ι) : Keeps owner J own (call request : Program σ ε κ reply _) := by
  refine fun s live hJ => ⟨rfl, hJ, fun r s' live' hJ' => ?_⟩
  cases r with
  | error e => exact ⟨rfl, hJ'⟩
  | ok a => exact ⟨rfl, hJ'⟩

lemma keeps_modify {write : σ → σ} (h : ∀ s live, J s live → J (write s) live) :
    Keeps owner J own (modify write : Program σ ε κ reply Unit) := fun _ _ hJ => ⟨rfl, h _ _ hJ⟩

lemma keeps_fork {job : κ} (h : owner job = none) : Keeps owner J own (fork job : Program σ ε κ reply Unit) := by
  refine fun s live hJ => ⟨own, Or.inl rfl, rfl, ?_⟩
  rwa [h]

lemma keeps_get {f : σ → Program σ ε κ reply α} (h : ∀ s live, J s (own.toList ++ live) →
    Meets owner J own (fun _ => Retains J own) (fun _ => Retains J own) (f s) s own live) :
    Keeps owner J own (get >>= f) := fun s live hJ => h s live hJ

lemma keeps_of_get {f : σ → Program σ ε κ reply α} (h : ∀ s, Keeps owner J own (f s)) :
    Keeps owner J own (get >>= f) := keeps_get fun s live hJ => h s s live hJ

lemma Keeps.andFinally {p : Program σ ε κ reply α} {cleanup : Program σ ε κ reply Unit} (hp : Keeps owner J own p)
    (hc : Keeps owner J own cleanup) : Keeps owner J own (p.andFinally cleanup) :=
  (hp.tryCatch fun e => hc.bind fun _ => keeps_throw e).bind fun a => hc.bind fun _ => keeps_pure a

lemma keeps_pause (request : ι) : Keeps owner J own (pause request : Program σ ε κ reply Unit) :=
  fun _ _ hJ => ⟨rfl, hJ, fun _ _ _ hJ' => ⟨rfl, hJ'⟩⟩

lemma Keeps.settle {p : Program σ ε κ reply α} (hp : Keeps owner J own p) (turn : ι) :
    Keeps owner J own (p.settle turn) := hp.andFinally (keeps_pause turn)

lemma keeps_forM {f : β → Program σ ε κ reply Unit} (hf : ∀ b, Keeps owner J own (f b)) (bs : List β) :
    Keeps owner J own (bs.forM f) := by
  induction bs with
  | nil => exact keeps_pure ()
  | cons b bs ih => exact (hf b).bind fun _ => ih

lemma Keeps.discard {p : Program σ ε κ reply α} (hp : Keeps owner J own p) : Keeps owner J own (discard p) := by
  change Keeps owner J own (p >>= _)
  exact hp.bind fun _ => keeps_pure ()

end Rules

section Advance

lemma filterMap_cons_toList (owner : κ → Option ω) (job : κ) (jobs : List κ) :
    (job :: jobs).filterMap owner = (owner job).toList ++ jobs.filterMap owner := by
  cases ho : owner job with
  | none => rw [List.filterMap_cons_none ho, Option.toList_none, List.nil_append]
  | some o => rw [List.filterMap_cons_some ho, Option.toList_some, List.singleton_append]

variable {owner : κ → Option ω} {J : σ → List ω → Prop} {own held : Option ω} {live : List ω} {s : σ}

def Ready (owner : κ → Option ω) (J : σ → List ω → Prop) (own : Option ω) : Program σ ε κ reply α → Prop
  | .await _ next => ∀ r s' live', J s' (own.toList ++ live') → Completes owner J own (next r) s' own live'
  | _ => True

lemma Completes.ready {p : Program σ ε κ reply α} (h : Completes owner J own p s held live) :
    Ready owner J own p := by
  cases p with
  | await request next => exact h.2.2
  | _ => trivial

lemma Completes.advance (hJ : ∀ s l l', l.Subperm l' → J s l' → J s l) {p : Program σ ε κ reply α}
    (h : Completes owner J own p s held live) :
    J (p.advance s).1 ((if (p.advance s).2.2.isOver then [] else own.toList) ++
      ((p.advance s).2.1.filterMap owner ++ live)) ∧ Ready owner J own (p.advance s).2.2 := by
  induction p generalizing s held live with
  | pure a => exact ⟨h, trivial⟩
  | throw e => exact ⟨h, trivial⟩
  | update write next ih => exact ih _ h
  | start job next ih =>
    obtain ⟨held', -, hnext⟩ := h
    obtain ⟨hstate, hready⟩ := ih hnext
    refine ⟨hJ _ _ _ (List.Perm.subperm ?_) hstate, hready⟩
    refine List.Perm.append_left _ ?_
    rw [Program.advance, filterMap_cons_toList, List.append_assoc]
    exact (List.perm_append_comm_assoc ..).symm
  | await request next ih =>
    obtain ⟨-, hstate, hready⟩ := h
    exact ⟨hstate, hready⟩

end Advance

end Program

namespace Traced

open Program

variable {owner : κ → Option ω} {J : σ → List ω → Prop} {body : κ → Program σ ε κ reply Unit}
  {t : Traced σ ε κ reply}

def live (owner : κ → Option ω) (tasks : List (Option κ × Program σ ε κ reply Unit)) : List ω :=
  tasks.filterMap fun task => if task.2.isOver then none else task.1.bind owner

structure Sound (owner : κ → Option ω) (J : σ → List ω → Prop) (t : Traced σ ε κ reply) : Prop where
  holds : J t.state (live owner t.tasks)
  ready : ∀ task ∈ t.tasks, Ready owner J (task.1.bind owner) task.2

lemma live_append (tasks tasks' : List (Option κ × Program σ ε κ reply Unit)) :
    live owner (tasks ++ tasks') = live owner tasks ++ live owner tasks' := List.filterMap_append

lemma live_cons (origin : Option κ) (p : Program σ ε κ reply Unit)
    (tasks : List (Option κ × Program σ ε κ reply Unit)) :
    live owner ((origin, p) :: tasks) = (if p.isOver then [] else (origin.bind owner).toList) ++
      live owner tasks := by
  rw [live, List.filterMap_cons]
  dsimp only
  cases p.isOver with
  | true => rfl
  | false => cases origin.bind owner <;> rfl

lemma live_jobs (jobs : List κ) :
    (live owner (jobs.map fun job => (some job, body job))).Sublist (jobs.filterMap owner) := by
  induction jobs with
  | nil => exact .slnil
  | cons job jobs ih =>
    rw [List.map_cons, live_cons, filterMap_cons_toList]
    refine List.Sublist.append ?_ ih
    split
    · exact List.nil_sublist _
    · exact List.Sublist.refl _

section Steps

variable (hJ : ∀ s l l', l.Subperm l' → J s l' → J s l)
  (hbody : ∀ job s l, J s ((owner job).toList ++ l) → Completes owner J (owner job) (body job) s (owner job) l)

include hJ hbody

lemma launched {job : κ} {others : List ω} (h : J t.state (live owner t.tasks ++ ((owner job).toList ++ others)))
    (hready : ∀ task ∈ t.tasks, Ready owner J (task.1.bind owner) task.2) :
    J (t.launch body job).state (live owner (t.launch body job).tasks ++ others) ∧
      ∀ task ∈ (t.launch body job).tasks, Ready owner J (task.1.bind owner) task.2 := by
  have hcompletes := hbody job t.state (live owner t.tasks ++ others)
    (hJ _ _ _ (List.perm_append_comm_assoc ..).subperm h)
  obtain ⟨hstate, hrest⟩ := hcompletes.advance hJ
  refine ⟨hJ _ _ _ ?_ hstate, fun task hm => ?_⟩
  · change (live owner (t.tasks ++ _ :: _) ++ others).Subperm _
    rw [live_append, live_cons, List.append_assoc, List.append_assoc]
    refine ((List.perm_append_comm_assoc ..).trans
      (List.Perm.append_left _ (List.perm_append_comm_assoc ..))).subperm.trans ?_
    exact List.Sublist.subperm ((List.Sublist.refl _).append ((live_jobs _).append (List.Sublist.refl _)))
  · change task ∈ t.tasks ++ _ :: _ at hm
    rcases List.mem_append.mp hm with hm | hm
    · exact hready task hm
    · rcases List.mem_cons.mp hm with rfl | hm
      · exact hrest
      · obtain ⟨job', hjob, rfl⟩ := List.mem_map.mp hm
        have hstart : J ((body job).advance t.state).1 ((owner job').toList ++ []) := by
          refine hJ _ _ _ ?_ hstate
          cases ho : owner job' with
          | none => exact List.nil_subperm
          | some o =>
            refine List.singleton_subperm_iff.mpr (List.mem_append_right _ (List.mem_append_left _ ?_))
            exact List.mem_filterMap.mpr ⟨job', hjob, ho⟩
        exact (hbody job' _ _ hstart).ready

lemma sound_launchAll {jobs : List κ} (h : J t.state (live owner t.tasks ++ jobs.filterMap owner))
    (hready : ∀ task ∈ t.tasks, Ready owner J (task.1.bind owner) task.2) :
    Sound owner J (jobs.foldl (launch body) t) := by
  induction jobs generalizing t with
  | nil => exact ⟨by rwa [List.filterMap_nil, List.append_nil] at h, hready⟩
  | cons job jobs ih =>
    rw [filterMap_cons_toList] at h
    obtain ⟨hstate, hnext⟩ := launched hJ hbody h hready
    exact ih hstate hnext

lemma Sound.invoke (h : Sound owner J t) {program : Program σ ε κ reply Unit}
    (hp : ∀ s l, J s l → Completes owner J none program s none l) : Sound owner J (t.invoke body program) := by
  obtain ⟨hstate, hrest⟩ := (hp t.state _ h.holds).advance hJ
  refine sound_launchAll hJ hbody (hJ _ _ _ ?_ hstate) fun task hm => ?_
  · rw [live_append, live_cons, Option.bind_none, Option.toList_none, ite_self, List.nil_append, List.nil_append]
    exact (List.append_nil (live owner t.tasks)).symm ▸ List.perm_append_comm.subperm
  · rcases List.mem_append.mp hm with hm | hm
    · exact h.ready task hm
    · rw [List.mem_singleton.mp hm]
      exact hrest

lemma Sound.resume [DecidableEq ι] (h : Sound owner J t) (task : ℕ) (request : ι)
    (answer : Except ε (reply request)) : Sound owner J (t.resume body task request answer) := by
  unfold Traced.resume
  split
  case h_1 origin request' next htask =>
    split
    case isTrue he =>
      subst he
      obtain ⟨hlt, hget⟩ := List.getElem?_eq_some_iff.mp htask
      have hsplit : t.tasks = t.tasks.take task ++ (origin, .await request next) :: t.tasks.drop (task + 1) := by
        rw [← hget, ← List.drop_eq_getElem_cons hlt, List.take_append_drop]
      have hall := h.holds
      rw [hsplit, live_append, live_cons] at hall
      have hready := h.ready _ (List.mem_of_getElem? htask)
      obtain ⟨hstate, hrest⟩ :=
        (hready answer t.state _ (hJ _ _ _ (List.perm_append_comm_assoc ..).subperm hall)).advance hJ
      refine sound_launchAll hJ hbody (hJ _ _ _ ?_ hstate) fun other hm => ?_
      · rw [List.set_eq_take_append_cons_drop, if_pos hlt, live_append, live_cons, List.append_assoc,
          List.append_assoc]
        refine (List.perm_append_comm_assoc ..).subperm.trans ?_
        refine (List.Perm.append_left _ ?_).subperm
        rw [← List.append_assoc]
        exact List.perm_append_comm
      · rcases List.mem_or_eq_of_mem_set hm with hm | rfl
        · exact h.ready other hm
        · exact hrest
    · exact h
  · exact h

end Steps

end Traced

end ChatCore.Cooperative
