import ChatCore.Relational.ReadCommitted

/-! Rely and guarantee for interleaved database programs: what a lock protects does not change
under its holder, and what every commit and result guarantees holds in every run. -/

namespace ChatCore.Relational

variable {σ ν ε α β γ C : Type}

abbrev Store (σ ε α γ : Type) := σ × List (Record σ ε α γ)

def Unlocked (held : List (Lock ν)) (n : ν) : Prop := ∀ l ∈ held, l.exclusive → l.target ≠ n

lemma Unlocked.mono {held held' : List (Lock ν)} {n : ν} (hs : held ⊆ held') (h : Unlocked held' n) :
    Unlocked held n := fun l hl => h l (hs hl)

def Program.Single : Program σ ν ε α → Prop
  | .pure _ | .throw _ => True
  | .commit _ => False
  | .statement _ _ next => ∀ v, Single (next v)

lemma Program.Single.bind {p : Program σ ν ε α} {f : α → Program σ ν ε β} (hp : p.Single)
    (hf : ∀ a, (f a).Single) :
    (p >>= f).Single := by
  change (Program.bind p f).Single
  induction p with
  | pure a => exact hf a
  | throw e => trivial
  | commit next ih => exact hp.elim
  | statement locks write next ih => exact fun v => ih v (hp v)

/-- A program writes what an exclusive lock on `n` protects only while it holds such a lock. -/
def Program.Guarded (cell : ν → σ → C) : List (Lock ν) → Program σ ν ε α → Prop
  | _, .pure _ | _, .throw _ => True
  | _, .commit next => Guarded cell [] next
  | held, .statement locks write next => ∀ v : View σ ν,
      (∀ base n, Unlocked (locks v ++ held) n → cell n (write v base) = cell n base) ∧
        Guarded cell (locks v ++ held) (next v)

namespace Program.Guarded

variable {cell : ν → σ → C}

lemma mono {p : Program σ ν ε α} {held held' : List (Lock ν)} (hs : held ⊆ held')
    (h : p.Guarded cell held) : p.Guarded cell held' := by
  induction p generalizing held held' with
  | pure | throw => trivial
  | commit next ih => exact h
  | statement locks write next ih =>
    intro v
    have hl : locks v ++ held ⊆ locks v ++ held' := List.append_subset.mpr
      ⟨List.subset_append_left _ _, List.Subset.trans hs (List.subset_append_right _ _)⟩
    exact ⟨fun base n hn => (h v).1 base n (hn.mono hl), ih v hl (h v).2⟩

lemma bind {p : Program σ ν ε α} {f : α → Program σ ν ε β} {held : List (Lock ν)}
    (hp : p.Guarded cell held) (hf : ∀ a, (f a).Guarded cell []) : (p >>= f).Guarded cell held := by
  change (Program.bind p f).Guarded cell held
  induction p generalizing held with
  | pure a => exact (hf a).mono (List.nil_subset _)
  | throw e => trivial
  | commit next ih => exact ih hp
  | statement locks write next ih => exact fun v => ⟨(hp v).1, ih v (hp v).2⟩

lemma bind_held {p : Program σ ν ε α} {f : α → Program σ ν ε β} {held : List (Lock ν)} (hp : p.Guarded cell held)
    (hs : p.Single) (hf : ∀ a, (f a).Guarded cell held) : (p >>= f).Guarded cell held := by
  change (Program.bind p f).Guarded cell held
  induction p generalizing held with
  | pure a => exact hf a
  | throw e => trivial
  | commit next ih => exact hs.elim
  | statement locks write next ih =>
    exact fun v => ⟨(hp v).1, ih v (hp v).2 (hs v) fun a => (hf a).mono (List.subset_append_right _ _)⟩

end Program.Guarded

def Program.Keeps (K : σ → σ → Prop) : Program σ ν ε α → Prop
  | .pure _ | .throw _ => True
  | .commit next => Keeps K next
  | .statement _ write next => ∀ v : View σ ν, (∀ base, K base (write v base)) ∧ Keeps K (next v)

lemma Program.Keeps.bind {K : σ → σ → Prop} {p : Program σ ν ε α} {f : α → Program σ ν ε β} (hp : p.Keeps K)
    (hf : ∀ a, (f a).Keeps K) : (p >>= f).Keeps K := by
  change (Program.bind p f).Keeps K
  induction p with
  | pure a => exact hf a
  | throw e => trivial
  | commit next ih => exact ih hp
  | statement locks write next ih => exact fun v => ⟨(hp v).1, ih v (hp v).2⟩

def Program.Raises (E : ε → Prop) : Program σ ν ε α → Prop
  | .pure _ => True
  | .throw e => E e
  | .commit next => Raises E next
  | .statement _ _ next => ∀ v, Raises E (next v)

lemma Program.Raises.bind {E : ε → Prop} {p : Program σ ν ε α} {f : α → Program σ ν ε β} (hp : p.Raises E)
    (hf : ∀ a, (f a).Raises E) : (p >>= f).Raises E := by
  change (Program.bind p f).Raises E
  induction p with
  | pure a => exact hf a
  | throw e => exact hp
  | commit next ih => exact ih hp
  | statement locks write next ih => exact fun v => ih v (hp v)

lemma Program.Raises.mono {E E' : ε → Prop} {p : Program σ ν ε α} (hp : p.Raises E) (hE : ∀ e, E e → E' e) :
    p.Raises E' := by
  induction p with
  | pure a => trivial
  | throw e => exact hE e hp
  | commit next ih => exact ih hp
  | statement locks write next ih => exact fun v => ih v (hp v)

lemma Program.raises_true (p : Program σ ν ε α) : p.Raises fun _ => True := by
  induction p with
  | pure | throw => trivial
  | commit next ih => exact ih
  | statement locks write next ih => exact fun v => ih v

/-- What holds of the rows, and of the first ones; what each record of a history guarantees of those
before it; and what an exclusive lock protects. -/
structure Discipline (σ ν ε α γ C : Type) where
  inv : σ → Prop
  origin : σ → Prop := fun _ => True
  good : List (Record σ ε α γ) → Record σ ε α γ → Prop
  cell : ν → σ → C

namespace Discipline

variable (D : Discipline σ ν ε α γ C)

structure Holds (s : Store σ ε α γ) : Prop where
  inv : D.inv s.1
  leads : ∃ start, D.origin start ∧ Leads start s.2 s.1
  good : ∀ h r h', s.2 = h ++ r :: h' → D.good h r

variable {D} in
lemma Holds.snoc {s : Store σ ε α γ} (h : D.Holds s) {db : σ} {r : Record σ ε α γ} (hl : Leads s.1 [r] db)
    (hi : D.inv db) (hr : D.good s.2 r) : D.Holds (db, s.2 ++ [r]) := by
  obtain ⟨start, hstart, hleads⟩ := h.leads
  refine ⟨hi, ⟨start, hstart, hleads.append hl⟩, fun h₁ q h₂ he => ?_⟩
  rcases List.eq_nil_or_concat h₂ with rfl | ⟨h₂, q', rfl⟩
  · obtain ⟨rfl, hq⟩ := List.append_inj' he rfl
    cases hq
    exact hr
  · have he' : s.2 ++ [r] = (h₁ ++ q :: h₂) ++ [q'] := by simpa using he
    exact h.good h₁ q h₂ (List.append_inj' he' rfl).1

variable {D} in
lemma Holds.good_of_mem {s : Store σ ε α γ} (h : D.Holds s) {r : Record σ ε α γ} (hr : r ∈ s.2) :
    ∃ h₁ h₂, s.2 = h₁ ++ r :: h₂ ∧ D.good h₁ r := by
  obtain ⟨h₁, h₂, he⟩ := List.append_of_mem hr
  exact ⟨h₁, h₂, he, h.good h₁ r h₂ he⟩

structure Interferes (id : ℕ) (held : List (Lock ν)) (s s' : Store σ ε α γ) : Prop where
  before : D.Holds s
  after : D.Holds s'
  record : ∃ r, s'.2 = s.2 ++ [r] ∧ r.id ≠ id ∧ D.good s.2 r ∧ Leads s.1 [r] s'.1
  cell : ∀ l ∈ held, l.exclusive → D.cell l.target s'.1 = D.cell l.target s.1

def Stable (id : ℕ) (held : List (Lock ν)) (P : Store σ ε α γ → Prop) : Prop :=
  ∀ s s', D.Interferes id held s s' → P s → P s'

def Safe (id : ℕ) (call : γ) : Program σ ν ε α → (σ → σ) → List (Lock ν) → (Store σ ε α γ → Prop) → Prop
  | .pure a, pending, held, P => D.Stable id held P ∧ ∀ s, D.Holds s → P s →
      D.inv (pending s.1) ∧ D.good s.2 (.committed id call s.1 (pending s.1)) ∧
        D.good (s.2 ++ [.committed id call s.1 (pending s.1)]) (.finished id call (.ok a))
  | .throw e, _, held, P => D.Stable id held P ∧ ∀ s, D.Holds s → P s → D.good s.2 (.finished id call (.error e))
  | .commit next, pending, held, P => D.Stable id held P ∧ ∀ s, D.Holds s → P s →
      D.inv (pending s.1) ∧ D.good s.2 (.committed id call s.1 (pending s.1)) ∧
        ∃ P' : Store σ ε α γ → Prop, P' (pending s.1, s.2 ++ [.committed id call s.1 (pending s.1)]) ∧
          Safe id call next (fun base => base) [] P'
  | .statement locks write next, pending, held, P => D.Stable id held P ∧ ∀ s busy, D.Holds s → P s →
      (∀ l ∈ locks ⟨pending s.1, busy⟩, busy l = false) →
        ∃ P' : Store σ ε α γ → Prop, P' s ∧ Safe id call (next ⟨pending s.1, busy⟩)
          (fun base => write ⟨pending s.1, busy⟩ (pending base)) (locks ⟨pending s.1, busy⟩ ++ held) P'

lemma safe_of_keeps_raises {K : σ → σ → Prop} {E : ε → Prop} {id : ℕ} {call : γ} (hid : ∀ a, K a a)
    (htrans : ∀ a b c, K a b → K b c → K a c) (hinv : ∀ a b, K a b → D.inv a → D.inv b)
    (hcommit : ∀ h a b, D.inv a → K a b → D.good h (.committed id call a b))
    (hok : ∀ h a, D.good h (.finished id call (.ok a)))
    (herror : ∀ h e, E e → D.good h (.finished id call (.error e))) {p : Program σ ν ε α} (hp : p.Keeps K)
    (hE : p.Raises E) (held : List (Lock ν)) : D.Safe id call p (fun base => base) held (fun _ => True) := by
  have hstable : ∀ held, D.Stable id held (fun _ => True) := fun _ _ _ _ _ => trivial
  have hall : ∀ (pending : σ → σ) (held : List (Lock ν)), (∀ base, K base (pending base)) →
      D.Safe id call p pending held (fun _ => True) := by
    induction p with
    | pure a =>
      exact fun pending held hpending => ⟨hstable _, fun s hs _ =>
        ⟨hinv _ _ (hpending _) hs.inv, hcommit _ _ _ hs.inv (hpending _), hok _ _⟩⟩
    | throw e => exact fun _ _ _ => ⟨hstable _, fun s _ _ => herror _ _ hE⟩
    | commit next ih =>
      exact fun pending held hpending => ⟨hstable _, fun s hs _ => ⟨hinv _ _ (hpending _) hs.inv,
        hcommit _ _ _ hs.inv (hpending _), _, trivial, ih hp hE _ [] hid⟩⟩
    | statement locks write next ih =>
      exact fun pending held hpending => ⟨hstable _, fun s busy hs _ _ => ⟨_, trivial,
        ih _ (hp _).2 (hE _) _ _ fun base => htrans _ _ _ (hpending base) ((hp _).1 _)⟩⟩
  exact hall _ held hid

lemma safe_of_keeps {K : σ → σ → Prop} {id : ℕ} {call : γ} (hid : ∀ a, K a a)
    (htrans : ∀ a b c, K a b → K b c → K a c) (hinv : ∀ a b, K a b → D.inv a → D.inv b)
    (hcommit : ∀ h a b, D.inv a → K a b → D.good h (.committed id call a b))
    (hfinish : ∀ h result, D.good h (.finished id call result)) {p : Program σ ν ε α} (hp : p.Keeps K)
    (held : List (Lock ν)) : D.Safe id call p (fun base => base) held (fun _ => True) :=
  D.safe_of_keeps_raises hid htrans hinv hcommit (fun h _ => hfinish h _) (fun h _ _ => hfinish h _) hp
    p.raises_true held

lemma Safe.stable {D : Discipline σ ν ε α γ C} {id : ℕ} {call : γ} {p : Program σ ν ε α} {pending : σ → σ}
    {held : List (Lock ν)} {P : Store σ ε α γ → Prop} (h : D.Safe id call p pending held P) :
    D.Stable id held P := by
  cases p <;> exact h.1

structure Kept (db : σ) (history : List (Record σ ε α γ)) (id : ℕ) (s : Session σ ν ε α γ) : Prop where
  safe : ∃ P : Store σ ε α γ → Prop, P (db, history) ∧ D.Safe id s.call s.program s.pending s.held P
  guarded : s.program.Guarded D.cell s.held
  pending : ∀ base n, Unlocked s.held n → D.cell n (s.pending base) = D.cell n base

variable [DecidableEq ν]

structure Sound (w : World σ ν ε α γ) : Prop where
  holds : D.Holds (w.db, w.history)
  ids : ∀ r ∈ w.history, r.id < w.sessions.length
  kept : ∀ (i : ℕ) (s : Session σ ν ε α γ), w.sessions[i]? = some s → s.live = true →
    D.Kept w.db w.history i s
  apart : ∀ (i j : ℕ) (s t : Session σ ν ε α γ), i ≠ j → w.sessions[i]? = some s → w.sessions[j]? = some t →
    s.live = true → t.live = true → ∀ a ∈ s.held, ∀ b ∈ t.held, a.conflicts b = false

variable {D}

lemma not_busy {w : World σ ν ε α γ} {id j : ℕ} {l : Lock ν} {t : Session σ ν ε α γ}
    (hb : w.busy id l = false) (hj : w.sessions[j]? = some t) (hne : j ≠ id) (hl : t.live = true) :
    ∀ a ∈ t.held, a.conflicts l = false := by
  have hm : t ∈ w.sessions.eraseIdx id := List.mem_eraseIdx_iff_getElem?.mpr ⟨j, hne, hj⟩
  have hn := List.any_eq_false.mp hb t hm
  simp only [World.blocks, hl, Bool.true_and, List.any_eq_true, not_exists, not_and] at hn
  intro a ha
  simpa using hn a ha

lemma Sound.kept_other {w : World σ ν ε α γ} {id j : ℕ} {s t : Session σ ν ε α γ} (h : D.Sound w)
    (hs : w.sessions[id]? = some s) (hl : s.live = true) (hj : j ≠ id) (ht : w.sessions[j]? = some t)
    (htl : t.live = true) {st st' : Store σ ε α γ} (hst : D.Kept st.1 st.2 j t) (hb : D.Holds st)
    (ha : D.Holds st') {r : Record σ ε α γ} (hr : st'.2 = st.2 ++ [r]) (hid : r.id = id) (hg : D.good st.2 r)
    (hlead : Leads st.1 [r] st'.1) (hcell : ∀ n, Unlocked s.held n → D.cell n st'.1 = D.cell n st.1) :
    D.Kept st'.1 st'.2 j t := by
  obtain ⟨P, hP, hsafe⟩ := hst.safe
  refine ⟨⟨P, ?_, hsafe⟩, hst.guarded, hst.pending⟩
  refine hsafe.stable st st' ⟨hb, ha, ⟨r, hr, hid ▸ Ne.symm hj, hg, hlead⟩, ?_⟩ hP
  intro a ha' hex
  refine hcell _ fun l hm hlex heq => ?_
  have hc := h.apart id j s t (Ne.symm hj) hs ht hl htl l hm a ha'
  rw [Lock.conflicts_of_exclusive heq hlex hex] at hc
  exact Bool.noConfusion hc

lemma Sound.replace {w w' : World σ ν ε α γ} {id : ℕ} {s s' : Session σ ν ε α γ} (h : D.Sound w)
    (hs : w.sessions[id]? = some s) (hl : s.live = true) (hset : w'.sessions = w.sessions.set id s')
    (holds : D.Holds (w'.db, w'.history)) (hids : ∀ r ∈ w'.history, r ∈ w.history ∨ r.id = id)
    (hother : ∀ (j : ℕ) (t : Session σ ν ε α γ), j ≠ id → w.sessions[j]? = some t → t.live = true →
      D.Kept w'.db w'.history j t)
    (hself : s'.live = true → D.Kept w'.db w'.history id s')
    (hheld : ∀ b ∈ s'.held, b ∈ s.held ∨ w.busy id b = false) : D.Sound w' := by
  have hlt : id < w.sessions.length := (List.getElem?_eq_some_iff.mp hs).1
  have hget : w'.sessions[id]? = some s' := by simp [hset, hlt]
  have hne : ∀ j, j ≠ id → w'.sessions[j]? = w.sessions[j]? := by
    intro j hj
    rw [hset, List.getElem?_set_ne (Ne.symm hj)]
  have hfree : ∀ (j : ℕ) (t : Session σ ν ε α γ), j ≠ id → w.sessions[j]? = some t → t.live = true →
      ∀ a ∈ t.held, ∀ b ∈ s'.held, a.conflicts b = false := by
    intro j t hj ht htl a ha b hb
    rcases hheld b hb with hb | hb
    · exact h.apart j id t s hj ht hs htl hl a ha b hb
    · exact not_busy hb ht hj htl a ha
  refine ⟨holds, ?_, ?_, ?_⟩
  · intro r hr
    rw [hset, List.length_set]
    rcases hids r hr with hr | hr
    · exact h.ids r hr
    · exact hr ▸ hlt
  · intro j t ht htl
    by_cases hj : j = id
    · subst hj
      rw [hget] at ht
      obtain rfl := Option.some.inj ht
      exact hself htl
    · rw [hne j hj] at ht
      exact hother j t hj ht htl
  · intro i j t u hij ht hu htl hul
    by_cases hi : i = id
    · have hj : j ≠ id := fun hj => hij (hi.trans hj.symm)
      subst hi
      rw [hget] at ht
      obtain rfl := Option.some.inj ht
      rw [hne j hj] at hu
      intro a ha b hb
      rw [Lock.conflicts_comm]
      exact hfree j u hj hu hul b hb a ha
    · rw [hne i hi] at ht
      by_cases hj : j = id
      · subst hj
        rw [hget] at hu
        obtain rfl := Option.some.inj hu
        exact hfree i t hi ht htl
      · rw [hne j hj] at hu
        exact h.apart i j t u hij ht hu htl hul

lemma Sound.advance {w : World σ ν ε α γ} {id : ℕ} {s : Session σ ν ε α γ} (h : D.Sound w)
    (hs : w.sessions[id]? = some s) (hl : s.live = true) : D.Sound (w.advance id s) := by
  have hkept := h.kept id s hs hl
  obtain ⟨P, hP, hsafe⟩ := hkept.safe
  have hguarded := hkept.guarded
  have hsame : ∀ n, Unlocked s.held n → D.cell n (s.pending w.db) = D.cell n w.db := hkept.pending w.db
  have hother : ∀ (st st' : Store σ ε α γ), D.Holds st → D.Holds st' → ∀ r : Record σ ε α γ, r.id = id →
      st'.2 = st.2 ++ [r] → D.good st.2 r → Leads st.1 [r] st'.1 →
      (∀ n, Unlocked s.held n → D.cell n st'.1 = D.cell n st.1) → ∀ (j : ℕ) (t : Session σ ν ε α γ), j ≠ id →
      w.sessions[j]? = some t → t.live = true → D.Kept st.1 st.2 j t → D.Kept st'.1 st'.2 j t :=
    fun st st' hb ha r hid hr hg hlead hcell j t hj ht htl hst =>
      h.kept_other hs hl hj ht htl hst hb ha hr hid hg hlead hcell
  unfold World.advance
  cases hp : s.program with
  | pure a =>
    rw [hp] at hsafe
    obtain ⟨hi, hc, hf⟩ := hsafe.2 _ h.holds hP
    have hmid := h.holds.snoc (.committed id s.call w.db (s.pending w.db)) hi hc
    have hend := hmid.snoc (.finished id s.call (.ok a) (s.pending w.db)) hi hf
    refine h.replace hs hl rfl hend ?_ ?_ (fun hd => by simp at hd) (by simp)
    · intro r hr
      simp only [World.close, World.commit, List.mem_append, List.mem_singleton] at hr
      rcases hr with (hr | rfl) | rfl
      · exact Or.inl hr
      · exact Or.inr rfl
      · exact Or.inr rfl
    · intro j t hj ht htl
      refine hother _ _ hmid hend _ rfl rfl hf rfl (fun _ _ => rfl) j t hj ht htl ?_
      exact hother _ _ h.holds hmid _ rfl rfl hc ⟨rfl, rfl⟩ hsame j t hj ht htl (h.kept j t ht htl)
  | throw e =>
    rw [hp] at hsafe
    have hf := hsafe.2 _ h.holds hP
    have hend := h.holds.snoc (.finished id s.call (.error e) w.db) h.holds.inv hf
    refine h.replace hs hl rfl hend ?_ ?_ (fun hd => by simp at hd) (by simp)
    · intro r hr
      simp only [World.close, List.mem_append, List.mem_singleton] at hr
      rcases hr with hr | rfl
      · exact Or.inl hr
      · exact Or.inr rfl
    · intro j t hj ht htl
      exact hother _ _ h.holds hend _ rfl rfl hf rfl (fun _ _ => rfl) j t hj ht htl (h.kept j t ht htl)
  | commit next =>
    rw [hp] at hsafe hguarded
    obtain ⟨hi, hc, P', hP', hnext⟩ := hsafe.2 _ h.holds hP
    have hmid := h.holds.snoc (.committed id s.call w.db (s.pending w.db)) hi hc
    refine h.replace hs hl rfl hmid ?_ ?_ (fun _ => ⟨⟨P', hP', hnext⟩, hguarded, fun _ _ _ => rfl⟩) (by simp)
    · intro r hr
      simp only [World.commit, List.mem_append, List.mem_singleton] at hr
      rcases hr with hr | rfl
      · exact Or.inl hr
      · exact Or.inr rfl
    · intro j t hj ht htl
      exact hother _ _ h.holds hmid _ rfl rfl hc ⟨rfl, rfl⟩ hsame j t hj ht htl (h.kept j t ht htl)
  | statement locks write next =>
    rw [hp] at hsafe hguarded
    dsimp only
    split
    · exact h
    · rename_i hfree
      rw [Bool.not_eq_true, List.any_eq_false] at hfree
      have hfree' : ∀ l ∈ locks (w.view id s), w.busy id l = false := by
        intro l hl'
        simpa using hfree l hl'
      obtain ⟨P', hP', hnext⟩ := hsafe.2 _ (w.busy id) h.holds hP hfree'
      have hv := hguarded (w.view id s)
      refine h.replace hs hl rfl h.holds (fun r hr => Or.inl hr) (fun j t _ ht htl => h.kept j t ht htl)
        (fun _ => ⟨⟨P', hP', hnext⟩, hv.2, ?_⟩) ?_
      · intro base n hn
        rw [hv.1 _ n hn, hkept.pending base n (hn.mono (List.subset_append_right _ _))]
      · intro b hb
        rcases List.mem_append.mp hb with hb | hb
        · exact Or.inr (hfree' b hb)
        · exact Or.inl hb

variable {body : γ → Program σ ν ε α}

lemma Sound.start {w : World σ ν ε α γ} {call : γ} (h : D.Sound w) (hguarded : (body call).Guarded D.cell [])
    (hbody : ∃ P : Store σ ε α γ → Prop, P (w.db, w.history) ∧
      D.Safe w.sessions.length call (body call) (fun base => base) [] P) :
    D.Sound (w.step body (.start call)) := by
  have hget : ∀ (i : ℕ) (s : Session σ ν ε α γ),
      (w.sessions ++ [⟨call, body call, fun base => base, [], true⟩])[i]? = some s →
        w.sessions[i]? = some s ∨ i = w.sessions.length ∧ s = ⟨call, body call, fun base => base, [], true⟩ := by
    intro i s hi
    rw [List.getElem?_append] at hi
    split at hi
    · exact Or.inl hi
    · rw [List.getElem?_singleton] at hi
      split at hi
      · exact Or.inr ⟨by omega, (Option.some.inj hi).symm⟩
      · simp at hi
  refine ⟨h.holds, ?_, ?_, ?_⟩
  · intro r hr
    simp only [World.step, List.length_append]
    exact Nat.lt_add_right _ (h.ids r hr)
  · intro i s hs hl
    rcases hget i s hs with hs | ⟨rfl, rfl⟩
    · exact h.kept i s hs hl
    · exact ⟨hbody, hguarded, fun _ _ _ => rfl⟩
  · intro i j s t hij hs ht hsl htl a ha b hb
    rcases hget i s hs with hs | ⟨rfl, rfl⟩
    · rcases hget j t ht with ht | ⟨rfl, rfl⟩
      · exact h.apart i j s t hij hs ht hsl htl a ha b hb
      · simp at hb
    · simp at ha

lemma Sound.step {w : World σ ν ε α γ} (hguarded : ∀ call, (body call).Guarded D.cell [])
    (hbody : ∀ id call (st : Store σ ε α γ), D.Holds st → (∀ r ∈ st.2, r.id ≠ id) →
      ∃ P : Store σ ε α γ → Prop, P st ∧ D.Safe id call (body call) (fun base => base) [] P)
    (h : D.Sound w) (m : Move γ) : D.Sound (w.step body m) := by
  cases m with
  | start call => exact h.start (hguarded call) (hbody _ call _ h.holds fun r hr => Nat.ne_of_lt (h.ids r hr))
  | advance id =>
    simp only [World.step]
    split
    · rename_i s hs
      split
      · exact h.advance hs ‹_›
      · exact h
    · exact h
  | crash id =>
    simp only [World.step]
    split
    · rename_i s hs
      split
      · exact h.replace hs ‹_› rfl h.holds (fun r hr => Or.inl hr) (fun j t _ ht htl => h.kept j t ht htl)
          (fun hd => by simp at hd) (by simp)
      · exact h
    · exact h

theorem sound_exec (hguarded : ∀ call, (body call).Guarded D.cell [])
    (hbody : ∀ id call (st : Store σ ε α γ), D.Holds st → (∀ r ∈ st.2, r.id ≠ id) →
      ∃ P : Store σ ε α γ → Prop, P st ∧ D.Safe id call (body call) (fun base => base) [] P)
    {db : σ} (hdb : D.inv db) (horigin : D.origin db) (moves : List (Move γ)) :
    D.Sound ((World.initial db : World σ ν ε α γ).exec body moves) := by
  have hall : ∀ w : World σ ν ε α γ, D.Sound w → D.Sound (w.exec body moves) := by
    induction moves with
    | nil => exact fun w hw => hw
    | cons m moves ih => exact fun w hw => ih _ (hw.step hguarded hbody m)
  exact hall _ ⟨⟨hdb, ⟨db, horigin, rfl⟩, by simp [World.initial]⟩, by
    simp [World.initial], by simp [World.initial],
    by simp [World.initial]⟩

end Discipline

end ChatCore.Relational
