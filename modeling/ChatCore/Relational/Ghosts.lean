import ChatCore.Relational.Rules
import ChatCore.Transition.Steps

/-! Programs with marks on their statements: auxiliary variables that follow a session, and what it keeps of them
whatever the other sessions commit. -/

namespace ChatCore.Relational

inductive Marked (G σ ν ε α : Type) : Type
  | pure (a : α)
  | throw (e : ε)
  | statement (locks : View σ ν → List (Lock ν)) (write : View σ ν → σ → σ) (mark : View σ ν → G → G)
      (next : View σ ν → Marked G σ ν ε α)
  | commit (next : Marked G σ ν ε α)

namespace Marked

variable {G σ ν ε α β : Type}

def bind : Marked G σ ν ε α → (α → Marked G σ ν ε β) → Marked G σ ν ε β
  | .pure a, f => f a
  | .throw e, _ => .throw e
  | .statement locks write mark next, f => .statement locks write mark fun v => (next v).bind f
  | .commit next, f => .commit (next.bind f)

instance : Monad (Marked G σ ν ε) where
  pure := .pure
  bind := bind

def erase : Marked G σ ν ε α → Program σ ν ε α
  | .pure a => .pure a
  | .throw e => .throw e
  | .statement locks write _ next => .statement locks write fun v => (next v).erase
  | .commit next => .commit next.erase

def plainly : Program σ ν ε α → Marked G σ ν ε α
  | .pure a => .pure a
  | .throw e => .throw e
  | .statement locks write next => .statement locks write (fun _ g => g) fun v => plainly (next v)
  | .commit next => .commit (plainly next)

def noting (f : α → G → G) : Program σ ν ε α → Marked G σ ν ε α
  | .statement locks write next => .statement locks write
      (fun v g => match next v with
        | .pure a => f a g
        | _ => g)
      fun v => plainly (next v)
  | p => plainly p

@[simp] lemma erase_bind (p : Marked G σ ν ε α) (f : α → Marked G σ ν ε β) :
    (p >>= f).erase = p.erase >>= fun a => (f a).erase := by
  change (p.bind f).erase = p.erase.bind _
  induction p with
  | pure | throw => rfl
  | statement locks write mark next ih => simp only [bind, erase, Program.bind, ih]
  | commit next ih => simp only [bind, erase, Program.bind, ih]

@[simp] lemma erase_pure (a : α) : (Pure.pure a : Marked G σ ν ε α).erase = Pure.pure a := rfl

@[simp] lemma erase_plainly (p : Program σ ν ε α) : (plainly p : Marked G σ ν ε α).erase = p := by
  induction p with
  | pure | throw => rfl
  | statement locks write next ih => simp only [plainly, erase, ih]
  | commit next ih => simp only [plainly, erase, ih]

lemma plainly_bind (p : Program σ ν ε α) (f : α → Program σ ν ε β) :
    (plainly (p >>= f) : Marked G σ ν ε β) = plainly p >>= fun a => plainly (f a) := by
  change plainly (p.bind f) = (plainly p).bind _
  induction p with
  | pure | throw => rfl
  | statement locks write next ih => simp only [plainly, bind, Program.bind, ih]
  | commit next ih => simp only [plainly, bind, Program.bind, ih]

@[simp] lemma erase_noting (f : α → G → G) (p : Program σ ν ε α) : (noting f p).erase = p := by
  cases p with
  | statement locks write next => simp only [noting, erase, erase_plainly]
  | pure | throw | commit => exact erase_plainly _

lemma erase_forM (rows : List α) (f : α → Marked G σ ν ε Unit) :
    (rows.forM f).erase = rows.forM fun a => (f a).erase := by
  induction rows with
  | nil => rfl
  | cons a rows ih =>
    change (f a >>= fun _ => rows.forM f).erase = (f a).erase >>= fun _ => rows.forM fun a => (f a).erase
    rw [erase_bind, ih]

lemma erase_foldlM (rows : List α) (f : β → α → Marked G σ ν ε β) (b : β) :
    (rows.foldlM f b).erase = rows.foldlM (fun b a => (f b a).erase) b := by
  induction rows generalizing b with
  | nil => rfl
  | cons a rows ih => simp only [List.foldlM_cons, erase_bind, ih]

end Marked

structure Outline (G σ ε : Type) where
  inv : G → (σ → σ) → σ → Prop
  safe : G → σ → σ → σ → Prop
  raises : ε → Prop
  passes : G → G → σ → Prop
  bears : G → σ → σ → Prop

namespace Outline

variable {G σ ν ε α β γ : Type} (O : Outline G σ ε)

structure Lawful : Prop where
  stable : ∀ g pending db db', O.inv g pending db → O.bears g db db' → O.inv g pending db'
  still : ∀ g db view, O.safe g db view view

def Meets (Q : α → G → Prop) : Marked G σ ν ε α → G → Prop
  | .pure a, g => Q a g
  | .throw e, _ => O.raises e
  | .statement _ write mark next, g => ∀ pending db busy, O.inv g pending db →
      O.passes g (mark ⟨pending db, busy⟩ g) db →
        O.safe g db (pending db) (write ⟨pending db, busy⟩ (pending db)) ∧
        O.inv (mark ⟨pending db, busy⟩ g) (fun base => write ⟨pending db, busy⟩ (pending base)) db ∧
        Meets Q (next ⟨pending db, busy⟩) (mark ⟨pending db, busy⟩ g)
  | .commit next, g =>
    (∀ pending db, O.inv g pending db → O.inv g (fun base => base) (pending db)) ∧ Meets Q next g

variable {O} {Q : α → G → Prop} {g : G}

lemma Meets.mono {Q' : α → G → Prop} {p : Marked G σ ν ε α} (h : O.Meets Q p g) (hQ : ∀ a g', Q a g' → Q' a g') :
    O.Meets Q' p g := by
  induction p generalizing g with
  | pure a => exact hQ a g h
  | throw e => exact h
  | statement locks write mark next ih =>
    intro pending db busy hinv hpasses
    obtain ⟨hsafe, hkeeps, hnext⟩ := h pending db busy hinv hpasses
    exact ⟨hsafe, hkeeps, ih _ hnext⟩
  | commit next ih => exact ⟨h.1, ih h.2⟩

lemma Meets.bind {R : β → G → Prop} {p : Marked G σ ν ε α} {f : α → Marked G σ ν ε β} (h : O.Meets Q p g)
    (hf : ∀ a g', Q a g' → O.Meets R (f a) g') : O.Meets R (p >>= f) g := by
  change O.Meets R (p.bind f) g
  induction p generalizing g with
  | pure a => exact hf a g h
  | throw e => exact h
  | statement locks write mark next ih =>
    intro pending db busy hinv hpasses
    obtain ⟨hsafe, hkeeps, hnext⟩ := h pending db busy hinv hpasses
    exact ⟨hsafe, hkeeps, ih _ hnext⟩
  | commit next ih => exact ⟨h.1, ih h.2⟩

section Loops

variable {I : G → Prop} {rows : List α}

lemma meets_forM {f : α → Marked G σ ν ε Unit} (hg : I g)
    (h : ∀ a ∈ rows, ∀ g', I g' → O.Meets (fun _ g'' => I g'') (f a) g') :
    O.Meets (fun _ g' => I g') (rows.forM f) g := by
  induction rows generalizing g with
  | nil => exact hg
  | cons a rows ih =>
    change O.Meets _ (f a >>= fun _ => rows.forM f) g
    exact (h a (List.mem_cons_self ..) g hg).bind fun _ g' hg' => ih hg' fun b hb =>
      h b (List.mem_cons_of_mem _ hb)

lemma meets_foldlM {f : β → α → Marked G σ ν ε β} {b : β} (hg : I g)
    (h : ∀ a ∈ rows, ∀ b g', I g' → O.Meets (fun _ g'' => I g'') (f b a) g') :
    O.Meets (fun _ g' => I g') (rows.foldlM f b) g := by
  induction rows generalizing b g with
  | nil => exact hg
  | cons a rows ih =>
    rw [List.foldlM_cons]
    exact (h a (List.mem_cons_self ..) b g hg).bind fun _ g' hg' => ih hg' fun b hb =>
      h b (List.mem_cons_of_mem _ hb)

end Loops

def Harmless (O : Outline G σ ε) (g : G) (write : σ → σ) : Prop := ∀ pending db, O.inv g pending db →
  O.safe g db (pending db) (write (pending db)) ∧ O.inv g (fun base => write (pending base)) db

def Calm (O : Outline G σ ε) (Q : α → Prop) (p : Program σ ν ε α) (g : G) : Prop :=
  O.Meets (fun a g' => Q a ∧ g' = g) (Marked.plainly p) g

section Calm

variable {Q : α → Prop} {R : β → Prop}

lemma Calm.bind {p : Program σ ν ε α} {f : α → Program σ ν ε β} (h : O.Calm Q p g)
    (hf : ∀ a, Q a → O.Calm R (f a) g) : O.Calm R (p >>= f) g := by
  rw [Calm, Marked.plainly_bind]
  refine Meets.bind h ?_
  rintro a g' ⟨ha, rfl⟩
  exact hf a ha

lemma Calm.andThen {T : β → G → Prop} {p : Program σ ν ε α} {f : α → Marked G σ ν ε β} (h : O.Calm Q p g)
    (hf : ∀ a, Q a → O.Meets T (f a) g) : O.Meets T (Marked.plainly p >>= f) g := by
  refine Meets.bind h ?_
  rintro a g' ⟨ha, rfl⟩
  exact hf a ha

lemma Calm.mono {Q' : α → Prop} {p : Program σ ν ε α} (h : O.Calm Q p g) (hQ : ∀ a, Q a → Q' a) : O.Calm Q' p g :=
  Meets.mono h fun a _ ha => ⟨hQ a ha.1, ha.2⟩

lemma calm_pure {a : α} (h : Q a) : O.Calm Q (Pure.pure a : Program σ ν ε α) g := ⟨h, rfl⟩

lemma calm_select (hO : O.Lawful) (query : σ → α) :
    O.Calm (fun a => ∃ pending db, O.inv g pending db ∧ a = query (pending db))
    (Program.select query : Program σ ν ε α)
      g := fun pending db _ hinv _ => ⟨hO.still _ _ _, hinv, ⟨pending, db, hinv, rfl⟩, rfl⟩

lemma meets_noting_select {T : α → G → Prop} (hO : O.Lawful) {f : α → G → G} {query : σ → α}
    (h : ∀ pending db, O.inv g pending db → O.passes g (f (query (pending db)) g) db →
      O.inv (f (query (pending db)) g) pending db ∧ T (query (pending db)) (f (query (pending db)) g)) :
    O.Meets T (Marked.noting f (Program.select query : Program σ ν ε α)) g := by
  intro pending db busy hinv hpasses
  obtain ⟨hkeeps, hT⟩ := h pending db hinv hpasses
  exact ⟨hO.still _ _ _, hkeeps, hT⟩

section Statements

variable {ρ κ : Type} {key : ρ → κ} [DecidableEq κ] {t : Relation σ ν key} {p : ρ → Bool}

lemma calm_deleteFrom (h : ∀ q : ρ → Bool, (∀ r, q r = true → p r = true) →
    O.Harmless g fun base => t.put base ((t.get base).delete q)) :
    O.Calm (fun rows => ∀ r ∈ rows, p r = true) (t.deleteFrom p : Program σ ν ε (List ρ)) g := by
  intro pending db busy hinv _
  have hseen : ∀ r, t.seen p (pending db) r = true → p r = true := fun r hr => by
    rw [Relation.seen, Bool.and_eq_true] at hr
    exact hr.1
  obtain ⟨hsafe, hkeeps⟩ := h _ hseen pending db hinv
  exact ⟨hsafe, hkeeps, fun r hr => (List.mem_filter.mp hr).2, rfl⟩

variable [QueryError ε] {f : ρ → ρ} {hf : ∀ r, key (f r) = key r}

lemma calm_updateTable (hcheck : ∀ r, t.check (f r) = none)
    (h : ∀ q : ρ → Bool, O.Harmless g fun base => t.put base ((t.get base).update q f hf)) :
    O.Calm (fun _ => True) (t.updateTable p f hf : Program σ ν ε (List ρ)) g := by
  intro pending db busy hinv _
  obtain ⟨hsafe, hkeeps⟩ := h (t.seen p (pending db)) pending db hinv
  refine ⟨hsafe, hkeeps, ?_⟩
  have hnone : ((t.matching p (pending db)).map f).findSome? t.check = none := by
    rw [List.findSome?_eq_none_iff]
    intro r hr
    obtain ⟨s, -, rfl⟩ := List.mem_map.mp hr
    exact hcheck s
  dsimp only
  rw [hnone]
  exact ⟨trivial, rfl⟩

end Statements

end Calm

end Outline

structure Attended (G σ ν ε α γ : Type) where
  world : World σ ν ε α γ
  ghosts : List (Marked G σ ν ε α × G)

namespace Attended

variable {G σ ν ε α γ : Type} [DecidableEq ν] (body : γ → Program σ ν ε α) (marked : γ → Marked G σ ν ε α) (g₀ : G)

def initial (db : σ) : Attended G σ ν ε α γ := ⟨World.initial db, []⟩

def follow (w : World σ ν ε α γ) (id : ℕ) (s : Session σ ν ε α γ) : Marked G σ ν ε α × G → Marked G σ ν ε α × G
  | (.statement locks write mark next, g) =>
      if (locks (w.view id s)).any (w.busy id) then (.statement locks write mark next, g)
      else (next (w.view id s), mark (w.view id s) g)
  | (.commit next, g) => (next, g)
  | (p, g) => (p, g)

def step (t : Attended G σ ν ε α γ) (m : Move γ) : Attended G σ ν ε α γ where
  world := t.world.step body m
  ghosts := match m with
    | .start call => t.ghosts ++ [(marked call, g₀)]
    | .advance id => match t.world.sessions[id]? with
        | some s => if s.live then t.ghosts.modify id (follow t.world id s) else t.ghosts
        | none => t.ghosts
    | .crash _ => t.ghosts

@[simp] lemma step_world (t : Attended G σ ν ε α γ) (m : Move γ) :
    (t.step body marked g₀ m).world = t.world.step body m := rfl

structure Watches (t : Attended G σ ν ε α γ) (id : ℕ) (s : Session σ ν ε α γ) (g : G) : Prop where
  session : t.world.sessions[id]? = some s
  live : s.live = true
  ghost : (t.ghosts.map Prod.snd)[id]? = some g

instance (m : Move γ) (i : ℕ) : Decidable (m = .advance i) := match m with
  | .advance j => decidable_of_iff (j = i) ⟨congrArg Move.advance, Move.advance.inj⟩
  | .start _ => .isFalse fun h => by cases h
  | .crash _ => .isFalse fun h => by cases h

omit [DecidableEq ν] in
lemma forall_watches (t : Attended G σ ν ε α γ) (P : ℕ → Session σ ν ε α γ → G → Prop) :
    (∀ i ∈ List.range t.world.sessions.length, ∀ s ∈ t.world.sessions[i]?, ∀ g ∈ (t.ghosts.map Prod.snd)[i]?,
      s.live = true → P i s g) ↔ ∀ i s g, t.Watches i s g → P i s g := by
  refine ⟨fun h i s g hw => ?_, fun h i _ s hs g hg hl => h i s g ⟨hs, hl, hg⟩⟩
  exact h i (List.mem_range.mpr (List.getElem?_eq_some_iff.mp hw.session).1) s hw.session g hw.ghost hw.live

instance (t : Attended G σ ν ε α γ) (P : ℕ → Session σ ν ε α γ → G → Prop) [∀ i s g, Decidable (P i s g)] :
    Decidable (∀ i s g, t.Watches i s g → P i s g) := decidable_of_iff _ (t.forall_watches P)

section Outlined

variable (outline : γ → Outline G σ ε) (t : Attended G σ ν ε α γ) (m : Move γ)

def Respected : Prop := ∀ i s g, t.Watches i s g →
  (m = .advance i → ∀ g' ∈ ((t.step body marked g₀ m).ghosts.map Prod.snd)[i]?,
    (outline s.call).passes g g' t.world.db) ∧
    (m ≠ .advance i → (outline s.call).bears g t.world.db (t.step body marked g₀ m).world.db)

def Kept : Prop := ∀ i s, m = .advance i → t.world.sessions[i]? = some s → s.live = true → ∃ g, t.Watches i s g ∧
  (∀ s' ∈ (t.step body marked g₀ m).world.sessions[i]?, s'.live = true →
    (outline s.call).safe g t.world.db (s.pending t.world.db) (s'.pending (t.step body marked g₀ m).world.db)) ∧
  ∀ e, s.program = .throw e → (outline s.call).raises e

structure Outlined (db : σ) (s : Session σ ν ε α γ) (p : Marked G σ ν ε α) (g : G) : Prop where
  erase : p.erase = s.program
  inv : (outline s.call).inv g s.pending db
  meets : (outline s.call).Meets (fun _ _ => True) p g

structure Sound : Prop where
  length : t.ghosts.length = t.world.sessions.length
  outlined : ∀ (i : ℕ) s p g, t.world.sessions[i]? = some s → s.live = true → t.ghosts[i]? = some (p, g) →
    Outlined outline t.world.db s p g

variable {body marked g₀ outline t m}

omit [DecidableEq ν] in
lemma watches_of_ghost {i : ℕ} {s : Session σ ν ε α γ} {p : Marked G σ ν ε α} {g : G}
    (hs : t.world.sessions[i]? = some s) (hl : s.live = true) (hg : t.ghosts[i]? = some (p, g)) :
    t.Watches i s g :=
  ⟨hs, hl, by rw [List.getElem?_map, hg]; rfl⟩

omit [DecidableEq ν] in
lemma Sound.others {t' : Attended G σ ν ε α γ} (h : t.Sound outline) (hO : ∀ c, (outline c).Lawful)
    (hlength : t'.ghosts.length = t'.world.sessions.length)
    (hother : ∀ (j : ℕ) s p g, t'.world.sessions[j]? = some s → s.live = true → t'.ghosts[j]? = some (p, g) →
      Outlined outline t'.world.db s p g ∨ (t.world.sessions[j]? = some s ∧ t.ghosts[j]? = some (p, g) ∧
        (outline s.call).bears g t.world.db t'.world.db)) : t'.Sound outline := by
  refine ⟨hlength, fun j s p g hs hl hg => ?_⟩
  rcases hother j s p g hs hl hg with hnew | ⟨hs', hg', hbears⟩
  · exact hnew
  · obtain ⟨herase, hinv, hmeets⟩ := h.outlined j s p g hs' hl hg'
    exact ⟨herase, (hO _).stable _ _ _ _ hinv hbears, hmeets⟩

omit [DecidableEq ν] in
lemma Sound.replace {t' : Attended G σ ν ε α γ} {i : ℕ} {s' : Session σ ν ε α γ} {p' : Marked G σ ν ε α} {g' : G}
    (h : t.Sound outline) (hO : ∀ c, (outline c).Lawful) (hs : t'.world.sessions = t.world.sessions.set i s')
    (hg : t'.ghosts = t.ghosts.set i (p', g')) (hself : s'.live = true → Outlined outline t'.world.db s' p' g')
    (hother : ∀ j s g, j ≠ i → t.Watches j s g → (outline s.call).bears g t.world.db t'.world.db) :
    t'.Sound outline := by
  refine h.others hO (by rw [hs, hg, List.length_set, List.length_set, h.length]) fun j s p g hj hl hp => ?_
  by_cases he : i = j
  · subst he
    have hlt : i < t.world.sessions.length := by
      have := (List.getElem?_eq_some_iff.mp hj).1
      rwa [hs, List.length_set] at this
    rw [hs, List.getElem?_set_self hlt, Option.some.injEq] at hj
    rw [hg, List.getElem?_set_self (h.length ▸ hlt), Option.some.injEq, Prod.mk.injEq] at hp
    obtain ⟨rfl, rfl⟩ := hp
    subst hj
    exact Or.inl (hself hl)
  · rw [hs, List.getElem?_set_ne he] at hj
    rw [hg, List.getElem?_set_ne he] at hp
    exact Or.inr ⟨hj, hp, hother j s g (Ne.symm he) (watches_of_ghost hj hl hp)⟩

variable (body) in
lemma step_advance {i : ℕ} {s : Session σ ν ε α γ} (hs : t.world.sessions[i]? = some s) (hl : s.live = true) :
    t.world.step body (.advance i) = t.world.advance i s := by
  simp only [World.step, hs, hl, if_true]

lemma ghosts_advance {i : ℕ} {s : Session σ ν ε α γ} {p : Marked G σ ν ε α} {g : G}
    (hs : t.world.sessions[i]? = some s) (hl : s.live = true) (hg : t.ghosts[i]? = some (p, g)) :
    (t.step body marked g₀ (.advance i)).ghosts = t.ghosts.set i (follow t.world i s (p, g)) := by
  have hmodify : (t.step body marked g₀ (.advance i)).ghosts = t.ghosts.modify i (follow t.world i s) := by
    simp only [step, hs, hl, if_true]
  rw [hmodify]
  apply List.ext_getElem?
  intro j
  rw [List.getElem?_modify, List.getElem?_set]
  by_cases he : i = j
  · subst he
    rw [hg, if_pos rfl, if_pos (List.getElem?_eq_some_iff.mp hg).1]
    simp
  · rw [if_neg he]
    cases t.ghosts[j]? <;> simp [he]

section Advance

variable {i : ℕ} {s : Session σ ν ε α γ} {p : Marked G σ ν ε α} {g : G} (hO : ∀ c, (outline c).Lawful)
  (h : t.Sound outline) (hs : t.world.sessions[i]? = some s) (hl : s.live = true) (hg : t.ghosts[i]? = some (p, g))
  (hr : t.Respected body marked g₀ outline (.advance i))

include hO h hs hl hg hr

lemma Sound.advance : (t.step body marked g₀ (.advance i)).Sound outline ∧
    ∀ s' ∈ (t.step body marked g₀ (.advance i)).world.sessions[i]?, s'.live = true →
      (outline s.call).safe g t.world.db
      (s.pending t.world.db) (s'.pending (t.step body marked g₀ (.advance i)).world.db) := by
  obtain ⟨herase, hinv, hmeets⟩ := h.outlined i s p g hs hl hg
  have hworld : (t.step body marked g₀ (.advance i)).world = t.world.advance i s := step_advance body hs hl
  have hghosts : (t.step body marked g₀ (.advance i)).ghosts = t.ghosts.set i (follow t.world i s (p, g)) :=
    ghosts_advance hs hl hg
  have hlt := (List.getElem?_eq_some_iff.mp hs).1
  have hpasses : ∀ g', (follow t.world i s (p, g)).2 = g' → (outline s.call).passes g g' t.world.db := by
    rintro g' rfl
    refine (hr i s g (watches_of_ghost hs hl hg)).1 rfl _ ?_
    rw [hghosts, List.getElem?_map, List.getElem?_set_self (h.length ▸ hlt)]
    rfl
  have hother : ∀ j s' g', j ≠ i → t.Watches j s' g' → (outline s'.call).bears g' t.world.db
    (t.world.advance i s).db :=
    fun j s' g' hj hw => hworld ▸ (hr j s' g' hw).2 fun he => hj (Move.advance.inj he).symm
  -- what is left to say of the session that steps, once it is known what it becomes
  have hall : ∀ s₁, (t.world.advance i s).sessions = t.world.sessions.set i s₁ → (s₁.live = true →
      Outlined outline (t.world.advance i s).db s₁ (follow t.world i s (p, g)).1 (follow t.world i s (p, g)).2 ∧
        (outline s.call).safe g t.world.db (s.pending t.world.db) (s₁.pending (t.world.advance i s).db)) →
      (t.step body marked g₀ (.advance i)).Sound outline ∧
        ∀ s' ∈ (t.step body marked g₀ (.advance i)).world.sessions[i]?, s'.live = true → (outline s.call).safe g
          t.world.db (s.pending t.world.db) (s'.pending (t.step body marked g₀ (.advance i)).world.db) := by
    intro s₁ hsessions hself
    rw [hworld]
    refine ⟨h.replace hO (by rw [hworld]; exact hsessions) hghosts (fun h₁ => hworld ▸ (hself h₁).1)
      (hworld ▸ hother), fun s' hs' hl' => ?_⟩
    rw [hsessions, List.getElem?_set_self hlt] at hs'
    cases hs'
    exact (hself hl').2
  cases p with
  | pure a =>
    have hadvance : t.world.advance i s = (t.world.commit i s).close i s (.ok a) := by
      rw [World.advance, ← herase]
      rfl
    refine hall { s with held := [], live := false } (by rw [hadvance]; rfl) fun h₁ => ?_
    cases h₁
  | throw e =>
    have hadvance : t.world.advance i s = t.world.close i s (.error e) := by
      rw [World.advance, ← herase]
      rfl
    refine hall { s with held := [], live := false } (by rw [hadvance]; rfl) fun h₁ => ?_
    cases h₁
  | commit next =>
    have hadvance : t.world.advance i s = { t.world.commit i s with
        sessions := t.world.sessions.set i
          { s with program := next.erase, pending := fun base => base, held := [] } } := by
      rw [World.advance, ← herase]
      rfl
    rw [hadvance] at hall
    exact hall _ rfl fun _ => ⟨⟨rfl, hmeets.1 _ _ hinv, hmeets.2⟩, (hO _).still _ _ _⟩
  | statement locks write mark next =>
    have hadvance : t.world.advance i s = if (locks (t.world.view i s)).any (t.world.busy i) then t.world else
        { t.world with sessions := t.world.sessions.set i { s with
            program := (next (t.world.view i s)).erase
            pending := fun base => write (t.world.view i s) (s.pending base)
            held := locks (t.world.view i s) ++ s.held } } := by
      rw [World.advance, ← herase]
      rfl
    cases hb : (locks (t.world.view i s)).any (t.world.busy i) with
    | true =>
      rw [hb, if_pos rfl] at hadvance
      rw [hadvance] at hall
      refine hall s ?_ fun _ => ⟨?_, (hO _).still _ _ _⟩
      · obtain ⟨hi, rfl⟩ := List.getElem?_eq_some_iff.mp hs
        exact (List.set_getElem_self hi).symm
      · rw [follow, if_pos hb]
        exact ⟨herase, hinv, hmeets⟩
    | false =>
      rw [hb, if_neg Bool.false_ne_true] at hadvance
      rw [hadvance] at hall
      have hfollow : follow t.world i s (.statement locks write mark next, g) =
          (next (t.world.view i s), mark (t.world.view i s) g) := by
        rw [follow, if_neg (by simp [hb])]
      rw [hfollow] at hall hpasses
      obtain ⟨hsafe, hkeeps, hnext⟩ := hmeets s.pending t.world.db (t.world.busy i) hinv (hpasses _ rfl)
      exact hall _ rfl fun _ => ⟨⟨rfl, hkeeps, hnext⟩, hsafe⟩

end Advance

section Steps

variable (hO : ∀ c, (outline c).Lawful) (hr : t.Respected body marked g₀ outline m)

include hO

lemma Sound.crash {i : ℕ} (h : t.Sound outline) (hr : t.Respected body marked g₀ outline (.crash i)) :
    (t.step body marked g₀ (.crash i)).Sound outline := by
  have hbears : ∀ (j : ℕ) s p g, t.world.sessions[j]? = some s → s.live = true → t.ghosts[j]? = some (p, g) →
      (outline s.call).bears g t.world.db (t.step body marked g₀ (.crash i)).world.db := fun j s p g hs hl hg =>
    (hr j s g (watches_of_ghost hs hl hg)).2 fun he => by cases he
  have hsame : t.world.step body (.crash i) = t.world → (t.step body marked g₀ (.crash i)).Sound outline := by
    intro hw
    refine h.others hO (by rw [step_world, hw]; exact h.length) fun j s p g hj hl hg => ?_
    rw [step_world, hw] at hj
    exact Or.inr ⟨hj, hg, hbears j s p g hj hl hg⟩
  cases hs : t.world.sessions[i]? with
  | none => exact hsame (by simp only [World.step, hs])
  | some x =>
    cases hx : x.live with
    | false => exact hsame (by simp only [World.step, hs, hx, Bool.false_eq_true, if_false])
    | true =>
      have hw : (t.world.step body (.crash i)).sessions = t.world.sessions.set i
        { x with held := [], live := false } := by
        simp only [World.step, hs, hx, if_true]
      refine h.others hO (by rw [step_world, hw, List.length_set]; exact h.length) fun j s p g hj hl hg => ?_
      rw [step_world, hw] at hj
      by_cases he : i = j
      · subst he
        rw [List.getElem?_set_self (List.getElem?_eq_some_iff.mp hs).1] at hj
        cases hj
        cases hl
      · rw [List.getElem?_set_ne he] at hj
        exact Or.inr ⟨hj, hg, hbears j s p g hj hl hg⟩

lemma Sound.start {c : γ} (h : t.Sound outline) (hinv : ∀ db, (outline c).inv g₀ (fun base => base) db)
    (hmeets : (outline c).Meets (fun _ _ => True) (marked c) g₀) (herase : (marked c).erase = body c)
    (hr : t.Respected body marked g₀ outline (.start c)) : (t.step body marked g₀ (.start c)).Sound outline := by
  have hw : (t.world.step body (.start c)).sessions =
    t.world.sessions ++ [⟨c, body c, fun base => base, [], true⟩] := rfl
  have hg : (t.step body marked g₀ (.start c)).ghosts = t.ghosts ++ [(marked c, g₀)] := rfl
  refine h.others hO (by rw [step_world, hw, hg]; simp [h.length]) fun j s p g hj hl hp => ?_
  rw [step_world, hw] at hj
  rw [hg] at hp
  rcases Nat.lt_or_ge j t.world.sessions.length with hlt | hge
  · rw [List.getElem?_append_left hlt] at hj
    rw [List.getElem?_append_left (h.length ▸ hlt)] at hp
    exact Or.inr ⟨hj, hp, (hr j s g (watches_of_ghost hj hl hp)).2 fun he => by cases he⟩
  · rw [List.getElem?_append_right hge, List.getElem?_singleton] at hj
    rw [List.getElem?_append_right (h.length ▸ hge), List.getElem?_singleton, h.length] at hp
    split at hj
    · rename_i h0
      rw [if_pos h0] at hp
      cases hj
      cases hp
      exact Or.inl ⟨herase, hinv _, hmeets⟩
    · cases hj

variable (hinv : ∀ c db, (outline c).inv g₀ (fun base => base) db)
  (hmeets : ∀ c, (outline c).Meets (fun _ _ => True) (marked c) g₀) (herase : ∀ c, (marked c).erase = body c)

include hinv hmeets herase

lemma Sound.step (h : t.Sound outline) (hr : t.Respected body marked g₀ outline m) :
    (t.step body marked g₀ m).Sound outline ∧ t.Kept body marked g₀ outline m := by
  cases m with
  | start c => exact ⟨h.start hO (hinv c) (hmeets c) (herase c) hr, fun _ _ he => by cases he⟩
  | crash i => exact ⟨h.crash hO hr, fun _ _ he => by cases he⟩
  | advance i =>
    by_cases hl : ∃ s, t.world.sessions[i]? = some s ∧ s.live = true
    · obtain ⟨s, hs, hl⟩ := hl
      obtain ⟨⟨p, g⟩, hg⟩ : ∃ x, t.ghosts[i]? = some x :=
        ⟨_, List.getElem?_eq_getElem (h.length ▸ (List.getElem?_eq_some_iff.mp hs).1)⟩
      obtain ⟨hsound, hsafe⟩ := h.advance hO hs hl hg hr
      refine ⟨hsound, fun j s' he hs' _ => ?_⟩
      cases he
      cases hs.symm.trans hs'
      obtain ⟨herase', -, hmeets'⟩ := h.outlined i s p g hs hl hg
      refine ⟨g, watches_of_ghost hs hl hg, hsafe, fun e he => ?_⟩
      rw [he] at herase'
      cases p with
      | throw e' =>
        cases herase'
        exact hmeets'
      | pure | statement | commit => cases herase'
    · obtain ⟨hw, hg⟩ : t.world.step body (.advance i) = t.world ∧
          (t.step body marked g₀ (.advance i)).ghosts = t.ghosts := by
        cases hs : t.world.sessions[i]? with
        | none => simp only [Attended.step, World.step, hs, and_self]
        | some x =>
          have hx : x.live = false := by
            rw [Bool.eq_false_iff]
            exact fun hx => hl ⟨x, hs, hx⟩
          simp only [Attended.step, World.step, hs, hx, Bool.false_eq_true, if_false, and_self]
      refine ⟨h.others hO (by rw [step_world, hw, hg]; exact h.length) fun j s p g hj hlive hp => ?_,
        fun j s he hj hlive => ?_⟩
      · rw [step_world, hw] at hj
        rw [hg] at hp
        refine Or.inr ⟨hj, hp, (hr j s g (watches_of_ghost hj hlive hp)).2 fun he => ?_⟩
        cases he
        exact hl ⟨s, hj, hlive⟩
      · cases he
        exact absurd ⟨s, hj, hlive⟩ hl

theorem respected_keeps {db : σ} {moves : List (Move γ)}
    (h : Transition.Along (step body marked g₀) (fun t m => t.Respected body marked g₀ outline m)
      (initial db) moves) :
    Transition.Along (step body marked g₀) (fun t m => t.Kept body marked g₀ outline m) (initial db) moves :=
  have hinitial : Sound outline (initial db : Attended G σ ν ε α γ) := ⟨rfl, fun i s p g hs => by cases hs⟩
  h.achieves hinitial fun _ _ hs hr => hs.step hO hinv hmeets herase hr

omit hO hinv hmeets herase in
theorem kept_raises {db : σ} {moves : List (Move γ)}
    (h : Transition.Along (step body marked g₀) (fun t m => t.Kept body marked g₀ outline m) (initial db) moves) :
    ∀ id c e, Record.finished id c (.error e) ∈
      (Transition.exec (step body marked g₀) (initial db) moves).world.history → (outline c).raises e := by
  refine h.invariant (fun t => ∀ id c e, Record.finished id c (.error e) ∈ t.world.history → (outline c).raises e)
    (fun _ _ _ hm => absurd hm List.not_mem_nil) fun t m ht hk id c e hm => ?_
  rcases World.finished_step hm with hm | ⟨s, rfl, hs, hl, rfl, hp⟩
  · exact ht id c e hm
  · obtain ⟨-, -, -, hraises⟩ := hk id s rfl hs hl
    exact hraises e hp

end Steps

end Outlined

end Attended

end ChatCore.Relational
