import ChatCore.Relational.Statements

/-! Any number of database programs interleaved at READ COMMITTED: a statement sees the committed
rows and its own transaction's writes, waits for the locks it takes, and a commit releases them. -/

namespace ChatCore.Relational

structure Session (σ ν ε α γ : Type) where
  call : γ
  program : Program σ ν ε α
  pending : σ → σ
  held : List (Lock ν)
  live : Bool

/-- What is remembered of a session, the `id`th to start: its commits and its result. -/
inductive Record (σ ε α γ : Type)
  | committed (id : ℕ) (call : γ) (before after : σ)
  | finished (id : ℕ) (call : γ) (result : Except ε α)

def Record.id {σ ε α γ : Type} : Record σ ε α γ → ℕ
  | .committed id .. | .finished id .. => id

structure World (σ ν ε α γ : Type) where
  db : σ
  sessions : List (Session σ ν ε α γ)
  history : List (Record σ ε α γ)

inductive Move (γ : Type)
  | start (call : γ)
  | advance (id : ℕ)
  | crash (id : ℕ)

namespace World

variable {σ ν ε α γ : Type}

section Steps

variable [DecidableEq ν]

def blocks (l : Lock ν) (s : Session σ ν ε α γ) : Bool := s.live && s.held.any (fun h => h.conflicts l)

def busy (w : World σ ν ε α γ) (id : ℕ) (l : Lock ν) : Bool :=
  (w.sessions.eraseIdx id).any (blocks l)

def view (w : World σ ν ε α γ) (id : ℕ) (s : Session σ ν ε α γ) : View σ ν :=
  ⟨s.pending w.db, w.busy id⟩

def commit (w : World σ ν ε α γ) (id : ℕ) (s : Session σ ν ε α γ) : World σ ν ε α γ :=
  { w with db := s.pending w.db, history := w.history ++ [.committed id s.call w.db (s.pending w.db)] }

def close (w : World σ ν ε α γ) (id : ℕ) (s : Session σ ν ε α γ) (result : Except ε α) : World σ ν ε α γ :=
  { w with
    sessions := w.sessions.set id { s with held := [], live := false }
    history := w.history ++ [.finished id s.call result] }

def advance (w : World σ ν ε α γ) (id : ℕ) (s : Session σ ν ε α γ) : World σ ν ε α γ :=
  match s.program with
  | .pure a => (w.commit id s).close id s (.ok a)
  | .throw e => w.close id s (.error e)
  | .commit next => { w.commit id s with
      sessions := w.sessions.set id { s with program := next, pending := fun base => base, held := [] } }
  | .statement locks write next =>
      if (locks (w.view id s)).any (w.busy id) then w
      else { w with sessions := w.sessions.set id { s with
              program := next (w.view id s)
              pending := fun base => write (w.view id s) (s.pending base)
              held := locks (w.view id s) ++ s.held } }

variable (body : γ → Program σ ν ε α)

def step (w : World σ ν ε α γ) : Move γ → World σ ν ε α γ
  | .start call => { w with sessions := w.sessions ++ [⟨call, body call, fun base => base, [], true⟩] }
  | .advance id => match w.sessions[id]? with
      | some s => if s.live then w.advance id s else w
      | none => w
  | .crash id => match w.sessions[id]? with
      | some s =>
          if s.live then { w with sessions := w.sessions.set id { s with held := [], live := false } } else w
      | none => w

def exec (w : World σ ν ε α γ) (moves : List (Move γ)) : World σ ν ε α γ := moves.foldl (step body) w

def initial (db : σ) : World σ ν ε α γ := ⟨db, [], []⟩

end Steps

end World

def Leads {σ ε α γ : Type} : σ → List (Record σ ε α γ) → σ → Prop
  | start, [], final => start = final
  | start, .committed _ _ before after :: rest, final => before = start ∧ Leads after rest final
  | start, .finished _ _ _ :: rest, final => Leads start rest final

namespace Leads

variable {σ ε α γ : Type}

lemma append {start middle final : σ} {h h' : List (Record σ ε α γ)} (hl : Leads start h middle)
    (hr : Leads middle h' final) : Leads start (h ++ h') final := by
  induction h generalizing start with
  | nil => cases hl; exact hr
  | cons r h ih => cases r with
    | committed id call before after => exact ⟨hl.1, ih hl.2⟩
    | finished id call result => exact ih hl

lemma split {start final : σ} {h h' : List (Record σ ε α γ)} (hl : Leads start (h ++ h') final) :
    ∃ middle, Leads start h middle ∧ Leads middle h' final := by
  induction h generalizing start with
  | nil => exact ⟨start, rfl, hl⟩
  | cons r h ih => cases r with
    | committed id call before after =>
      obtain ⟨m, h₁, h₂⟩ := ih hl.2
      exact ⟨m, ⟨hl.1, h₁⟩, h₂⟩
    | finished id call result => exact ih hl

lemma committed (id : ℕ) (call : γ) (before after : σ) :
    Leads before [(Record.committed id call before after : Record σ ε α γ)] after := ⟨rfl, rfl⟩

lemma finished (id : ℕ) (call : γ) (result : Except ε α) (db : σ) :
    Leads db [Record.finished id call result] db := rfl

lemma preserves {start final : σ} {h : List (Record σ ε α γ)} (hl : Leads start h final) {I : σ → Prop}
    (hI : I start) (hstep : ∀ id call before after, Record.committed id call before after ∈ h →
      I before → I after) : I final := by
  induction h generalizing start with
  | nil => cases hl; exact hI
  | cons r h ih => cases r with
    | committed id call before after =>
      obtain ⟨rfl, hl⟩ := hl
      exact ih hl (hstep id call _ _ (List.mem_cons_self ..) hI)
        fun i c b a hm => hstep i c b a (List.mem_cons_of_mem _ hm)
    | finished id call result =>
      exact ih hl hI fun i c b a hm => hstep i c b a (List.mem_cons_of_mem _ hm)

lemma introduced {start final : σ} {h : List (Record σ ε α γ)} (hl : Leads start h final) {I : σ → Prop}
    (hI : I final) : (I start ∧ ∀ id call before after, Record.committed id call before after ∈ h → I after) ∨
      ∃ h₁ id call before after h₂, h = h₁ ++ Record.committed id call before after :: h₂ ∧ ¬ I before ∧ I after ∧
        ∀ i c b a, Record.committed i c b a ∈ h₂ → I a := by
  induction h generalizing start with
  | nil =>
    cases hl
    exact Or.inl ⟨hI, fun _ _ _ _ hm => nomatch hm⟩
  | cons r h ih => cases r with
    | committed id call before after =>
      obtain ⟨rfl, hl⟩ := hl
      rcases ih hl with ⟨ha, hall⟩ | ⟨h₁, i, c, b, a, h₂, rfl, hb, ha, hall⟩
      · by_cases hb : I before
        · refine Or.inl ⟨hb, fun i c b a hm => ?_⟩
          rcases List.mem_cons.mp hm with he | hm
          · cases he
            exact ha
          · exact hall i c b a hm
        · exact Or.inr ⟨[], id, call, before, after, h, rfl, hb, ha, hall⟩
      · exact Or.inr ⟨_ :: h₁, i, c, b, a, h₂, rfl, hb, ha, hall⟩
    | finished id call result =>
      rcases ih hl with ⟨hs, hall⟩ | ⟨h₁, i, c, b, a, h₂, rfl, hb, ha, hall⟩
      · refine Or.inl ⟨hs, fun i c b a hm => ?_⟩
        rcases List.mem_cons.mp hm with he | hm
        · cases he
        · exact hall i c b a hm
      · exact Or.inr ⟨_ :: h₁, i, c, b, a, h₂, rfl, hb, ha, hall⟩

end Leads

namespace World

variable {σ ν ε α γ : Type} [DecidableEq ν] (body : γ → Program σ ν ε α)

lemma step_history (w : World σ ν ε α γ) (m : Move γ) :
    ∃ new, (w.step body m).history = w.history ++ new ∧ Leads w.db new (w.step body m).db := by
  cases m with
  | start call => exact ⟨[], (List.append_nil _).symm, rfl⟩
  | crash id =>
    refine ⟨[], ?_, ?_⟩ <;> simp only [step] <;> split <;> (try split) <;> simp [Leads]
  | advance id =>
    simp only [step]
    split
    · rename_i s hs
      split
      · unfold advance
        cases s.program with
        | pure a => exact ⟨[.committed id s.call w.db (s.pending w.db), .finished id s.call (.ok a)],
            by simp [close, commit], rfl, rfl⟩
        | throw e => exact ⟨[.finished id s.call (.error e)], rfl, rfl⟩
        | commit next => exact ⟨[.committed id s.call w.db (s.pending w.db)], rfl, rfl, rfl⟩
        | statement locks write next =>
          dsimp only
          split <;> exact ⟨[], (List.append_nil _).symm, rfl⟩
      · exact ⟨[], (List.append_nil _).symm, rfl⟩
    · exact ⟨[], (List.append_nil _).symm, rfl⟩

theorem exec_leads (db : σ) (moves : List (Move γ)) :
    Leads db ((initial db : World σ ν ε α γ).exec body moves).history ((initial db).exec body moves).db := by
  have hall : ∀ (w : World σ ν ε α γ), Leads db w.history w.db →
      Leads db (w.exec body moves).history (w.exec body moves).db := by
    induction moves with
    | nil => exact fun w hw => hw
    | cons m moves ih =>
      intro w hw
      obtain ⟨new, hh, hl⟩ := w.step_history body m
      exact ih _ (hh ▸ hw.append hl)
  exact hall _ rfl

variable {body} {w : World σ ν ε α γ} {m : Move γ}

lemma finished_step {id : ℕ} {c : γ} {result : Except ε α}
    (h : Record.finished id c result ∈ (w.step body m).history) : Record.finished id c result ∈ w.history ∨
      ∃ s, m = .advance id ∧ w.sessions[id]? = some s ∧ s.live = true ∧ s.call = c ∧
        s.program = match result with
          | .ok a => .pure a
          | .error e => .throw e := by
  cases m with
  | start => exact Or.inl h
  | crash i =>
    have hsame : (w.step body (.crash i)).history = w.history := by
      simp only [step]
      split
      · split <;> rfl
      · rfl
    exact Or.inl (hsame ▸ h)
  | advance i =>
    cases hs : w.sessions[i]? with
    | none =>
      simp only [step, hs] at h
      exact Or.inl h
    | some s =>
      cases hl : s.live with
      | false =>
        simp only [step, hs, hl, Bool.false_eq_true, if_false] at h
        exact Or.inl h
      | true =>
        simp only [step, hs, hl, if_true, advance] at h
        cases hp : s.program with
        | pure a =>
          rw [hp] at h
          simp only [close, commit, List.mem_append, List.mem_singleton] at h
          rcases h with (h | h) | h
          · exact Or.inl h
          · cases h
          · cases h
            exact Or.inr ⟨s, rfl, hs, hl, rfl, hp⟩
        | throw e' =>
          rw [hp] at h
          simp only [close, List.mem_append, List.mem_singleton] at h
          rcases h with h | h
          · exact Or.inl h
          · cases h
            exact Or.inr ⟨s, rfl, hs, hl, rfl, hp⟩
        | commit next =>
          rw [hp] at h
          simp only [commit, List.mem_append, List.mem_singleton] at h
          rcases h with h | h
          · exact Or.inl h
          · cases h
        | statement locks write next =>
          rw [hp] at h
          dsimp only at h
          split at h <;> exact Or.inl h

lemma session_step {id : ℕ} {s' : Session σ ν ε α γ} (h : (w.step body m).sessions[id]? = some s')
    (hl : s'.live = true) :
    (∃ c, m = .start c ∧ s' = ⟨c, body c, fun base => base, [], true⟩) ∨
      ∃ s, w.sessions[id]? = some s ∧ s.live = true ∧
        (s' = s ∨ m = .advance id ∧ (w.advance id s).sessions[id]? = some s') := by
  have hset : ∀ i x, (w.sessions.set i x)[id]? = some s' → x.live = false ∨ i ≠ id →
    w.sessions[id]? = some s' := by
    intro i x hx hdead
    by_cases he : i = id
    · subst he
      have hlt : i < w.sessions.length := by
        have := (List.getElem?_eq_some_iff.mp hx).1
        rwa [List.length_set] at this
      rw [List.getElem?_set_self hlt] at hx
      cases hx
      rcases hdead with hdead | hne
      · rw [hl] at hdead
        cases hdead
      · exact absurd rfl hne
    · rwa [List.getElem?_set_ne he] at hx
  cases m with
  | start c =>
    simp only [step] at h
    rcases Nat.lt_or_ge id w.sessions.length with hlt | hge
    · rw [List.getElem?_append_left hlt] at h
      exact Or.inr ⟨s', h, hl, Or.inl rfl⟩
    · rw [List.getElem?_append_right hge, List.getElem?_singleton] at h
      split at h
      · cases h
        exact Or.inl ⟨c, rfl, rfl⟩
      · cases h
  | crash i =>
    refine Or.inr ⟨s', ?_, hl, Or.inl rfl⟩
    simp only [step] at h
    split at h
    · split at h
      · exact hset _ _ h (Or.inl rfl)
      · exact h
    · exact h
  | advance i =>
    simp only [step] at h
    split at h
    · rename_i s hs
      split at h
      · rename_i hlive
        by_cases he : i = id
        · subst he
          exact Or.inr ⟨s, hs, hlive, Or.inr ⟨rfl, h⟩⟩
        · refine Or.inr ⟨s', ?_, hl, Or.inl rfl⟩
          unfold advance at h
          cases hp : s.program with
          | pure | throw | commit =>
            rw [hp] at h
            exact hset _ _ h (Or.inr he)
          | statement locks write next =>
            rw [hp] at h
            dsimp only at h
            split at h
            · exact h
            · exact hset _ _ h (Or.inr he)
      · exact Or.inr ⟨s', h, hl, Or.inl rfl⟩
    · exact Or.inr ⟨s', h, hl, Or.inl rfl⟩

end World

end ChatCore.Relational
