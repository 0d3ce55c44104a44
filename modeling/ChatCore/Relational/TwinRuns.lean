import ChatCore.Relational.Twins

/-! The interleavings of programs that tell no hidden rows: two worlds that look alike go on looking alike. -/

namespace ChatCore.Relational

variable {σ ν ε α γ : Type} {R : σ → σ → Prop} {Q : α → α → Prop}

structure Session.Twins (R : σ → σ → Prop) (Q : α → α → Prop) (s s' : Session σ ν ε α γ) : Prop where
  call : s.call = s'.call
  program : s.program.Twins R Q s'.program
  pending : ∀ base base', R base base' → R (s.pending base) (s'.pending base')
  held : s.held = s'.held
  live : s.live = s'.live

inductive Record.Twins (R : σ → σ → Prop) (Q : α → α → Prop) : Record σ ε α γ → Record σ ε α γ → Prop
  | committed (id : ℕ) (call : γ) {before before' after after' : σ} (hbefore : R before before')
      (hafter : R after after') : Twins R Q (.committed id call before after) (.committed id call before' after')
  | finished (id : ℕ) (call : γ) {a a' : α} (h : Q a a') : Twins R Q (.finished id call (.ok a))
      (.finished id call (.ok a'))
  | failed (id : ℕ) (call : γ) (e : ε) : Twins R Q (.finished id call (.error e)) (.finished id call (.error e))

structure World.Twins (R : σ → σ → Prop) (Q : α → α → Prop) (w w' : World σ ν ε α γ) : Prop where
  db : R w.db w'.db
  sessions : List.Forall₂ (Session.Twins R Q) w.sessions w'.sessions
  history : List.Forall₂ (Record.Twins R Q) w.history w'.history

lemma forall₂_set {ρ : Type} {S : ρ → ρ → Prop} {rows rows' : List ρ} (h : List.Forall₂ S rows rows') {r r' : ρ}
    (hr : S r r') (i : ℕ) : List.Forall₂ S (rows.set i r) (rows'.set i r') := by
  induction h generalizing i with
  | nil => exact .nil
  | cons hs h ih => cases i with
    | zero => exact .cons hr h
    | succ i => exact .cons hs (ih i)

lemma forall₂_eraseIdx {ρ : Type} {S : ρ → ρ → Prop} {rows rows' : List ρ}
    (h : List.Forall₂ S rows rows') (i : ℕ) :
    List.Forall₂ S (rows.eraseIdx i) (rows'.eraseIdx i) := by
  induction h generalizing i with
  | nil => exact .nil
  | cons hs h ih => cases i with
    | zero => exact h
    | succ i => exact .cons hs (ih i)

lemma forall₂_append {ρ : Type} {S : ρ → ρ → Prop} {rows rows' more more' : List ρ} (h : List.Forall₂ S rows rows')
    (hmore : List.Forall₂ S more more') : List.Forall₂ S (rows ++ more) (rows' ++ more') := by
  induction h with
  | nil => exact hmore
  | cons hs h ih => exact .cons hs ih

lemma forall₂_getElem? {ρ : Type} {S : ρ → ρ → Prop} {rows rows' : List ρ}
    (h : List.Forall₂ S rows rows') (i : ℕ) :
    (rows[i]? = none ∧ rows'[i]? = none) ∨ ∃ r r', rows[i]? = some r ∧ rows'[i]? = some r' ∧ S r r' := by
  induction h generalizing i with
  | nil => exact Or.inl ⟨rfl, rfl⟩
  | cons hs h ih => cases i with
    | zero => exact Or.inr ⟨_, _, rfl, rfl, hs⟩
    | succ i => exact ih i

namespace World.Twins

variable [DecidableEq ν] {w w' : World σ ν ε α γ} {s s' : Session σ ν ε α γ}

lemma busy (h : w.Twins R Q w') (id : ℕ) : w.busy id = w'.busy id := by
  funext l
  have hany : ∀ {rows rows' : List (Session σ ν ε α γ)}, List.Forall₂ (Session.Twins R Q) rows rows' →
      rows.any (blocks l) = rows'.any (blocks l) := by
    intro rows rows' hrows
    induction hrows with
    | nil => rfl
    | cons hs _ ih => rw [List.any_cons, List.any_cons, ih, blocks, blocks, hs.live, hs.held]
  exact hany (forall₂_eraseIdx h.sessions id)

lemma view (h : w.Twins R Q w') (hs : s.Twins R Q s') (id : ℕ) : (w.view id s).Agree R (w'.view id s') :=
  ⟨hs.pending _ _ h.db, h.busy id⟩

omit [DecidableEq ν] in
lemma commit (h : w.Twins R Q w') (hs : s.Twins R Q s') (id : ℕ) :
    (w.commit id s).Twins R Q (w'.commit id s') where
  db := hs.pending _ _ h.db
  sessions := h.sessions
  history := by
    have hrecord := Record.Twins.committed (ε := ε) (Q := Q) id s.call h.db (hs.pending _ _ h.db)
    unfold World.commit
    rw [← hs.call]
    exact forall₂_append h.history (.cons hrecord .nil)

omit [DecidableEq ν] in
lemma close (h : w.Twins R Q w') (hs : s.Twins R Q s') (id : ℕ) {result result' : Except ε α}
    (hresult : ∀ call : γ, Record.Twins R Q (.finished id call result) (.finished id call result')) :
    (w.close id s result).Twins R Q (w'.close id s' result') where
  db := h.db
  sessions := by
    unfold World.close
    refine forall₂_set h.sessions ?_ id
    exact ⟨hs.call, hs.program, hs.pending, rfl, rfl⟩
  history := by
    unfold World.close
    rw [← hs.call]
    exact forall₂_append h.history (.cons (hresult _) .nil)

lemma advance (h : w.Twins R Q w') (hs : s.Twins R Q s') (id : ℕ) :
    (w.advance id s).Twins R Q (w'.advance id s') := by
  have hprogram := hs.program
  unfold World.advance
  generalize hp : s.program = program at hprogram
  generalize hp' : s'.program = program' at hprogram
  cases hprogram with
  | pure ha => exact (h.commit hs id).close hs id fun call => .finished id call ha
  | throw e => exact h.close hs id fun call => .failed id call e
  | commit hnext =>
    refine ⟨(h.commit hs id).db, forall₂_set h.sessions ?_ id, (h.commit hs id).history⟩
    exact ⟨hs.call, hnext, fun _ _ hb => hb, rfl, hs.live⟩
  | statement hlocks hwrite hnext =>
    have hview := h.view hs id
    dsimp only
    rw [hlocks _ _ hview, h.busy id]
    split
    · exact h
    · refine ⟨h.db, forall₂_set h.sessions ?_ id, h.history⟩
      refine ⟨hs.call, hnext _ _ hview, fun base base' hb => ?_, ?_, hs.live⟩
      · exact hwrite _ _ hview _ _ (hs.pending _ _ hb)
      · rw [hs.held]

variable {body : γ → Program σ ν ε α}

lemma step (h : w.Twins R Q w') (m : Move γ)
    (hbody : ∀ call, m = .start call → (body call).Twins R Q (body call)) :
    (w.step body m).Twins R Q (w'.step body m) := by
  cases m with
  | start call =>
    refine { h with
      sessions := forall₂_append h.sessions (.cons ⟨rfl, hbody call rfl, fun _ _ hb => hb, rfl, rfl⟩ .nil) }
  | advance id =>
    simp only [World.step]
    rcases forall₂_getElem? h.sessions id with ⟨hs, hs'⟩ | ⟨s, s', hs, hs', htwins⟩
    · rw [hs, hs']
      exact h
    · rw [hs, hs']
      dsimp only
      rw [← htwins.live]
      split
      · exact h.advance htwins id
      · exact h
  | crash id =>
    simp only [World.step]
    rcases forall₂_getElem? h.sessions id with ⟨hs, hs'⟩ | ⟨s, s', hs, hs', htwins⟩
    · rw [hs, hs']
      exact h
    · rw [hs, hs']
      dsimp only
      rw [← htwins.live]
      split
      · refine ⟨h.db, forall₂_set h.sessions ?_ id, h.history⟩
        exact ⟨htwins.call, htwins.program, htwins.pending, rfl, rfl⟩
      · exact h

theorem exec (h : w.Twins R Q w') (moves : List (Move γ))
    (hbody : ∀ call, .start call ∈ moves → (body call).Twins R Q (body call)) :
    (w.exec body moves).Twins R Q (w'.exec body moves) := by
  induction moves generalizing w w' with
  | nil => exact h
  | cons m moves ih =>
    refine ih (h.step m fun call hm => hbody call ?_) fun call hcall => hbody call (List.mem_cons_of_mem _ hcall)
    exact hm ▸ List.mem_cons_self ..

theorem exec_initial {db db' : σ} (h : R db db') (moves : List (Move γ))
    (hbody : ∀ call, .start call ∈ moves → (body call).Twins R Q (body call)) :
    ((initial db).exec body moves).Twins R Q ((initial db').exec body moves) :=
  exec ⟨h, .nil, .nil⟩ moves hbody

end World.Twins

end ChatCore.Relational
