import ChatCore.Relational.Rules

/-! The rules that show a program safe, one for each statement it may start with. -/

namespace ChatCore.Relational

open Program

variable {σ ν ε α β γ ρ κ C : Type} {key : ρ → κ}

def Program.Returns (Q : α → Prop) : Program σ ν ε α → Prop
  | .pure a => Q a
  | .throw _ => True
  | .commit next => Returns Q next
  | .statement _ _ next => ∀ v, Returns Q (next v)

lemma Program.Returns.bind {R : α → Prop} {Q : β → Prop} {p : Program σ ν ε α} {f : α → Program σ ν ε β}
    (hp : p.Returns R) (hf : ∀ a, R a → (f a).Returns Q) : (p >>= f).Returns Q := by
  change (Program.bind p f).Returns Q
  induction p with
  | pure a => exact hf a hp
  | throw e => trivial
  | commit next ih => exact ih hp
  | statement locks write next ih => exact fun v => ih v (hp v)

lemma Program.returns_true (p : Program σ ν ε α) : p.Returns fun _ => True := by
  induction p with
  | pure | throw => trivial
  | commit next ih => exact ih
  | statement locks write next ih => exact fun v => ih v

lemma Program.returns_select {Q : α → Prop} {query : σ → α} (h : ∀ db, Q (query db)) :
    (select query : Program σ ν ε α).Returns Q := fun v => h v.rows

namespace Discipline

variable (D : Discipline σ ν ε α γ C) {id : ℕ} {call : γ} {pending : σ → σ} {held : List (Lock ν)}
  {P : Store σ ε α γ → Prop}

def Abortable (id : ℕ) (call : γ) (P : Store σ ε α γ → Prop) (e : ε) : Prop :=
  ∀ s, D.Holds s → P s → D.good s.2 (.finished id call (.error e))

variable {D}

lemma Stable.mono {held' : List (Lock ν)} (h : D.Stable id held P) (hs : held ⊆ held') : D.Stable id held' P :=
  fun s s' hi => h s s' ⟨hi.before, hi.after, hi.record, fun l hl => hi.cell l (hs hl)⟩

lemma Stable.and {Q : Store σ ε α γ → Prop} (h : D.Stable id held P) (h' : D.Stable id held Q) :
    D.Stable id held fun s => P s ∧ Q s := fun s s' hi hs => ⟨h s s' hi hs.1, h' s s' hi hs.2⟩

lemma stable_true : D.Stable id held fun _ => True := fun _ _ _ _ => trivial

lemma stable_cell {l : Lock ν} (hl : l ∈ held) (hx : l.exclusive) (Q : C → Prop) :
    D.Stable id held fun s => Q (D.cell l.target s.1) := by
  intro s s' hi hs
  have hcell := hi.cell l hl hx
  rwa [hcell]

lemma stable_mem {r : Record σ ε α γ} : D.Stable id held fun s => r ∈ s.2 := by
  intro s s' hi hs
  obtain ⟨q, hq, -⟩ := hi.record
  rw [hq]
  exact List.mem_append_left _ hs

lemma Safe.weaken {p : Program σ ν ε α} {P' : Store σ ε α γ → Prop} (h : D.Safe id call p pending held P')
    (hst : D.Stable id held P) (hP : ∀ s, P s → P' s) : D.Safe id call p pending held P := by
  cases p with
  | pure a => exact ⟨hst, fun s hs hp => h.2 s hs (hP s hp)⟩
  | throw e => exact ⟨hst, fun s hs hp => h.2 s hs (hP s hp)⟩
  | commit next => exact ⟨hst, fun s hs hp => h.2 s hs (hP s hp)⟩
  | statement locks write next => exact ⟨hst, fun s busy hs hp => h.2 s busy hs (hP s hp)⟩

lemma safe_throw {e : ε} (hst : D.Stable id held P) (h : D.Abortable id call P e) :
    D.Safe id call (.throw e) pending held P := ⟨hst, h⟩

variable {k : β → Program σ ν ε α}

lemma safe_select {query : σ → β} (hst : D.Stable id held P) (h : ∀ s, D.Holds s → P s →
    ∃ P' : Store σ ε α γ → Prop, P' s ∧ D.Safe id call (k (query (pending s.1))) pending held P') :
    D.Safe id call (select query >>= k) pending held P :=
  ⟨hst, fun s _ hs hp _ => h s hs hp⟩

lemma safe_lock {locks : σ → List (Lock ν)} {k : Unit → Program σ ν ε α} (hst : D.Stable id held P)
    (h : ∀ s, D.Holds s → P s → ∃ P' : Store σ ε α γ → Prop, P' s ∧
      D.Safe id call (k ()) pending (locks (pending s.1) ++ held) P') :
    D.Safe id call (lock locks >>= k) pending held P :=
  ⟨hst, fun s _ hs hp _ => h s hs hp⟩

lemma safe_commitNow {k : Unit → Program σ ν ε α} (hst : D.Stable id held P) (h : ∀ s, D.Holds s → P s →
    D.inv (pending s.1) ∧ D.good s.2 (.committed id call s.1 (pending s.1)) ∧
      ∃ P' : Store σ ε α γ → Prop, P' (pending s.1, s.2 ++ [.committed id call s.1 (pending s.1)]) ∧
        D.Safe id call (k ()) (fun base => base) [] P') :
    D.Safe id call (commitNow >>= k) pending held P := ⟨hst, h⟩

lemma safe_of_reads {Q : α → Prop} {E : ε → Prop} {p : Program σ ν ε α} (hp : p.Keeps Eq) (hs : p.Single)
    (hQ : p.Returns Q) (hE : p.Raises E) (hst : D.Stable id [] P)
    (hcommit : ∀ s, D.Holds s → P s → D.good s.2 (.committed id call s.1 s.1))
    (hok : ∀ s a, D.Holds s → P s → Q a →
      D.good (s.2 ++ [.committed id call s.1 s.1]) (.finished id call (.ok a)))
    (herror : ∀ e, E e → D.Abortable id call P e) : D.Safe id call p (fun base => base) held P := by
  have hall : ∀ pending : σ → σ, (∀ base, base = pending base) → D.Safe id call p pending held P := by
    induction p generalizing held with
    | pure a =>
      intro pending hpending
      refine ⟨hst.mono (List.nil_subset _), fun s hh hP => ?_⟩
      rw [← hpending s.1]
      exact ⟨hh.inv, hcommit s hh hP, hok s a hh hP hQ⟩
    | throw e => exact fun _ _ => ⟨hst.mono (List.nil_subset _), herror e hE⟩
    | commit next ih => exact hs.elim
    | statement locks write next ih =>
      intro pending hpending
      refine ⟨hst.mono (List.nil_subset _), fun s busy hh hP _ => ⟨P, hP, ?_⟩⟩
      exact ih _ (hp _).2 (hs _) (hQ _) (hE _) _ fun base => ((hpending base).trans ((hp _).1 _))
  exact hall _ fun _ => rfl

lemma safe_reads_bind {E : ε → Prop} {p : Program σ ν ε β} (hp : p.Keeps Eq) (hs : p.Single) (hE : p.Raises E)
    (hst : D.Stable id held P) (habort : ∀ e, E e → D.Abortable id call P e)
    (h : ∀ b held', held ⊆ held' → D.Safe id call (k b) (fun base => base) held' P) :
    D.Safe id call (p >>= k) (fun base => base) held P := by
  change D.Safe id call (Program.bind p k) _ _ _
  induction p generalizing held with
  | pure b => exact h b held (List.Subset.refl _)
  | throw e => exact safe_throw hst (habort e hE)
  | commit next ih => exact hs.elim
  | statement locks write next ih =>
    refine ⟨hst, fun s busy _ hP _ => ⟨P, hP, ?_⟩⟩
    have hsame : (fun base => write ⟨s.1, busy⟩ base) = fun base => base := funext fun base => ((hp _).1 base).symm
    rw [hsame]
    exact ih _ (hp _).2 (hs _) (hE _) (hst.mono (List.subset_append_right _ _)) fun b held' hsub =>
      h b held' (List.Subset.trans (List.subset_append_right _ _) hsub)

lemma safe_of_keeps_after {K : σ → σ → Prop} {E : ε → Prop} (hid : ∀ a, K a a)
    (htrans : ∀ a b c, K a b → K b c → K a c) (hinv : ∀ a b, K a b → D.inv a → D.inv b)
    (hcommit : ∀ h a b, D.inv a → K a b → D.good h (.committed id call a b))
    (hok : ∀ h a, D.good h (.finished id call (.ok a)))
    (herror : ∀ h e, E e → D.good h (.finished id call (.error e))) {p : Program σ ν ε α} (hp : p.Keeps K)
    (hE : p.Raises E) (hst : D.Stable id held P) (hP : ∀ s c, D.Holds s → P s → K (pending s.1) c →
      D.inv c ∧ D.good s.2 (.committed id call s.1 c)) : D.Safe id call p pending held P := by
  induction p generalizing pending held with
  | pure a => exact ⟨hst, fun s hs hs' => ⟨(hP s _ hs hs' (hid _)).1, (hP s _ hs hs' (hid _)).2, hok _ _⟩⟩
  | throw e => exact ⟨hst, fun s _ _ => herror _ _ hE⟩
  | commit next ih =>
    exact ⟨hst, fun s hs hs' => ⟨(hP s _ hs hs' (hid _)).1, (hP s _ hs hs' (hid _)).2, _, trivial,
      D.safe_of_keeps_raises hid htrans hinv hcommit hok herror (show next.Keeps K from hp)
        (show next.Raises E from hE) []⟩⟩
  | statement locks write next ih =>
    refine ⟨hst, fun s busy hs hs' _ =>
      ⟨P, hs', ih _ (hp _).2 (hE _) (hst.mono (List.subset_append_right _ _)) ?_⟩⟩
    exact fun s' c hs hs' hc => hP s' c hs hs' (htrans _ _ _ ((hp _).1 _) hc)

section Statements

variable {t : Relation σ ν key} [QueryError ε]

omit [QueryError ε] in
lemma safe_selectFrom {p : ρ → Bool} {k : List ρ → Program σ ν ε α} (hst : D.Stable id held P)
    (h : ∀ s, D.Holds s → P s → ∃ P' : Store σ ε α γ → Prop, P' s ∧
      D.Safe id call (k (t.matching p (pending s.1))) pending held P') :
    D.Safe id call (t.selectFrom p >>= k) pending held P := safe_select hst h

omit [QueryError ε] in
lemma safe_selectFirst {p : ρ → Bool} {k : Option ρ → Program σ ν ε α} (hst : D.Stable id held P)
    (h : ∀ s, D.Holds s → P s → ∃ P' : Store σ ε α γ → Prop, P' s ∧
      D.Safe id call (k (t.matching p (pending s.1)).head?) pending held P') :
    D.Safe id call (t.selectFirst p >>= k) pending held P := safe_select hst h

omit [QueryError ε] in
lemma safe_forUpdate {p : ρ → Bool} {k : List ρ → Program σ ν ε α} (hst : D.Stable id held P)
    (h : ∀ s, D.Holds s → P s → ∃ P' : Store σ ε α γ → Prop, P' s ∧ D.Safe id call (k (t.matching p (pending s.1)))
      pending (t.rowLocks .update (t.matching p (pending s.1)) ++ held) P') :
    D.Safe id call (t.forUpdate p >>= k) pending held P :=
  ⟨hst, fun s _ hs hp _ => h s hs hp⟩

lemma safe_orThrow {a : Option β} (hst : D.Stable id held P)
    (hnone : a = none → D.Abortable id call P QueryError.noResult)
    (hsome : ∀ b, a = some b → D.Safe id call (k b) pending held P) :
    D.Safe id call (Relation.orThrow a >>= k) pending held P := by
  cases a with
  | none => exact safe_throw hst (hnone rfl)
  | some b => exact hsome b rfl

lemma safe_selectFirstOrThrow {p : ρ → Bool} {k : ρ → Program σ ν ε α} (hst : D.Stable id held P)
    (habort : D.Abortable id call P QueryError.noResult)
    (h : ∀ s r, D.Holds s → P s → r ∈ t.matching p (pending s.1) → ∃ P' : Store σ ε α γ → Prop, P' s ∧
      D.Safe id call (k r) pending held P') :
    D.Safe id call (t.selectFirstOrThrow p >>= k) pending held P := by
  rw [Relation.selectFirstOrThrow, bind_assoc]
  refine safe_selectFirst hst fun s hs hp => ?_
  cases hr : (t.matching p (pending s.1)).head? with
  | none => exact ⟨P, hp, safe_throw hst habort⟩
  | some r => exact h s r hs hp (List.mem_of_mem_head? hr)

variable [DecidableEq κ]

lemma safe_insertInto {r : ρ} {k : Unit → Program σ ν ε α} (hst : D.Stable id held P)
    (habort : ∀ db name, t.broken db r = some name → D.Abortable id call P (QueryError.constraint name))
    (h : ∀ s, D.Holds s → P s → t.broken (pending s.1) r = none → ∃ P' : Store σ ε α γ → Prop, P' s ∧
      D.Safe id call (k ()) (fun base => t.put (pending base) ((t.get (pending base)).insert r))
        (t.insertLocks r ++ held) P') :
    D.Safe id call (t.insertInto r >>= k) pending held P := by
  refine ⟨hst, fun s busy hs hp _ => ?_⟩
  change ∃ P', P' s ∧ D.Safe id call (Program.bind _ k) _ _ P'
  dsimp only
  cases hb : t.broken (pending s.1) r with
  | some name =>
    exact ⟨P, hp, safe_throw (hst.mono (List.subset_append_right _ _)) (habort _ name hb)⟩
  | none => exact h s hs hp hb

lemma safe_insertUnless {conflicts : ρ → Bool} {r : ρ} {k : Unit → Program σ ν ε α} (hst : D.Stable id held P)
    (habort : ∀ db name, t.broken db r = some name → D.Abortable id call P (QueryError.constraint name))
    (hskip : ∀ s, D.Holds s → P s → t.matching conflicts (pending s.1) ≠ [] →
      ∃ P' : Store σ ε α γ → Prop, P' s ∧ D.Safe id call (k ()) pending held P')
    (hinsert : ∀ s, D.Holds s → P s → t.matching conflicts (pending s.1) = [] → t.broken (pending s.1) r = none →
      ∃ P' : Store σ ε α γ → Prop, P' s ∧
        D.Safe id call (k ()) (fun base => t.put (pending base) ((t.get (pending base)).insert r))
          (t.insertLocks r ++ held) P') :
    D.Safe id call (t.insertUnless conflicts r >>= k) pending held P := by
  refine ⟨hst, fun s busy hs hp _ => ?_⟩
  change ∃ P', P' s ∧ D.Safe id call (Program.bind _ k) _ _ P'
  cases he : (t.matching conflicts (pending s.1)).isEmpty with
  | false =>
    simp only [he, Bool.false_eq_true, if_false]
    exact hskip s hs hp (by simpa using he)
  | true =>
    simp only [he, if_true]
    cases hb : t.broken (pending s.1) r with
    | some name => exact ⟨P, hp, safe_throw (hst.mono (List.subset_append_right _ _)) (habort _ name hb)⟩
    | none => exact hinsert s hs hp (by simpa using he) hb

lemma safe_upsert {conflicts : ρ → Bool} {f : ρ → ρ} {hf : ∀ r, key (f r) = key r} {r : ρ}
    {k : Unit → Program σ ν ε α} (hst : D.Stable id held P)
    (habort : ∀ name, D.Abortable id call P (QueryError.constraint name))
    (hupdate : ∀ s, D.Holds s → P s → t.matching conflicts (pending s.1) ≠ [] →
      ∃ P' : Store σ ε α γ → Prop, P' s ∧ D.Safe id call (k ())
        (fun base => t.put (pending base) ((t.get (pending base)).update (t.seen conflicts (pending s.1)) f hf))
        (t.rowLocks .noKeyUpdate (t.matching conflicts (pending s.1)) ++ held) P')
    (hinsert : ∀ s, D.Holds s → P s → t.matching conflicts (pending s.1) = [] → t.broken (pending s.1) r = none →
      ∃ P' : Store σ ε α γ → Prop, P' s ∧
        D.Safe id call (k ()) (fun base => t.put (pending base) ((t.get (pending base)).insert r))
          (t.insertLocks r ++ held) P') :
    D.Safe id call (t.upsert conflicts f hf r >>= k) pending held P := by
  refine ⟨hst, fun s busy hs hp _ => ?_⟩
  change ∃ P', P' s ∧ D.Safe id call (Program.bind _ k) _ _ P'
  cases he : (t.matching conflicts (pending s.1)).isEmpty with
  | false =>
    simp only [he, Bool.false_eq_true, if_false]
    cases ((t.matching conflicts (pending s.1)).map f).findSome? t.check with
    | some name => exact ⟨P, hp, safe_throw (hst.mono (List.subset_append_right _ _)) (habort name)⟩
    | none => exact hupdate s hs hp (by simpa using he)
  | true =>
    simp only [he, if_true]
    cases hb : t.broken (pending s.1) r with
    | some name => exact ⟨P, hp, safe_throw (hst.mono (List.subset_append_right _ _)) (habort name)⟩
    | none => exact hinsert s hs hp (by simpa using he) hb

lemma safe_updateTable {p : ρ → Bool} {f : ρ → ρ} {hf : ∀ r, key (f r) = key r} {k : List ρ → Program σ ν ε α}
    (hst : D.Stable id held P)
    (habort : ∀ s name, D.Holds s → P s → ((t.matching p (pending s.1)).map f).findSome? t.check = some name →
      D.Abortable id call P (QueryError.constraint name))
    (h : ∀ s, D.Holds s → P s → ∃ P' : Store σ ε α γ → Prop, P' s ∧
      D.Safe id call (k ((t.matching p (pending s.1)).map f))
        (fun base => t.put (pending base) ((t.get (pending base)).update (t.seen p (pending s.1)) f hf))
        (t.rowLocks .noKeyUpdate (t.matching p (pending s.1)) ++ held) P') :
    D.Safe id call (t.updateTable p f hf >>= k) pending held P := by
  refine ⟨hst, fun s busy hs hp _ => ?_⟩
  change ∃ P', P' s ∧ D.Safe id call (Program.bind _ k) _ _ P'
  dsimp only
  cases hc : ((t.matching p (pending s.1)).map f).findSome? t.check with
  | some name =>
    exact ⟨P, hp, safe_throw (hst.mono (List.subset_append_right _ _)) (habort s name hs hp hc)⟩
  | none => exact h s hs hp

omit [QueryError ε] in
lemma safe_deleteFrom {p : ρ → Bool} {k : List ρ → Program σ ν ε α} (hst : D.Stable id held P)
    (h : ∀ s, D.Holds s → P s → ∃ P' : Store σ ε α γ → Prop, P' s ∧ D.Safe id call (k (t.matching p (pending s.1)))
      (fun base => t.put (pending base) ((t.get (pending base)).delete (t.seen p (pending s.1))))
      (t.rowLocks .update (t.matching p (pending s.1)) ++ held) P') :
    D.Safe id call (t.deleteFrom p >>= k) pending held P :=
  ⟨hst, fun s _ hs hp _ => h s hs hp⟩

end Statements

end Discipline

end ChatCore.Relational
