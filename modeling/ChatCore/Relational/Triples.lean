import ChatCore.Relational.Alone

/-! Triples for programs that run alone: what holds where a program returns, and of the rows that its commits
leave. -/

namespace ChatCore.Relational

variable {σ ν ε α β ρ κ : Type} {key : ρ → κ}

namespace Program

def Ensures (I P : σ → Prop) (p : Program σ ν ε α) (Q : α → σ → Prop) : Prop :=
  ∀ c v, I c → P v → I (p.exec c v).2.1 ∧ ∀ a, (p.exec c v).1 = .ok a → Q a (p.exec c v).2.2

variable {I P P' : σ → Prop} {Q Q' : α → σ → Prop} {p : Program σ ν ε α}

lemma Ensures.mono (h : p.Ensures I P Q) (hp : ∀ v, P' v → P v) (hq : ∀ a v, Q a v → Q' a v) : p.Ensures I P' Q' :=
  fun c v hc hv => ⟨(h c v hc (hp v hv)).1, fun a ha => hq a _ ((h c v hc (hp v hv)).2 a ha)⟩

lemma ensures_pure {a : α} (h : ∀ v, P v → Q a v) : (Pure.pure a : Program σ ν ε α).Ensures I P Q := by
  intro c v hc hv
  refine ⟨hc, fun b hb => ?_⟩
  cases hb
  exact h v hv

lemma ensures_throw {e : ε} : (throw e : Program σ ν ε α).Ensures I P Q :=
  fun _ _ hc _ => ⟨hc, fun _ hb => by cases hb⟩

lemma Ensures.bind {R : β → σ → Prop} {f : α → Program σ ν ε β} (h : p.Ensures I P Q)
    (hf : ∀ a, (f a).Ensures I (Q a) R) : (p >>= f).Ensures I P R := by
  intro c v hc hv
  obtain ⟨hcommit, hok⟩ := h c v hc hv
  rw [exec_bind]
  rcases he : p.exec c v with ⟨a | a, c', v'⟩
  · rw [he] at hcommit
    exact ⟨hcommit, fun b hb => by cases hb⟩
  · rw [he] at hcommit hok
    exact hf a c' v' hcommit (hok a rfl)

lemma Ensures.map {f : α → β} {R : β → σ → Prop} (h : p.Ensures I P fun a v => R (f a) v) :
    (f <$> p).Ensures I P R := by
  rw [map_eq_pure_bind]
  exact h.bind fun a => ensures_pure fun _ hv => hv

lemma ensures_select {query : σ → α} (h : ∀ v, P v → Q (query v) v) :
    (select query : Program σ ν ε α).Ensures I P Q := by
  intro c v hc hv
  refine ⟨hc, fun b hb => ?_⟩
  cases hb
  exact h v hv

lemma ensures_lock {locks : σ → List (Lock ν)} : (lock locks : Program σ ν ε Unit).Ensures I P fun _ => P :=
  fun _ _ hc hv => ⟨hc, fun _ _ => hv⟩

lemma Ensures.transaction (h : p.Ensures I P Q) (hi : ∀ a v, Q a v → I v) : p.transaction.Ensures I P Q := by
  refine h.bind fun a => Ensures.bind (Q := fun _ => Q a) (fun c v _ hv => ?_) fun _ => ensures_pure fun _ hv => hv
  exact ⟨hi a v hv, fun _ _ => hv⟩

lemma ensures_of_keeps {K : σ → σ → Prop} (h : p.Keeps K) (hk : ∀ a b, K a b → P a → P b) (hi : ∀ v, P v → I v) :
    p.Ensures I P fun _ => P := by
  induction p with
  | pure a => exact ensures_pure fun _ hv => hv
  | throw e => exact ensures_throw
  | statement locks write next ih =>
    intro c v hc hv
    exact ih _ (h _).2 c _ hc (hk _ _ ((h _).1 v) hv)
  | commit next ih =>
    intro c v hc hv
    exact ih h v v (hi v hv) hv

lemma Ensures.of_single (hs : p.Single) (h : p.Ensures (fun _ => True) P Q) : p.Ensures I P Q := by
  intro c v hc hv
  rw [hs.exec_committed]
  exact ⟨hc, (h c v trivial hv).2⟩

lemma ensures_forM {f : β → Program σ ν ε PUnit} (hf : ∀ b, (f b).Ensures I P fun _ => P) (rows : List β) :
    (rows.forM f).Ensures I P fun _ => P := by
  induction rows with
  | nil => exact ensures_pure fun _ hv => hv
  | cons b rows ih => exact (hf b).bind fun _ => ih

theorem Ensures.run (h : p.Ensures I P Q) {db : σ} (hi : I db) (hp : P db) (hq : ∀ a v, Q a v → I v) :
    I (p.run db).2 := by
  obtain ⟨hcommit, hok⟩ := h db db hi hp
  change I (p.exec db db).2.2
  cases he : (p.exec db db).1 with
  | ok a => exact hq a _ (hok a he)
  | error e => rwa [← exec_error he] at hcommit

theorem Ensures.run_ok (h : p.Ensures I P Q) {db : σ} (hi : I db) (hp : P db) {a : α} (ha : (p.run db).1 = .ok a) :
    Q a (p.run db).2 := (h db db hi hp).2 a ha

end Program

namespace Relation

open Program

variable {t : Relation σ ν key} {I P : σ → Prop} {p : ρ → Bool} {r : ρ}

lemma ensures_selectFrom {Q : List ρ → σ → Prop} (h : ∀ v, P v → Q (t.matching p v) v) :
    (t.selectFrom p : Program σ ν ε _).Ensures I P Q := ensures_select h

lemma ensures_selectFirst {Q : Option ρ → σ → Prop} (h : ∀ v, P v → Q (t.matching p v).head? v) :
    (t.selectFirst p : Program σ ν ε _).Ensures I P Q := ensures_select h

variable [DecidableEq κ]

lemma ensures_deleteFrom {Q : List ρ → σ → Prop}
    (h : ∀ v, P v → Q (t.matching p v) (t.put v ((t.get v).delete p))) :
    (t.deleteFrom p : Program σ ν ε _).Ensures I P Q := by
  intro c v hc hv
  rw [exec_deleteFrom]
  refine ⟨hc, fun b hb => ?_⟩
  cases hb
  exact h v hv

variable [QueryError ε]

omit [DecidableEq κ] in
lemma ensures_orThrow {a : Option α} {Q : α → σ → Prop} (h : ∀ b, a = some b → ∀ v, P v → Q b v) :
    (orThrow a : Program σ ν ε α).Ensures I P Q := by
  cases a with
  | none => exact ensures_throw
  | some b => exact ensures_pure (h b rfl)

omit [DecidableEq κ] in
lemma ensures_selectFirstOrThrow {Q : ρ → σ → Prop} (h : ∀ v, P v → ∀ r ∈ t.get v, p r = true → Q r v) :
    (t.selectFirstOrThrow p : Program σ ν ε ρ).Ensures I P Q := by
  refine (ensures_selectFirst (Q := fun a v => ∀ b, a = some b → Q b v) fun v hv b hb => ?_).bind fun a => ?_
  · obtain ⟨hm, hp⟩ := List.mem_filter.mp (List.mem_of_head? hb)
    exact h v hv b hm hp
  · exact ensures_orThrow fun b hb v hv => hv b hb

lemma ensures_insertInto {Q : Unit → σ → Prop}
    (h : ∀ v, P v → t.broken v r = none → Q () (t.put v ((t.get v).insert r))) :
    (t.insertInto r : Program σ ν ε Unit).Ensures I P Q := by
  intro c v hc hv
  rw [exec_insertInto]
  cases hb : t.broken v r with
  | some name => exact ⟨hc, fun _ hb => by cases hb⟩
  | none => exact ⟨hc, fun _ _ => h v hv hb⟩

lemma ensures_updateTable {f : ρ → ρ} {hf : ∀ r, key (f r) = key r} {Q : List ρ → σ → Prop}
    (h : ∀ v, P v → Q ((t.matching p v).map f) (t.put v ((t.get v).update p f hf))) :
    (t.updateTable p f hf : Program σ ν ε (List ρ)).Ensures I P Q := by
  intro c v hc hv
  rw [exec_updateTable]
  cases ((t.matching p v).map f).findSome? t.check with
  | some name => exact ⟨hc, fun _ hb => by cases hb⟩
  | none =>
    refine ⟨hc, fun b hb => ?_⟩
    cases hb
    exact h v hv

end Relation

end ChatCore.Relational
