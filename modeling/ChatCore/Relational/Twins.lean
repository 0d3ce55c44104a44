import ChatCore.Relational.ReadCommitted
import Mathlib.Data.List.Forall2

/-! Two runs side by side, from rows that agree in what may be seen of them. -/

namespace ChatCore.Relational

variable {σ ν ε α β : Type}

structure View.Agree (R : σ → σ → Prop) (v v' : View σ ν) : Prop where
  rows : R v.rows v'.rows
  busy : v.busy = v'.busy

namespace Program

/-- Two programs that lock and write alike wherever the rows agree, and whose results agree. -/
inductive Twins (R : σ → σ → Prop) (Q : α → α → Prop) : Program σ ν ε α → Program σ ν ε α → Prop
  | pure {a a' : α} (h : Q a a') : Twins R Q (.pure a) (.pure a')
  | throw (e : ε) : Twins R Q (.throw e) (.throw e)
  | statement {locks locks' : View σ ν → List (Lock ν)} {write write' : View σ ν → σ → σ}
      {next next' : View σ ν → Program σ ν ε α} (hlocks : ∀ v v', v.Agree R v' → locks v = locks' v')
      (hwrite : ∀ v v', v.Agree R v' → ∀ base base', R base base' → R (write v base) (write' v' base'))
      (hnext : ∀ v v', v.Agree R v' → Twins R Q (next v) (next' v')) :
      Twins R Q (.statement locks write next) (.statement locks' write' next')
  | commit {next next' : Program σ ν ε α} (h : Twins R Q next next') : Twins R Q (.commit next) (.commit next')

abbrev Blind (R : σ → σ → Prop) (p : Program σ ν ε α) : Prop := p.Twins R Eq p

section Rules

variable {R : σ → σ → Prop} {Q Q' : α → α → Prop} {S : β → β → Prop} {p p' : Program σ ν ε α}
  {f f' : α → Program σ ν ε β}

lemma Twins.mono (h : p.Twins R Q p') (hq : ∀ a a', Q a a' → Q' a a') : p.Twins R Q' p' := by
  induction h with
  | pure h => exact .pure (hq _ _ h)
  | throw e => exact .throw e
  | statement hlocks hwrite _ ih => exact .statement hlocks hwrite ih
  | commit _ ih => exact .commit ih

lemma Twins.bind (h : p.Twins R Q p') (hf : ∀ a a', Q a a' → (f a).Twins R S (f' a')) :
    (p >>= f).Twins R S (p' >>= f') := by
  change (p.bind f).Twins R S (p'.bind f')
  induction h with
  | pure h => exact hf _ _ h
  | throw e => exact .throw e
  | statement hlocks hwrite _ ih => exact .statement hlocks hwrite ih
  | commit _ ih => exact .commit ih

lemma Blind.bind (h : p.Blind R) (hf : ∀ a, (f a).Twins R S (f' a)) : (p >>= f).Twins R S (p >>= f') :=
  Twins.bind h fun a _ ha => ha ▸ hf a

lemma Twins.map {g g' : α → β} (h : p.Twins R Q p') (hg : ∀ a a', Q a a' → S (g a) (g' a')) :
    (g <$> p).Twins R S (g' <$> p') := by
  rw [map_eq_pure_bind, map_eq_pure_bind]
  exact h.bind fun a a' ha => .pure (hg a a' ha)

lemma Blind.map (h : p.Blind R) (g : α → β) : (g <$> p).Blind R := Twins.map h fun _ _ ha => congrArg g ha

lemma blind_pure (a : α) : (Pure.pure a : Program σ ν ε α).Blind R := .pure rfl

lemma Twins.transaction (h : p.Twins R Q p') : p.transaction.Twins R Q p'.transaction :=
  h.bind fun _ _ ha => .commit (.pure ha)

lemma Twins.ite {c c' : Prop} [Decidable c] [Decidable c'] {q q' : Program σ ν ε α} (hc : c ↔ c')
    (h : p.Twins R Q p') (he : q.Twins R Q q') : (if c then p else q).Twins R Q (if c' then p' else q') := by
  by_cases hyes : c
  · rw [if_pos hyes, if_pos (hc.mp hyes)]
    exact h
  · rw [if_neg hyes, if_neg fun hyes' => hyes (hc.mpr hyes')]
    exact he

lemma Blind.transaction (h : p.Blind R) : p.transaction.Blind R := Twins.transaction h

lemma Twins.exec (h : p.Twins R Q p') {c c' v v' : σ} (hc : R c c') (hv : R v v') :
    ((∃ a a', (p.exec c v).1 = .ok a ∧ (p'.exec c' v').1 = .ok a' ∧ Q a a') ∨
      ∃ e, (p.exec c v).1 = .error e ∧ (p'.exec c' v').1 = .error e) ∧
    R (p.exec c v).2.1 (p'.exec c' v').2.1 ∧ R (p.exec c v).2.2 (p'.exec c' v').2.2 := by
  induction h generalizing c c' v v' with
  | pure h => exact ⟨Or.inl ⟨_, _, rfl, rfl, h⟩, hc, hv⟩
  | throw e => exact ⟨Or.inr ⟨e, rfl, rfl⟩, hc, hc⟩
  | statement _ hwrite _ ih =>
    have hagree : View.Agree R (⟨v, fun _ => false⟩ : View σ ν) ⟨v', fun _ => false⟩ := ⟨hv, rfl⟩
    exact ih _ _ hagree hc (hwrite _ _ hagree _ _ hv)
  | commit _ ih => exact ih hv hv

lemma Twins.run {g : α → β} (h : p.Twins R (fun a a' => g a = g a') p') {db db' : σ} (hdb : R db db') :
    (p.run db).1.map g = (p'.run db').1.map g ∧ R (p.run db).2 (p'.run db').2 := by
  obtain ⟨⟨a, a', ha, ha', hg⟩ | ⟨e, he, he'⟩, -, hlast⟩ := h.exec hdb hdb
  · refine ⟨?_, hlast⟩
    rw [Program.run, Program.run, ha, ha']
    exact congrArg Except.ok hg
  · refine ⟨?_, hlast⟩
    rw [Program.run, Program.run, he, he']

lemma Blind.run (h : p.Blind R) {db db' : σ} (hdb : R db db') :
    (p.run db).1 = (p.run db').1 ∧ R (p.run db).2 (p.run db').2 := by
  obtain ⟨⟨a, a', ha, ha', rfl⟩ | ⟨e, he, he'⟩, -, hlast⟩ := h.exec hdb hdb
  · exact ⟨ha.trans ha'.symm, hlast⟩
  · exact ⟨he.trans he'.symm, hlast⟩

lemma twins_select {query query' : σ → α} (h : ∀ v v', R v v' → Q (query v) (query' v')) :
    (select query : Program σ ν ε α).Twins R Q (select query') :=
  .statement (fun _ _ _ => rfl) (fun _ _ _ _ _ hb => hb) fun _ _ hv => .pure (h _ _ hv.rows)

lemma blind_select {query : σ → α} (h : ∀ v v', R v v' → query v = query v') :
    (select query : Program σ ν ε α).Blind R := twins_select h

lemma blind_lock (locks : List (Lock ν)) : (lock fun _ => locks : Program σ ν ε Unit).Blind R :=
  .statement (fun _ _ _ => rfl) (fun _ _ _ _ _ hb => hb) fun _ _ _ => .pure rfl

lemma blind_forM {step : β → Program σ ν ε PUnit} (h : ∀ b, (step b).Blind R) (rows : List β) :
    (rows.forM step).Blind R := by
  induction rows with
  | nil => exact blind_pure _
  | cons b rows ih => exact (h b).bind fun _ => ih

lemma blind_foldlM {step : α → β → Program σ ν ε α} (h : ∀ a b, (step a b).Blind R) (rows : List β) (a : α) :
    (rows.foldlM step a).Blind R := by
  induction rows generalizing a with
  | nil => exact blind_pure _
  | cons b rows ih => exact (h a b).bind fun a => ih a

lemma blind_mapM {step : β → Program σ ν ε α} (h : ∀ b, (step b).Blind R) (rows : List β) :
    (rows.mapM step).Blind R := by
  induction rows with
  | nil =>
    rw [List.mapM_nil]
    exact blind_pure _
  | cons b rows ih =>
    rw [List.mapM_cons]
    exact (h b).bind fun _ => ih.bind fun _ => blind_pure _

end Rules

end Program

structure Relation.Veils {ρ κ : Type} {key : ρ → κ} (t : Relation σ ν key) (veil : σ → σ)
    (hide : ρ → ρ) : Prop where
  keys : ∀ r, key (hide r) = key r
  get : ∀ db, (t.get (veil db)).rows = (t.get db).rows.map hide
  put : ∀ db db' (x x' : Table key), veil db = veil db' → x.rows.map hide = x'.rows.map hide →
    veil (t.put db x) = veil (t.put db' x')
  check : ∀ r, t.check (hide r) = t.check r
  violation : ∀ db r, t.violation (veil db) r = t.violation db r

abbrev Alike (veil : σ → σ) (db db' : σ) : Prop := veil db = veil db'

namespace Relation

open Program

lemma blind_orThrow [QueryError ε] {R : σ → σ → Prop} (a : Option α) : (orThrow a : Program σ ν ε α).Blind R := by
  cases a with
  | some a => exact .pure rfl
  | none => exact .throw _

lemma blind_broken [QueryError ε] {R : σ → σ → Prop} (name : Option String) : (match name with
    | some name => .throw (QueryError.constraint name)
    | none => .pure () : Program σ ν ε Unit).Blind R := by
  cases name with
  | some name => exact .throw _
  | none => exact .pure rfl

variable {ρ κ : Type} {key : ρ → κ} {t : Relation σ ν key} {veil : σ → σ} {hide : ρ → ρ} {p : ρ → Bool}

namespace Veils

section Tables

variable (h : t.Veils veil hide)

include h

lemma rows {db db' : σ} (hdb : Alike veil db db') : (t.get db).rows.map hide = (t.get db').rows.map hide := by
  rw [← h.get, ← h.get, hdb]

lemma matching {db db' : σ} (hdb : Alike veil db db') (hp : ∀ r, p (hide r) = p r) :
    (t.matching p db).map hide = (t.matching p db').map hide := by
  have hfilter : ∀ rows : List ρ, (rows.filter p).map hide = (rows.map hide).filter p := by
    intro rows
    rw [List.filter_map, show p ∘ hide = p from funext hp]
  rw [Relation.matching, Relation.matching, hfilter, hfilter, h.rows hdb]

lemma keys_eq {rows rows' : List ρ} (hrows : rows.map hide = rows'.map hide) : rows.map key = rows'.map key := by
  have hkeys : ∀ rows : List ρ, (rows.map hide).map key = rows.map key := by
    intro rows
    rw [List.map_map]
    exact List.map_congr_left fun r _ => h.keys r
  rw [← hkeys rows, ← hkeys rows', hrows]

lemma rowLocks {rows rows' : List ρ} (hrows : rows.map hide = rows'.map hide) (mode : LockMode) :
    t.rowLocks mode rows = t.rowLocks mode rows' := by
  have hlocks : ∀ rows : List ρ, t.rowLocks mode rows = (rows.map key).map fun k => ⟨t.row k, mode⟩ := by
    intro rows
    rw [List.map_map]
    rfl
  rw [hlocks, hlocks, h.keys_eq hrows]

variable [DecidableEq κ]

lemma find? {db db' : σ} (hdb : Alike veil db db') (k : κ) :
    ((t.get db).find? k).map hide = ((t.get db').find? k).map hide := by
  have hmap : ∀ x : Table key, (x.find? k).map hide = (x.rows.map hide).find? fun r => decide (key r = k) := by
    intro x
    rw [List.find?_map]
    simp only [Function.comp_def, h.keys]
    rfl
  rw [hmap, hmap, h.rows hdb]

lemma broken {db db' : σ} (hdb : Alike veil db db') (r : ρ) : t.broken db r = t.broken db' r := by
  have hfind : ((t.get db).find? (key r)).map (fun _ => t.primaryKey) =
      ((t.get db').find? (key r)).map (fun _ => t.primaryKey) := by
    have h := congrArg (fun o => o.map fun _ => t.primaryKey) (h.find? hdb (key r))
    simpa only [Option.map_map, Function.comp_def] using h
  rw [Relation.broken, Relation.broken, hfind, ← h.violation db, ← h.violation db', hdb]

lemma seen {db db' : σ} (hdb : Alike veil db db') (hp : ∀ r, p (hide r) = p r) : t.seen p db = t.seen p db' := by
  funext r
  rw [Relation.seen, Relation.seen, h.keys_eq (h.matching hdb hp)]

lemma seen_hide (hp : ∀ r, p (hide r) = p r) (db : σ) (r : ρ) : t.seen p db (hide r) = t.seen p db r := by
  rw [Relation.seen, Relation.seen, hp, h.keys]

lemma insert {x x' : Table key} (hx : x.rows.map hide = x'.rows.map hide) (r : ρ) :
    (x.insert r).rows.map hide = (x'.insert r).rows.map hide := by
  have hmem : key r ∈ x.rows.map key ↔ key r ∈ x'.rows.map key := by rw [h.keys_eq hx]
  unfold Table.insert
  by_cases hk : key r ∈ x.rows.map key
  · rw [dif_pos hk, dif_pos (hmem.mp hk), hx]
  · rw [dif_neg hk, dif_neg fun hk' => hk (hmem.mpr hk'), List.map_append, List.map_append, hx]

omit [DecidableEq κ] h in
lemma update {x x' : Table key} (hx : x.rows.map hide = x'.rows.map hide) {q : ρ → Bool}
    (hq : ∀ r, q (hide r) = q r) {f : ρ → ρ} (hf : ∀ r, key (f r) = key r)
    (hhide : ∀ r, hide (f (hide r)) = hide (f r)) :
    (x.update q f hf).rows.map hide = (x'.update q f hf).rows.map hide := by
  have hrows : ∀ x : Table key, (x.update q f hf).rows.map hide =
      (x.rows.map hide).map fun r => if q r then hide (f r) else r := by
    intro x
    simp only [Table.update, List.map_map]
    refine List.map_congr_left fun r _ => ?_
    simp only [Function.comp_apply, hq, apply_ite hide, hhide]
  rw [hrows, hrows, hx]

omit [DecidableEq κ] h in
lemma delete {x x' : Table key} (hx : x.rows.map hide = x'.rows.map hide) {q : ρ → Bool}
    (hq : ∀ r, q (hide r) = q r) :
    (x.delete q).rows.map hide = (x'.delete q).rows.map hide := by
  have hrows : ∀ x : Table key, (x.delete q).rows.map hide = (x.rows.map hide).filter fun r => !q r := by
    intro x
    rw [List.filter_map]
    simp only [Function.comp_def, hq]
    rfl
  rw [hrows, hrows, hx]

omit [DecidableEq κ] in
lemma check_map {f : ρ → ρ} (hhide : ∀ r, hide (f (hide r)) = hide (f r)) {rows rows' : List ρ}
    (hrows : rows.map hide = rows'.map hide) :
    (rows.map f).findSome? t.check = (rows'.map f).findSome? t.check := by
  have hcheck : ∀ rows : List ρ, (rows.map f).findSome? t.check = (rows.map hide).findSome? fun r =>
    t.check (f r) := by
    intro rows
    simp only [List.findSome?_map, Function.comp_def]
    congr 1
    funext r
    rw [← h.check (f r), ← hhide, h.check]
  rw [hcheck, hcheck, hrows]

end Tables

section Statements

variable (h : t.Veils veil hide)

include h

lemma twins_selectFrom (hp : ∀ r, p (hide r) = p r) :
    (t.selectFrom p : Program σ ν ε _).Twins (Alike veil) (fun rows rows' => rows.map hide = rows'.map hide)
      (t.selectFrom p) :=
  twins_select fun _ _ hdb => h.matching hdb hp

lemma twins_selectFirst (hp : ∀ r, p (hide r) = p r) :
    (t.selectFirst p : Program σ ν ε _).Twins (Alike veil) (fun row row' => row.map hide = row'.map hide)
      (t.selectFirst p) :=
  twins_select fun _ _ hdb => by rw [← List.head?_map, ← List.head?_map, h.matching hdb hp]

lemma twins_forUpdate (hp : ∀ r, p (hide r) = p r) :
    (t.forUpdate p : Program σ ν ε _).Twins (Alike veil) (fun rows rows' => rows.map hide = rows'.map hide)
      (t.forUpdate p) :=
  .statement (fun _ _ hv => h.rowLocks (h.matching hv.rows hp) _) (fun _ _ _ _ _ hb => hb)
    fun _ _ hv => .pure (h.matching hv.rows hp)

variable [DecidableEq κ]

lemma twins_deleteFrom (hp : ∀ r, p (hide r) = p r) :
    (t.deleteFrom p : Program σ ν ε _).Twins (Alike veil) (fun rows rows' => rows.map hide = rows'.map hide)
      (t.deleteFrom p) := by
  refine .statement (fun _ _ hv => h.rowLocks (h.matching hv.rows hp) _) (fun v v' hv base base' hb => ?_)
    fun _ _ hv => .pure (h.matching hv.rows hp)
  rw [h.seen hv.rows hp]
  exact h.put _ _ _ _ hb (delete (h.rows hb) (h.seen_hide hp _))

variable [QueryError ε]

lemma twins_updateTable (hp : ∀ r, p (hide r) = p r) {f : ρ → ρ} (hf : ∀ r, key (f r) = key r)
    (hhide : ∀ r, hide (f (hide r)) = hide (f r)) :
    (t.updateTable p f hf : Program σ ν ε _).Twins (Alike veil) (fun rows rows' => rows.map hide = rows'.map hide)
      (t.updateTable p f hf) := by
  have hmap : ∀ rows : List ρ, (rows.map f).map hide = (rows.map hide).map fun r => hide (f r) := by
    intro rows
    simp only [List.map_map]
    exact List.map_congr_left fun r _ => (hhide r).symm
  refine .statement (fun _ _ hv => h.rowLocks (h.matching hv.rows hp) _) (fun v v' hv base base' hb => ?_)
    fun v v' hv => ?_
  · rw [h.seen hv.rows hp]
    exact h.put _ _ _ _ hb (update (h.rows hb) (h.seen_hide hp _) hf hhide)
  · have hrows := h.matching hv.rows hp
    rw [h.check_map hhide hrows]
    cases ((t.matching p v'.rows).map f).findSome? t.check with
    | some name => exact .throw _
    | none => exact .pure (by rw [hmap, hmap, hrows])

omit [DecidableEq κ] in
lemma twins_selectFirstOrThrow (hp : ∀ r, p (hide r) = p r) :
    (t.selectFirstOrThrow p : Program σ ν ε _).Twins (Alike veil) (fun row row' => hide row = hide row')
      (t.selectFirstOrThrow p) := by
  refine (h.twins_selectFirst hp).bind fun row row' hrow => ?_
  cases row with
  | none => cases row' with
    | none => exact .throw _
    | some r' => cases hrow
  | some r => cases row' with
    | none => cases hrow
    | some r' => exact .pure (Option.some.inj hrow)

lemma blind_insertInto (r : ρ) : (t.insertInto r : Program σ ν ε Unit).Blind (Alike veil) := by
  refine .statement (fun _ _ _ => rfl) (fun _ _ _ base base' hb => h.put _ _ _ _ hb (h.insert (h.rows hb) r))
    fun v v' hv => ?_
  rw [h.broken hv.rows]
  exact blind_broken (ε := ε) _

lemma isSome_find? {db db' : σ} (hdb : Alike veil db db') (k : κ) :
    ((t.get db).find? k).isSome = ((t.get db').find? k).isSome := by
  rw [← Option.isSome_map (f := hide), h.find? hdb, Option.isSome_map]

lemma blind_insertOrIgnore (r : ρ) : (t.insertOrIgnore r : Program σ ν ε Unit).Blind (Alike veil) := by
  refine .statement (fun _ _ _ => rfl) (fun v v' hv base base' hb => ?_) fun v v' hv => ?_
  all_goals
    have hsome := h.isSome_find? hv.rows (key r)
    cases hfind : (t.get v.rows).find? (key r) with
    | some s =>
      rw [hfind] at hsome
      obtain ⟨s', hs'⟩ := Option.isSome_iff_exists.mp hsome.symm
      rw [hs']
      first | exact hb | exact .pure rfl
    | none =>
      rw [hfind] at hsome
      rw [Option.isSome_eq_false_iff.mp hsome.symm |> Option.isNone_iff_eq_none.mp]
      first
      | exact h.put _ _ _ _ hb (h.insert (h.rows hb) r)
      | rw [h.broken hv.rows]; exact blind_broken (ε := ε) _

omit [DecidableEq κ] [QueryError ε] in
lemma isEmpty_matching {db db' : σ} (hdb : Alike veil db db') (hp : ∀ r, p (hide r) = p r) :
    (t.matching p db).isEmpty = (t.matching p db').isEmpty := by
  rw [← List.isEmpty_map (f := hide), h.matching hdb hp, List.isEmpty_map]

lemma blind_insertUnless (hp : ∀ r, p (hide r) = p r) (r : ρ) :
    (t.insertUnless p r : Program σ ν ε Unit).Blind (Alike veil) := by
  refine .statement (fun v v' hv => ?_) (fun v v' hv base base' hb => ?_) fun v v' hv => ?_
  · rw [h.isEmpty_matching hv.rows hp]
  · rw [h.isEmpty_matching hv.rows hp]
    split
    · exact h.put _ _ _ _ hb (h.insert (h.rows hb) r)
    · exact hb
  · rw [h.isEmpty_matching hv.rows hp]
    split
    · rw [h.broken hv.rows]
      exact blind_broken (ε := ε) _
    · exact .pure rfl

lemma blind_upsert (hp : ∀ r, p (hide r) = p r) {f : ρ → ρ} (hf : ∀ r, key (f r) = key r)
    (hhide : ∀ r, hide (f (hide r)) = hide (f r)) (r : ρ) :
    (t.upsert p f hf r : Program σ ν ε Unit).Blind (Alike veil) := by
  refine .statement (fun v v' hv => ?_) (fun v v' hv base base' hb => ?_) fun v v' hv => ?_
  · rw [h.isEmpty_matching hv.rows hp, h.rowLocks (h.matching hv.rows hp)]
  · rw [h.isEmpty_matching hv.rows hp, h.seen hv.rows hp]
    split
    · exact h.put _ _ _ _ hb (h.insert (h.rows hb) r)
    · exact h.put _ _ _ _ hb (update (h.rows hb) (h.seen_hide hp _) hf hhide)
  · rw [h.isEmpty_matching hv.rows hp, h.broken hv.rows, h.check_map hhide (h.matching hv.rows hp)]
    split
    · exact blind_broken (ε := ε) _
    · exact blind_broken (ε := ε) _

end Statements

section Open

-- nothing of the relation is hidden

variable (h : t.Veils veil id)

include h

lemma blind_selectFrom : (t.selectFrom p : Program σ ν ε _).Blind (Alike veil) :=
  (h.twins_selectFrom fun _ => rfl).mono fun rows rows' hrows => by simpa using hrows

lemma blind_selectFirst : (t.selectFirst p : Program σ ν ε _).Blind (Alike veil) :=
  (h.twins_selectFirst fun _ => rfl).mono fun row row' hrow => by simpa using hrow

lemma blind_forUpdate : (t.forUpdate p : Program σ ν ε _).Blind (Alike veil) :=
  (h.twins_forUpdate fun _ => rfl).mono fun rows rows' hrows => by simpa using hrows

lemma blind_skipLocked : (t.skipLocked p : Program σ ν ε _).Blind (Alike veil) := by
  have hfree : ∀ v v' : View σ ν, v.Agree (Alike veil) v' → skipLocked.free t p v = skipLocked.free t p v' := by
    intro v v' hv
    have hrows := h.matching hv.rows fun r => (rfl : p (id r) = p r)
    rw [List.map_id, List.map_id] at hrows
    rw [skipLocked.free, skipLocked.free, hrows, hv.busy]
  refine .statement (fun v v' hv => ?_) (fun _ _ _ _ _ hb => hb) fun v v' hv => .pure (hfree v v' hv)
  rw [hfree v v' hv]

lemma blind_selectFirstOrThrow [QueryError ε] : (t.selectFirstOrThrow p : Program σ ν ε _).Blind (Alike veil) :=
  h.blind_selectFirst.bind fun a => by cases a <;> first | exact .throw _ | exact .pure rfl

variable [DecidableEq κ]

lemma blind_deleteFrom : (t.deleteFrom p : Program σ ν ε _).Blind (Alike veil) :=
  (h.twins_deleteFrom fun _ => rfl).mono fun rows rows' hrows => by simpa using hrows

lemma blind_updateTable [QueryError ε] {f : ρ → ρ} (hf : ∀ r, key (f r) = key r) :
    (t.updateTable p f hf : Program σ ν ε _).Blind (Alike veil) :=
  (h.twins_updateTable (fun _ => rfl) hf fun _ => rfl).mono fun rows rows' hrows => by simpa using hrows

end Open

end Veils

end Relation

end ChatCore.Relational
