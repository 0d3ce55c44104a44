import ChatCore.Relational.TwinRuns

/-! Programs that keep to one part of the rows: what the other part holds is neither read nor written. -/

namespace ChatCore.Relational

variable {σ ν ε α β : Type}

structure Agreement (R : σ → σ → Prop) : Prop where
  symm : ∀ {a b}, R a b → R b a
  trans : ∀ {a b c}, R a b → R b c → R a c

lemma Agreement.left {R : σ → σ → Prop} (h : Agreement R) {a b : σ} (hab : R a b) :
    R a a := h.trans hab (h.symm hab)

lemma Agreement.right {R : σ → σ → Prop} (h : Agreement R) {a b : σ} (hab : R a b) :
    R b b := h.trans (h.symm hab) hab

namespace Program

/-- A program that locks, writes and goes on alike wherever `R` relates the rows, that changes rows only as `G`
allows, and whose results satisfy `P`. -/
inductive Confined (R G : σ → σ → Prop) (P : α → Prop) : Program σ ν ε α → Prop
  | pure {a : α} (h : P a) : Confined R G P (.pure a)
  | throw (e : ε) : Confined R G P (.throw e)
  | statement {locks : View σ ν → List (Lock ν)} {write : View σ ν → σ → σ} {next : View σ ν → Program σ ν ε α}
      (hlocks : ∀ v v' : View σ ν, R v.rows v'.rows → locks v = locks v')
      (hwrite : ∀ v v' : View σ ν, R v.rows v'.rows → ∀ base base', R base base' →
        R (write v base) (write v' base'))
      (hrest : ∀ v v' : View σ ν, R v.rows v'.rows → ∀ base base', R base base' → G base (write v base))
      (hnext : ∀ v v' : View σ ν, R v.rows v'.rows → next v = next v')
      (h : ∀ v v' : View σ ν, R v.rows v'.rows → Confined R G P (next v)) : Confined R G P
        (.statement locks write next)
  | commit {next : Program σ ν ε α} (h : Confined R G P next) : Confined R G P (.commit next)

section Rules

variable {R G : σ → σ → Prop} {P P' : α → Prop} {Q : β → Prop} {p : Program σ ν ε α} {f : α → Program σ ν ε β}

lemma Confined.mono (h : p.Confined R G P) (hp : ∀ a, P a → P' a) : p.Confined R G P' := by
  induction h with
  | pure h => exact .pure (hp _ h)
  | throw e => exact .throw e
  | statement hlocks hwrite hrest hnext _ ih => exact .statement hlocks hwrite hrest hnext ih
  | commit _ ih => exact .commit ih

lemma Confined.bind (h : p.Confined R G P) (hf : ∀ a, P a → (f a).Confined R G Q) : (p >>= f).Confined R G Q := by
  change (p.bind f).Confined R G Q
  induction h with
  | pure h => exact hf _ h
  | throw e => exact .throw e
  | statement hlocks hwrite hrest hnext _ ih =>
    refine .statement hlocks hwrite hrest (fun v v' hv => ?_) ih
    rw [hnext v v' hv]
  | commit _ ih => exact .commit ih

lemma confined_pure {a : α} (h : P a) : (Pure.pure a : Program σ ν ε α).Confined R G P := .pure h

lemma Confined.map (h : p.Confined R G P) (g : α → β) : (g <$> p).Confined R G fun _ => True := by
  rw [map_eq_pure_bind]
  exact h.bind fun _ _ => .pure trivial

lemma Confined.transaction (h : p.Confined R G P) : p.transaction.Confined R G P :=
  h.bind fun _ ha => .commit (.pure ha)

variable (hrefl : ∀ db, G db db)

include hrefl

lemma confined_select {query : σ → α} (h : ∀ v v', R v v' → query v = query v' ∧ P (query v)) :
    (select query : Program σ ν ε α).Confined R G P :=
  .statement (fun _ _ _ => rfl) (fun _ _ _ _ _ hb => hb) (fun _ _ _ base _ _ => hrefl base)
    (fun _ _ hv => congrArg Program.pure (h _ _ hv).1) fun _ _ hv => .pure (h _ _ hv).2

lemma confined_lock (locks : List (Lock ν)) :
    (lock fun _ => locks : Program σ ν ε Unit).Confined R G fun _ => True :=
  .statement (fun _ _ _ => rfl) (fun _ _ _ _ _ hb => hb) (fun _ _ _ base _ _ => hrefl base) (fun _ _ _ => rfl)
    fun _ _ _ => .pure trivial

omit hrefl in
lemma confined_mapM {step : β → Program σ ν ε α} {I : β → Prop} (h : ∀ b, I b → (step b).Confined R G P)
    (rows : List β)
    (hrows : ∀ b ∈ rows, I b) : (rows.mapM step).Confined R G fun _ => True := by
  induction rows with
  | nil =>
    rw [List.mapM_nil]
    exact confined_pure trivial
  | cons b rows ih =>
    rw [List.mapM_cons]
    refine (h b (hrows b (List.mem_cons_self ..))).bind fun _ _ => ?_
    exact (ih fun b hb => hrows b (List.mem_cons_of_mem _ hb)).bind fun _ _ => confined_pure trivial

end Rules

lemma Confined.twins {R G : σ → σ → Prop} {P : α → Prop} {p : Program σ ν ε α} (h : p.Confined R G P)
    (hR : Agreement R) (hG : ∀ {a b c}, G a b → G b c → G a c) (start start' : σ) :
    p.Blind fun db db' => R db db' ∧ G start db ∧ G start' db' := by
  induction h with
  | pure h => exact .pure rfl
  | throw e => exact .throw e
  | @statement locks write next hlocks hwrite hrest hnext _ ih =>
    refine .statement (fun v v' hv => hlocks v v' hv.rows.1) (fun v v' hv base base' hb => ?_) fun v v' hv => ?_
    · refine ⟨hwrite v v' hv.rows.1 base base' hb.1, hG hb.2.1 (hrest v v' hv.rows.1 base base' hb.1), ?_⟩
      exact hG hb.2.2 (hrest v' v (hR.symm hv.rows.1) base' base (hR.symm hb.1))
    · rw [← hnext v v' hv.rows.1]
      exact ih v v' hv.rows.1
  | commit _ ih => exact .commit ih

end Program

structure Relation.Fenced {ρ κ : Type} {key : ρ → κ} (t : Relation σ ν key) (R G : σ → σ → Prop) (mine : ρ → Bool)
    (sound : ρ → Prop) : Prop where
  rows : ∀ {db db'}, R db db' → (t.get db).rows.filter mine = (t.get db').rows.filter mine
  whole : ∀ {db db'}, R db db' → ∀ r ∈ (t.get db).rows, mine r = true → sound r
  put : ∀ {db db'}, R db db' → ∀ x x' : Table key, x.rows.filter mine = x'.rows.filter mine →
    (∀ r ∈ x.rows, mine r = true → sound r) → R (t.put db x) (t.put db' x')
  rest : ∀ db (x : Table key), (x.rows.filter fun r => !mine r) = ((t.get db).rows.filter fun r => !mine r) →
    G db (t.put db x)
  refl : ∀ db, G db db

structure Relation.Admits {ρ κ : Type} {key : ρ → κ} (t : Relation σ ν key) (R : σ → σ → Prop) (mine : ρ → Bool)
    (sound : ρ → Prop) (r : ρ) : Prop where
  own : mine r = true
  whole : sound r
  keys : ∀ s, key s = key r → mine s = true
  violation : ∀ db db', R db db' → t.violation db r = t.violation db' r

namespace Relation

open Program

variable {ρ κ : Type} {key : ρ → κ} {t : Relation σ ν key} {R G : σ → σ → Prop} {own p : ρ → Bool}
  {whole : ρ → Prop}

lemma confined_orThrow [QueryError ε] {P : α → Prop} {a : Option α} (h : ∀ x ∈ a, P x) :
    (orThrow a : Program σ ν ε α).Confined R G P := by
  cases a with
  | some a => exact .pure (h a rfl)
  | none => exact .throw _

namespace Fenced

section Tables

variable (h : t.Fenced R G own whole)

lemma filter_of_own (hp : ∀ r, p r = true → own r = true) (rows : List ρ) :
    (rows.filter own).filter p = rows.filter p := by
  rw [List.filter_filter]
  refine List.filter_congr fun r _ => ?_
  cases hr : p r with
  | false => rfl
  | true => rw [hp r hr]; rfl

include h

lemma matching {db db' : σ} (hdb : R db db') (hp : ∀ r, p r = true → own r = true) :
    t.matching p db = t.matching p db' := by
  rw [Relation.matching, Relation.matching, ← filter_of_own hp, h.rows hdb, filter_of_own hp]

lemma whole_of_matching {db db' : σ} (hdb : R db db') (hp : ∀ r, p r = true → own r = true) :
    ∀ r ∈ t.matching p db, p r = true ∧ whole r := by
  intro r hr
  obtain ⟨hr, hpr⟩ := List.mem_filter.mp hr
  exact ⟨hpr, h.whole hdb r hr (hp r hpr)⟩

lemma any {db db' : σ} (hdb : R db db') (hp : ∀ r, p r = true → own r = true) :
    (t.get db).rows.any p = (t.get db').rows.any p := by
  have hany : ∀ rows : List ρ, rows.any p = (rows.filter own).any p := by
    intro rows
    rw [List.any_filter]
    congr 1
    funext r
    cases hr : p r with
    | false => rw [Bool.and_false]
    | true => rw [hp r hr]; rfl
  rw [hany, h.rows hdb, ← hany]

lemma all {db db' : σ} (hdb : R db db') (hp : ∀ r, p r = false → own r = true) :
    (t.get db).rows.all p = (t.get db').rows.all p := by
  rw [List.all_eq_not_any_not, List.all_eq_not_any_not, h.any hdb fun r hr => hp r (by simpa using hr)]

variable [DecidableEq κ]

lemma find? {db db' : σ} (hdb : R db db') {k : κ} (hk : ∀ r, key r = k → own r = true) :
    (t.get db).find? k = (t.get db').find? k := by
  have hfind : ∀ x : Table key, x.find? k = (x.rows.filter fun r => decide (key r = k)).head? := fun x =>
    List.head?_filter.symm
  rw [hfind, hfind]
  exact congrArg List.head? (h.matching hdb fun r hr => hk r (of_decide_eq_true hr))

lemma seen {db db' : σ} (hdb : R db db') (hp : ∀ r, p r = true → own r = true) : t.seen p db = t.seen p db' := by
  funext r
  rw [Relation.seen, Relation.seen, h.matching hdb hp]

omit h in
lemma seen_imp (db : σ) {r : ρ} (hr : t.seen p db r = true) : p r = true := by
  rw [Relation.seen, Bool.and_eq_true] at hr
  exact hr.1

lemma put_insert {base base' : σ} (hb : R base base') {r : ρ} (hr : t.Admits R own whole r) :
    R (t.put base ((t.get base).insert r)) (t.put base' ((t.get base').insert r)) := by
  refine h.put hb _ _ ?_ fun s hs hos => ?_
  · have hfind := h.find? hb hr.keys
    cases hpresent : (t.get base').find? (key r) with
    | some s => rw [Table.insert_of_present hpresent, Table.insert_of_present (hfind.trans hpresent), h.rows hb]
    | none =>
      rw [Table.insert_of_absent hpresent, Table.insert_of_absent (hfind.trans hpresent), List.filter_append,
        List.filter_append, h.rows hb]
  · rcases Table.mem_of_mem_insert hs with hs | rfl
    · exact h.whole hb s hs hos
    · exact hr.whole

lemma rest_insert (base : σ) {r : ρ} (hown : own r = true) : G base (t.put base ((t.get base).insert r)) := by
  refine h.rest base _ ?_
  cases hfind : (t.get base).find? (key r) with
  | some s => rw [Table.insert_of_present hfind]
  | none => simp only [Table.insert_of_absent hfind, List.filter_append, List.filter_cons, hown, List.filter_nil,
      Bool.not_true, if_neg Bool.false_ne_true, List.append_nil]

omit [DecidableEq κ] in
lemma put_update {base base' : σ} (hR : Agreement R) (hb : R base base') {q : ρ → Bool}
    (hq : ∀ r, q r = true → own r = true) {f : ρ → ρ} (hf : ∀ r, key (f r) = key r)
    (hkeep : ∀ r, own r = true → whole r → own (f r) = true ∧ whole (f r)) :
    R (t.put base ((t.get base).update q f hf)) (t.put base' ((t.get base').update q f hf)) := by
  have hrows : ∀ {b b' : σ}, R b b' → ((t.get b).update q f hf).rows.filter own =
      ((t.get b).rows.filter own).map fun r => if q r then f r else r := by
    intro b b' hbb'
    rw [Table.update_rows, List.filter_map]
    congr 1
    refine List.filter_congr fun r hr => ?_
    rw [Function.comp_apply]
    cases hqr : q r with
    | false => rfl
    | true => rw [if_pos rfl, hq r hqr, (hkeep r (hq r hqr) (h.whole hbb' r hr (hq r hqr))).1]
  refine h.put hb _ _ ?_ fun s hs hos => ?_
  · rw [hrows hb, hrows (hR.symm hb), h.rows hb]
  · obtain ⟨r, hr, rfl⟩ := Table.mem_update.mp hs
    cases hqr : q r with
    | false =>
      rw [hqr] at hos
      exact h.whole hb r hr hos
    | true => exact (hkeep r (hq r hqr) (h.whole hb r hr (hq r hqr))).2

omit [DecidableEq κ] in
lemma rest_update {base base' : σ} (hb : R base base') {q : ρ → Bool}
    (hq : ∀ r, q r = true → own r = true) {f : ρ → ρ}
    (hf : ∀ r, key (f r) = key r) (hkeep : ∀ r, own r = true → whole r → own (f r) = true ∧ whole (f r)) :
    G base (t.put base ((t.get base).update q f hf)) := by
  refine h.rest base _ ?_
  rw [Table.update_rows, List.filter_map]
  have hfilter : (t.get base).rows.filter ((fun r => !own r) ∘ fun r => if q r then f r else r) =
      (t.get base).rows.filter fun r => !own r := by
    refine List.filter_congr fun r hr => ?_
    rw [Function.comp_apply]
    cases hqr : q r with
    | false => rfl
    | true => rw [if_pos rfl, hq r hqr, (hkeep r (hq r hqr) (h.whole hb r hr (hq r hqr))).1]
  rw [hfilter]
  refine (List.map_congr_left fun r hr => ?_).trans (List.map_id _)
  cases hqr : q r with
  | false => rfl
  | true =>
    have hother := (List.mem_filter.mp hr).2
    rw [hq r hqr] at hother
    cases hother

omit [DecidableEq κ] in
lemma put_delete {base base' : σ} (hb : R base base') (q : ρ → Bool) :
    R (t.put base ((t.get base).delete q)) (t.put base' ((t.get base').delete q)) := by
  refine h.put hb _ _ ?_ fun s hs hos => ?_
  · rw [Table.delete_rows, Table.delete_rows, List.filter_comm, h.rows hb, List.filter_comm]
  · exact h.whole hb s (Table.mem_delete.mp hs).1 hos

omit [DecidableEq κ] in
lemma rest_delete (base : σ) {q : ρ → Bool} (hq : ∀ r, q r = true → own r = true) :
    G base (t.put base ((t.get base).delete q)) := by
  refine h.rest base _ ?_
  rw [Table.delete_rows, List.filter_filter]
  refine List.filter_congr fun r _ => ?_
  cases hqr : q r with
  | false => rw [Bool.not_false, Bool.and_true]
  | true => rw [hq r hqr]; rfl

end Tables

section Statements

variable (h : t.Fenced R G own whole)

include h

lemma confined_selectFrom (hp : ∀ r, p r = true → own r = true) :
    (t.selectFrom p : Program σ ν ε _).Confined R G fun rows => ∀ r ∈ rows, p r = true ∧ whole r :=
  confined_select h.refl fun _ _ hdb => ⟨h.matching hdb hp, h.whole_of_matching hdb hp⟩

lemma confined_selectFirst (hp : ∀ r, p r = true → own r = true) :
    (t.selectFirst p : Program σ ν ε _).Confined R G fun row => ∀ r ∈ row, p r = true ∧ whole r :=
  confined_select h.refl fun _ _ hdb => ⟨by rw [h.matching hdb hp], fun r hr =>
    h.whole_of_matching hdb hp r (List.mem_of_head? hr)⟩

lemma confined_selectFirstOrThrow [QueryError ε] (hp : ∀ r, p r = true → own r = true) :
    (t.selectFirstOrThrow p : Program σ ν ε _).Confined R G fun r => p r = true ∧ whole r :=
  (h.confined_selectFirst hp).bind fun _ hrow => confined_orThrow hrow

lemma confined_forUpdate (hp : ∀ r, p r = true → own r = true) :
    (t.forUpdate p : Program σ ν ε _).Confined R G fun rows => ∀ r ∈ rows, p r = true ∧ whole r := by
  refine .statement (fun v v' hv => ?_) (fun _ _ _ _ _ hb => hb) (fun _ _ _ base _ _ => h.refl base)
    (fun v v' hv => ?_)
    fun v v' hv => .pure (h.whole_of_matching hv hp)
  · rw [h.matching hv hp]
  · rw [h.matching hv hp]

variable [DecidableEq κ]

lemma confined_deleteFrom (hp : ∀ r, p r = true → own r = true) :
    (t.deleteFrom p : Program σ ν ε _).Confined R G fun _ => True := by
  refine .statement (fun v v' hv => ?_) (fun v v' hv base base' hb => ?_) (fun v v' _ base _ _ => ?_)
    (fun v v' hv => ?_) fun v v' hv => .pure trivial
  · rw [h.matching hv hp]
  · rw [h.seen hv hp]
    exact h.put_delete hb _
  · exact h.rest_delete base fun r hr => hp r (seen_imp _ hr)
  · rw [h.matching hv hp]

variable [QueryError ε]

lemma confined_updateTable (hR : Agreement R) (hp : ∀ r, p r = true → own r = true) {f : ρ → ρ}
    (hf : ∀ r, key (f r) = key r) (hkeep : ∀ r, own r = true → whole r → own (f r) = true ∧ whole (f r)) :
    (t.updateTable p f hf : Program σ ν ε _).Confined R G fun rows =>
      ∀ r ∈ rows, ∃ s, p s = true ∧ whole s ∧ f s = r := by
  refine .statement (fun v v' hv => ?_) (fun v v' hv base base' hb => ?_) (fun v v' _ base base' hb => ?_)
    (fun v v' hv => ?_) fun v v' hv => ?_
  · rw [h.matching hv hp]
  · rw [h.seen hv hp]
    exact h.put_update hR hb (fun r hr => hp r (seen_imp _ hr)) hf hkeep
  · exact h.rest_update hb (fun r hr => hp r (seen_imp _ hr)) hf hkeep
  · rw [h.matching hv hp]
  · cases ((t.matching p v.rows).map f).findSome? t.check with
    | some name => exact .throw _
    | none =>
      refine .pure fun r hr => ?_
      obtain ⟨s, hs, rfl⟩ := List.mem_map.mp hr
      exact ⟨s, (h.whole_of_matching hv hp s hs).1, (h.whole_of_matching hv hp s hs).2, rfl⟩

lemma broken {db db' : σ} (hdb : R db db') {r : ρ} (hr : t.Admits R own whole r) :
    t.broken db r = t.broken db' r := by
  rw [Relation.broken, Relation.broken, h.find? hdb hr.keys, hr.violation db db' hdb]

lemma confined_insertInto {r : ρ} (hr : t.Admits R own whole r) :
    (t.insertInto r : Program σ ν ε Unit).Confined R G fun _ => True := by
  refine .statement (fun _ _ _ => rfl) (fun v v' hv base base' hb => h.put_insert hb hr)
    (fun v v' _ base _ _ => h.rest_insert base hr.own) (fun v v' hv => ?_) fun v v' hv => ?_
  · rw [h.broken hv hr]
  · cases t.broken v.rows r with
    | some name => exact .throw _
    | none => exact .pure trivial

lemma confined_insertOrIgnore {r : ρ} (hr : t.Admits R own whole r) :
    (t.insertOrIgnore r : Program σ ν ε Unit).Confined R G fun _ => True := by
  refine .statement (fun _ _ _ => rfl) (fun v v' hv base base' hb => ?_) (fun v v' _ base _ _ => ?_)
    (fun v v' hv => ?_)
    fun v v' hv => ?_
  · rw [h.find? hv hr.keys]
    cases (t.get v'.rows).find? (key r) with
    | some s => exact hb
    | none => exact h.put_insert hb hr
  · cases (t.get v.rows).find? (key r) with
    | some s => exact h.refl base
    | none => exact h.rest_insert base hr.own
  · rw [h.find? hv hr.keys, h.broken hv hr]
  · cases (t.get v.rows).find? (key r) with
    | some s => exact .pure trivial
    | none => cases t.broken v.rows r with
      | some name => exact .throw _
      | none => exact .pure trivial

lemma confined_insertUnless {conflicts : ρ → Bool} (hp : ∀ s, conflicts s = true → own s = true) {r : ρ}
    (hr : t.Admits R own whole r) : (t.insertUnless conflicts r : Program σ ν ε Unit).Confined R G
    fun _ => True := by
  refine .statement (fun v v' hv => ?_) (fun v v' hv base base' hb => ?_) (fun v v' _ base _ _ => ?_)
    (fun v v' hv => ?_) fun v v' hv => ?_
  · rw [h.matching hv hp]
  · rw [h.matching hv hp]
    split
    · exact h.put_insert hb hr
    · exact hb
  · split
    · exact h.rest_insert base hr.own
    · exact h.refl base
  · rw [h.matching hv hp, h.broken hv hr]
  · split
    · cases t.broken v.rows r with
      | some name => exact .throw _
      | none => exact .pure trivial
    · exact .pure trivial

lemma confined_upsert (hR : Agreement R) {conflicts : ρ → Bool} (hp : ∀ s, conflicts s = true → own s = true)
    {f : ρ → ρ} (hf : ∀ s, key (f s) = key s)
    (hkeep : ∀ s, own s = true → whole s → own (f s) = true ∧ whole (f s))
    {r : ρ} (hr : t.Admits R own whole r) :
    (t.upsert conflicts f hf r : Program σ ν ε Unit).Confined R G fun _ => True := by
  refine .statement (fun v v' hv => ?_) (fun v v' hv base base' hb => ?_) (fun v v' _ base base' hb => ?_)
    (fun v v' hv => ?_) fun v v' hv => ?_
  · rw [h.matching hv hp]
  · rw [h.matching hv hp, h.seen hv hp]
    split
    · exact h.put_insert hb hr
    · exact h.put_update hR hb (fun s hs => hp s (seen_imp _ hs)) hf hkeep
  · split
    · exact h.rest_insert base hr.own
    · exact h.rest_update hb (fun s hs => hp s (seen_imp _ hs)) hf hkeep
  · rw [h.matching hv hp, h.broken hv hr]
  · split
    · cases t.broken v.rows r with
      | some name => exact .throw _
      | none => exact .pure trivial
    · cases ((t.matching conflicts v.rows).map f).findSome? t.check with
      | some name => exact .throw _
      | none => exact .pure trivial

end Statements

end Fenced

end Relation

end ChatCore.Relational
