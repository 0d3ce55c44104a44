import ChatCore.Relational.Confinement

/-! Programs of many parties, each confined to its own rows: to each of them the run is one in which it is
alone. -/

namespace ChatCore.Relational

variable {σ ν ε α γ ι : Type}

structure Partition (R G : ι → σ → σ → Prop) : Prop where
  agreement : ∀ i, Agreement (R i)
  refl : ∀ i a, G i a a
  trans : ∀ i {a b c}, G i a b → G i b c → G i a c
  apart : ∀ {i j}, i ≠ j → ∀ {a b c}, R i a a → R i b b → G i a b → R j a c → R j b c

structure Share (ρ : Type) where
  part : ρ → Bool
  whole : ρ → Prop

structure Share.Same {ρ : Type} (s : Share ρ) (x x' : List ρ) : Prop where
  rows : x.filter s.part = x'.filter s.part
  whole : ∀ r ∈ x, s.part r = true → s.whole r

def Share.Spared {ρ : Type} (s : Share ρ) (rows rows' : List ρ) : Prop :=
  (rows'.filter fun r => !s.part r) = rows.filter fun r => !s.part r

namespace Share

variable {ρ : Type} {s u : Share ρ} {rows rows' rows'' : List ρ}

lemma Same.symm (h : s.Same rows rows') : s.Same rows' rows := by
  refine ⟨h.rows.symm, fun r hr hp => ?_⟩
  have hm : r ∈ rows'.filter s.part := List.mem_filter.mpr ⟨hr, hp⟩
  rw [← h.rows] at hm
  exact h.whole r (List.mem_of_mem_filter hm) hp

lemma Same.trans (h : s.Same rows rows') (h' : s.Same rows' rows'') : s.Same rows rows'' :=
  ⟨h.rows.trans h'.rows, h.whole⟩

lemma Same.apart (h : s.Same rows rows) (h' : s.Same rows' rows') (hspared : s.Spared rows rows')
    (hdisjoint : ∀ r, s.part r = true → s.whole r → u.part r = false) (hsame : u.Same rows rows'') :
    u.Same rows' rows'' := by
  have hothers : ∀ {x : List ρ}, s.Same x x → (x.filter fun r => !s.part r).filter u.part = x.filter u.part := by
    intro x hx
    rw [List.filter_filter]
    refine List.filter_congr fun r hr => ?_
    cases hp : s.part r with
    | false => rw [Bool.not_false, Bool.and_true]
    | true => rw [hdisjoint r hp (hx.whole r hr hp), Bool.false_and]
  have hrows : rows'.filter u.part = rows.filter u.part := by rw [← hothers h', hspared, hothers h]
  refine ⟨hrows.trans hsame.rows, fun r hr hp => ?_⟩
  have hm : r ∈ rows'.filter u.part := List.mem_filter.mpr ⟨hr, hp⟩
  rw [hrows] at hm
  exact hsame.whole r (List.mem_of_mem_filter hm) hp

end Share

def issued (moves : List (Move γ)) : List γ := moves.filterMap fun m => match m with
  | .start call => some call
  | _ => none

@[simp] lemma issued_start (call : γ) : issued [Move.start call] = [call] := rfl

@[simp] lemma issued_advance (id : ℕ) : issued [(Move.advance id : Move γ)] = [] := rfl

@[simp] lemma issued_crash (id : ℕ) : issued [(Move.crash id : Move γ)] = [] := rfl

lemma issued_append (moves more : List (Move γ)) : issued (moves ++ more) = issued moves ++ issued more :=
  List.filterMap_append

section Results

variable [DecidableEq ι] (owner : γ → ι) (j : ι)

def Record.told : Record σ ε α γ → Option (γ × Except ε α)
  | .committed .. => none
  | .finished _ call result => if owner call = j then some (call, result) else none

def told (history : List (Record σ ε α γ)) : List (γ × Except ε α) := history.filterMap (Record.told owner j)

@[simp] lemma told_append (history more : List (Record σ ε α γ)) :
    told owner j (history ++ more) = told owner j history ++ told owner j more := List.filterMap_append

@[simp] lemma told_committed (id : ℕ) (call : γ) (before after : σ) :
    told owner j [(Record.committed id call before after : Record σ ε α γ)] = [] := rfl

variable {owner j}

lemma told_own {call : γ} (h : owner call = j) (id : ℕ) (result : Except ε α) :
    told owner j [(Record.finished id call result : Record σ ε α γ)] = [(call, result)] := by
  simp only [told, List.filterMap_cons, Record.told, if_pos h, List.filterMap_nil]

lemma told_other {call : γ} (h : owner call ≠ j) (id : ℕ) (result : Except ε α) :
    told owner j [(Record.finished id call result : Record σ ε α γ)] = [] := by
  simp only [told, List.filterMap_cons, Record.told, if_neg h, List.filterMap_nil]

end Results

section Lists

variable {ρ ρ' : Type} {S : ρ → ρ' → Prop}

lemma split_at {rows : List ρ} {i : ℕ} {r : ρ} (h : rows[i]? = some r) :
    ∃ before after, rows = before ++ r :: after ∧ before.length = i := by
  obtain ⟨hi, rfl⟩ := List.getElem?_eq_some_iff.mp h
  refine ⟨rows.take i, rows.drop (i + 1), ?_, ?_⟩
  · rw [List.getElem_cons_drop, List.take_append_drop]
  · rw [List.length_take]
    omega

lemma forall₂_split {before after : List ρ} {r : ρ} {rows : List ρ'}
    (h : List.Forall₂ S (before ++ r :: after) rows) :
    ∃ before' r' after', rows = before' ++ r' :: after' ∧ List.Forall₂ S before before' ∧ S r r' ∧
      List.Forall₂ S after after' := by
  induction before generalizing rows with
  | nil =>
    cases h with
    | cons hr hafter => exact ⟨[], _, _, rfl, .nil, hr, hafter⟩
  | cons b before ih =>
    cases h with
    | cons hb hrest =>
      obtain ⟨before', r', after', rfl, hbefore, hr, hafter⟩ := ih hrest
      exact ⟨_ :: before', r', after', rfl, .cons hb hbefore, hr, hafter⟩

end Lists

section Advances

-- what one session's turn makes of a world in which it stands between others

variable [DecidableEq ν] {w : World σ ν ε α γ} {s x : Session σ ν ε α γ} {before after : List (Session σ ν ε α γ)}

omit [DecidableEq ν] in
lemma set_split : (before ++ s :: after).set before.length x = before ++ x :: after := by simp

lemma busy_split (hs : w.sessions = before ++ s :: after) (l : Lock ν) :
    w.busy before.length l = (before.any (World.blocks l) || after.any (World.blocks l)) := by
  have herase : (before ++ s :: after).eraseIdx before.length = before ++ after := by
    simp [List.eraseIdx_append_of_length_le]
  rw [World.busy, hs, herase, List.any_append]

variable (hs : w.sessions = before ++ s :: after)

include hs

lemma advance_pure {a : α} (hp : s.program = .pure a) : w.advance before.length s =
    ⟨s.pending w.db, before ++ { s with held := [], live := false } :: after,
      w.history ++ [.committed before.length s.call w.db (s.pending w.db)] ++
        [.finished before.length s.call (.ok a)]⟩ := by
  simp only [World.advance, hp, World.close, World.commit, hs, set_split]

lemma advance_throw {e : ε} (hp : s.program = .throw e) : w.advance before.length s =
    ⟨w.db, before ++ { s with held := [], live := false } :: after,
      w.history ++ [.finished before.length s.call (.error e)]⟩ := by
  simp only [World.advance, hp, World.close, hs, set_split]

lemma advance_commit {next : Program σ ν ε α} (hp : s.program = .commit next) : w.advance before.length s =
    ⟨s.pending w.db, before ++ { s with program := next, pending := fun base => base, held := [] } :: after,
      w.history ++ [.committed before.length s.call w.db (s.pending w.db)]⟩ := by
  simp only [World.advance, hp, World.commit, hs, set_split]

variable {locks : View σ ν → List (Lock ν)} {write : View σ ν → σ → σ} {next : View σ ν → Program σ ν ε α}
  (hp : s.program = .statement locks write next)

include hp

omit hs in
lemma advance_blocked (hblocked : (locks (w.view before.length s)).any (w.busy before.length) = true) :
    w.advance before.length s = w := by
  simp only [World.advance, hp, hblocked, if_true]

lemma advance_statement (hfree : (locks (w.view before.length s)).any (w.busy before.length) = false) :
    w.advance before.length s = ⟨w.db, before ++ { s with
      program := next (w.view before.length s)
      pending := fun base => write (w.view before.length s) (s.pending base)
      held := locks (w.view before.length s) ++ s.held } :: after, w.history⟩ := by
  simp only [World.advance, hp, hfree, Bool.false_eq_true, if_false]
  rw [hs, set_split]

end Advances

variable {R G : ι → σ → σ → Prop} {owner : γ → ι} {j : ι}

structure Session.Keeps (R G : ι → σ → σ → Prop) (owner : γ → ι) (s : Session σ ν ε α γ) : Prop where
  program : s.program.Confined (R (owner s.call)) (G (owner s.call)) fun _ => True
  rows : ∀ base base', R (owner s.call) base base' → R (owner s.call) (s.pending base) (s.pending base')
  rest : ∀ base, R (owner s.call) base base → G (owner s.call) base (s.pending base)

structure Session.Lone (R : σ → σ → Prop) (s s' : Session σ ν ε α γ) : Prop where
  call : s.call = s'.call
  program : s.program = s'.program
  pending : ∀ base base', R base base' → R (s.pending base) (s'.pending base')
  held : s.held = s'.held
  live : s.live = s'.live

structure World.Lone [DecidableEq ι] (R G : ι → σ → σ → Prop) (owner : γ → ι) (j : ι)
    (w w' : World σ ν ε α γ) : Prop where
  rows : R j w.db w'.db
  whole : ∀ i, R i w.db w.db
  keeps : ∀ s ∈ w.sessions, s.Keeps R G owner
  lone : List.Forall₂ (Session.Lone (R j)) (w.sessions.filter fun s => decide (owner s.call = j)) w'.sessions
  history : told owner j w.history = told owner j w'.history

namespace World.Lone

variable [DecidableEq ν] [DecidableEq ι] {w w' : World σ ν ε α γ} {s s' x x' : Session σ ν ε α γ}
  {before after before' after' : List (Session σ ν ε α γ)}

omit [DecidableEq ν] in
lemma keeps_replaced (h : w.Lone R G owner j w') (hs : w.sessions = before ++ s :: after)
    (hx : x.Keeps R G owner) :
    ∀ r ∈ before ++ x :: after, r.Keeps R G owner := by
  intro r hr
  rcases List.mem_append.mp hr with hr | hr
  · exact h.keeps r (hs ▸ List.mem_append_left _ hr)
  rcases List.mem_cons.mp hr with rfl | hr
  · exact hx
  · exact h.keeps r (hs ▸ List.mem_append_right _ (List.mem_cons_of_mem _ hr))

omit [DecidableEq ν] in
lemma other (h : w.Lone R G owner j w') (hs : w.sessions = before ++ s :: after) (hother : owner s.call ≠ j)
    (hx : x.Keeps R G owner) (hcall : x.call = s.call) {db : σ} {history : List (Record σ ε α γ)}
    (hrows : R j db w'.db) (hwhole : ∀ i, R i db db) (hhistory : told owner j history = told owner j w.history) :
    (⟨db, before ++ x :: after, history⟩ : World σ ν ε α γ).Lone R G owner j w' where
  rows := hrows
  whole := hwhole
  keeps := h.keeps_replaced hs hx
  lone := by
    have hlone := h.lone
    rw [hs] at hlone
    simpa only [List.filter_append, List.filter_cons, hcall, decide_eq_false hother, Bool.false_eq_true, if_false]
      using hlone
  history := hhistory.trans h.history

omit [DecidableEq ν] in
lemma own (h : w.Lone R G owner j w') (hs : w.sessions = before ++ s :: after) (hown : owner s.call = j) :
    ∃ before' s' after', w'.sessions = before' ++ s' :: after' ∧
      List.Forall₂ (Session.Lone (R j)) (before.filter fun s => decide (owner s.call = j)) before' ∧
      s.Lone (R j) s' ∧ List.Forall₂ (Session.Lone (R j))
      (after.filter fun s => decide (owner s.call = j)) after' := by
  have hlone := h.lone
  rw [hs, List.filter_append, List.filter_cons, if_pos (decide_eq_true hown)] at hlone
  exact forall₂_split hlone

omit [DecidableEq ν] in
lemma rejoin (hown : owner x.call = j)
    (hbefore : List.Forall₂ (Session.Lone (R j)) (before.filter fun s => decide (owner s.call = j)) before')
    (hx : x.Lone (R j) x')
    (hafter : List.Forall₂ (Session.Lone (R j)) (after.filter fun s => decide (owner s.call = j)) after') :
    List.Forall₂ (Session.Lone (R j)) ((before ++ x :: after).filter fun s => decide (owner s.call = j))
      (before' ++ x' :: after') := by
  rw [List.filter_append, List.filter_cons, if_pos (decide_eq_true hown)]
  exact forall₂_append hbefore (.cons hx hafter)

omit [DecidableEq ι] in
lemma any_blocks {p : Session σ ν ε α γ → Bool} {l : Lock ν} {rows rows' : List (Session σ ν ε α γ)}
    {S : σ → σ → Prop}
    (h : List.Forall₂ (Session.Lone S) (rows.filter p) rows') (hany : rows'.any (blocks l) = true) :
    rows.any (blocks l) = true := by
  have hsame : ∀ {rows rows' : List (Session σ ν ε α γ)}, List.Forall₂ (Session.Lone S) rows rows' →
      rows.any (blocks l) = rows'.any (blocks l) := by
    intro rows rows' hrows
    induction hrows with
    | nil => rfl
    | cons hs _ ih => rw [List.any_cons, List.any_cons, ih, blocks, blocks, hs.live, hs.held]
  obtain ⟨s, hs, hb⟩ := List.any_eq_true.mp ((hsame h).trans hany)
  exact List.any_eq_true.mpr ⟨s, List.mem_of_mem_filter hs, hb⟩

omit [DecidableEq ν] in
lemma committed_whole (hP : Partition R G) (h : w.Lone R G owner j w') (hk : s.Keeps R G owner) (i : ι) :
    R i (s.pending w.db) (s.pending w.db) := by
  by_cases hi : owner s.call = i
  · subst hi
    exact hk.rows _ _ (h.whole _)
  · exact (hP.agreement i).left
      (hP.apart hi (h.whole _) (hk.rows _ _ (h.whole _)) (hk.rest _ (h.whole _)) (h.whole i))

omit [DecidableEq ν] [DecidableEq ι] in
lemma closed (hk : s.Keeps R G owner) :
    ({ s with held := [], live := false } : Session σ ν ε α γ).Keeps R G owner :=
  ⟨hk.program, hk.rows, hk.rest⟩

omit [DecidableEq ν] [DecidableEq ι] in
lemma relieved (hP : Partition R G) {next : Program σ ν ε α}
    (hnext : next.Confined (R (owner s.call)) (G (owner s.call)) fun _ => True) :
    ({ s with program := next, pending := fun base => base, held := [] } : Session σ ν ε α γ).Keeps R G owner :=
  ⟨hnext, fun _ _ hb => hb, fun base _ => hP.refl _ base⟩

omit [DecidableEq ν] [DecidableEq ι] in
lemma proceeded (hP : Partition R G) (hk : s.Keeps R G owner) {v : View σ ν} {write : View σ ν → σ → σ}
    {next : View σ ν → Program σ ν ε α} (held : List (Lock ν))
    (hwrite : ∀ base base', R (owner s.call) base base' → R (owner s.call) (write v base) (write v base'))
    (hrest : ∀ base base', R (owner s.call) base base' → G (owner s.call) base (write v base))
    (hnext : (next v).Confined (R (owner s.call)) (G (owner s.call)) fun _ => True) :
    ({ s with program := next v, pending := fun base => write v (s.pending base), held := held } :
      Session σ ν ε α γ).Keeps R G owner where
  program := hnext
  rows _ _ hb := hwrite _ _ (hk.rows _ _ hb)
  rest base hb := hP.trans _ (hk.rest base hb) (hrest _ _ (hk.rows _ _ hb))

lemma advance_other (hP : Partition R G) (h : w.Lone R G owner j w') (hs : w.sessions = before ++ s :: after)
    (hother : owner s.call ≠ j) : (w.advance before.length s).Lone R G owner j w' := by
  have hk := h.keeps s (hs ▸ List.mem_append_right _ (List.mem_cons_self ..))
  have hwhole := h.committed_whole hP hk
  have hrows : R j (s.pending w.db) w'.db :=
    hP.apart hother (h.whole _) (hk.rows _ _ (h.whole _)) (hk.rest _ (h.whole _)) h.rows
  have hprogram := hk.program
  generalize hp : s.program = program at hprogram
  cases hprogram with
  | pure _ =>
    rw [advance_pure hs hp]
    refine h.other hs hother (closed hk) rfl hrows hwhole ?_
    rw [told_append, told_append, told_committed, told_other hother, List.append_nil, List.append_nil]
  | throw e =>
    rw [advance_throw hs hp]
    refine h.other hs hother (closed hk) rfl h.rows h.whole ?_
    rw [told_append, told_other hother, List.append_nil]
  | commit hnext =>
    rw [advance_commit hs hp]
    exact h.other hs hother (relieved hP hnext) rfl hrows hwhole (by simp)
  | @statement locks write next hlocks hwrite hrest hnext hconfined =>
    cases hblocked : (locks (w.view before.length s)).any (w.busy before.length) with
    | true =>
      rw [advance_blocked hp hblocked]
      exact h
    | false =>
      rw [advance_statement hs hp hblocked]
      have hv : R (owner s.call) (w.view before.length s).rows (w.view before.length s).rows :=
        hk.rows _ _ (h.whole _)
      exact h.other hs hother (proceeded hP hk _ (hwrite _ _ hv) (hrest _ _ hv) (hconfined _ _ hv)) rfl
        h.rows h.whole
        rfl

section Steps

variable (body : γ → Program σ ν ε α)

omit [DecidableEq ν] in
lemma getElem?_split : (before ++ s :: after)[before.length]? = some s := by simp

lemma step_advance (hs : w.sessions = before ++ s :: after) (hlive : s.live = true) :
    w.step body (.advance before.length) = w.advance before.length s := by
  simp only [World.step, hs, getElem?_split, hlive, if_true]

lemma step_crash (hs : w.sessions = before ++ s :: after) (hlive : s.live = true) :
    w.step body (.crash before.length) =
      ⟨w.db, before ++ { s with held := [], live := false } :: after, w.history⟩ := by
  simp only [World.step, hs, getElem?_split, hlive, if_true, set_split]

lemma advance_own (hP : Partition R G) (h : w.Lone R G owner j w') (hs : w.sessions = before ++ s :: after)
    (hown : owner s.call = j) (hlive : s.live = true) :
    ∃ moves : List (Move γ), issued moves = [] ∧ (w.advance before.length s).Lone R G owner j
      (w'.exec body moves) := by
  obtain ⟨before', s', after', hs', hbefore, hlone, hafter⟩ := h.own hs hown
  have hk := h.keeps s (hs ▸ List.mem_append_right _ (List.mem_cons_self ..))
  have hwhole := h.committed_whole hP hk
  have hrows := hlone.pending _ _ h.rows
  have hstep : w'.exec body [.advance before'.length] = w'.advance before'.length s' :=
    step_advance body hs' (hlone.live ▸ hlive)
  have hown' : owner s'.call = j := hlone.call ▸ hown
  have hprogram := hk.program
  rw [hown] at hprogram
  generalize hp : s.program = program at hprogram
  have hp' : s'.program = program := hlone.program ▸ hp
  have hclosed : ({ s with held := [], live := false } : Session σ ν ε α γ).Lone (R j)
      { s' with held := [], live := false } := ⟨hlone.call, hlone.program, hlone.pending, rfl, rfl⟩
  cases hprogram with
  | pure _ =>
    refine ⟨[.advance before'.length], rfl, ?_⟩
    rw [hstep, advance_pure hs hp, advance_pure hs' hp']
    refine ⟨hrows, hwhole, h.keeps_replaced hs (closed hk), rejoin hown hbefore hclosed hafter, ?_⟩
    rw [told_append, told_append, told_append, told_append, told_own hown, told_own hown', hlone.call, h.history]
    rfl
  | throw e =>
    refine ⟨[.advance before'.length], rfl, ?_⟩
    rw [hstep, advance_throw hs hp, advance_throw hs' hp']
    refine ⟨h.rows, h.whole, h.keeps_replaced hs (closed hk), rejoin hown hbefore hclosed hafter, ?_⟩
    rw [told_append, told_append, told_own hown, told_own hown', hlone.call, h.history]
  | commit hnext =>
    refine ⟨[.advance before'.length], rfl, ?_⟩
    rw [hstep, advance_commit hs hp, advance_commit hs' hp']
    refine ⟨hrows, hwhole, h.keeps_replaced hs (relieved hP (hown ▸ hnext)), ?_, by simp [h.history]⟩
    exact rejoin hown hbefore ⟨hlone.call, rfl, fun _ _ hb => hb, rfl, hlone.live⟩ hafter
  | @statement locks write next hlocks hwrite hrest hnext hconfined =>
    cases hblocked : (locks (w.view before.length s)).any (w.busy before.length) with
    | true =>
      refine ⟨[], rfl, ?_⟩
      rw [advance_blocked hp hblocked]
      exact h
    | false =>
      have hv : R j (w.view before.length s).rows (w'.view before'.length s').rows := hrows
      have hself := (hP.agreement j).left hv
      have hfree : (locks (w'.view before'.length s')).any (w'.busy before'.length) = false := by
        rw [List.any_eq_false]
        intro l hl hbusy
        rw [← hlocks _ _ hv] at hl
        rw [busy_split hs', Bool.or_eq_true] at hbusy
        refine List.any_eq_false.mp hblocked l hl ?_
        rw [busy_split hs, Bool.or_eq_true]
        exact hbusy.imp (any_blocks hbefore) (any_blocks hafter)
      refine ⟨[.advance before'.length], rfl, ?_⟩
      rw [hstep, advance_statement hs hp hblocked, advance_statement hs' hp' hfree]
      refine ⟨h.rows, h.whole, h.keeps_replaced hs ?_, rejoin hown hbefore ?_ hafter, h.history⟩
      · exact proceeded hP hk _ (hown ▸ hwrite _ _ hself) (hown ▸ hrest _ _ hself) (hown ▸ hconfined _ _ hself)
      · refine ⟨hlone.call, hnext _ _ hv, fun base base' hb => ?_, ?_, hlone.live⟩
        · exact hwrite _ _ hv _ _ (hlone.pending _ _ hb)
        · rw [hlocks _ _ hv, hlone.held]

variable {body}

lemma idle (h : w.Lone R G owner j w') {m : Move γ} (hstep : w.step body m = w) :
    ∃ moves : List (Move γ), issued moves = [] ∧ (w.step body m).Lone R G owner j (w'.exec body moves) := by
  rw [hstep]
  exact ⟨[], rfl, h⟩

lemma step (hP : Partition R G) (h : w.Lone R G owner j w') (m : Move γ)
    (hbody : ∀ call ∈ issued [m], (body call).Confined (R (owner call)) (G (owner call)) fun _ => True) :
    ∃ moves, issued moves = (issued [m]).filter (fun call => decide (owner call = j)) ∧
      (w.step body m).Lone R G owner j (w'.exec body moves) := by
  cases m with
  | start call =>
    have hk : (⟨call, body call, fun base => base, [], true⟩ : Session σ ν ε α γ).Keeps R G owner :=
      ⟨hbody call (List.mem_singleton_self _), fun _ _ hb => hb, fun base _ => hP.refl _ base⟩
    have hkeeps : ∀ s ∈ w.sessions ++ [⟨call, body call, fun base => base, [], true⟩], s.Keeps R G owner := by
      intro s hs
      rcases List.mem_append.mp hs with hs | hs
      · exact h.keeps s hs
      · rw [List.mem_singleton.mp hs]
        exact hk
    by_cases hown : owner call = j
    · refine ⟨[.start call], by simp [hown], h.rows, h.whole, hkeeps, ?_, h.history⟩
      change List.Forall₂ _ ((w.sessions ++ [_]).filter _) (w'.sessions ++ [_])
      rw [List.filter_append, List.filter_cons, if_pos (decide_eq_true hown)]
      exact forall₂_append h.lone (.cons ⟨rfl, rfl, fun _ _ hb => hb, rfl, rfl⟩ .nil)
    · refine ⟨[], by simp [hown, issued], h.rows, h.whole, hkeeps, ?_, h.history⟩
      change List.Forall₂ _ ((w.sessions ++ [_]).filter _) w'.sessions
      rw [List.filter_append, List.filter_cons, if_neg (by simp [hown]), List.filter_nil, List.append_nil]
      exact h.lone
  | advance id =>
    cases hget : w.sessions[id]? with
    | none => exact h.idle (by simp only [World.step, hget])
    | some s =>
      obtain ⟨before, after, hs, rfl⟩ := split_at hget
      cases hlive : s.live with
      | false => exact h.idle (by simp only [World.step, hget, hlive, Bool.false_eq_true, if_false])
      | true =>
        rw [step_advance body hs hlive]
        by_cases hown : owner s.call = j
        · exact h.advance_own body hP hs hown hlive
        · exact ⟨[], rfl, h.advance_other hP hs hown⟩
  | crash id =>
    cases hget : w.sessions[id]? with
    | none => exact h.idle (by simp only [World.step, hget])
    | some s =>
      obtain ⟨before, after, hs, rfl⟩ := split_at hget
      have hk := h.keeps s (hs ▸ List.mem_append_right _ (List.mem_cons_self ..))
      cases hlive : s.live with
      | false => exact h.idle (by simp only [World.step, hget, hlive, Bool.false_eq_true, if_false])
      | true =>
        rw [step_crash body hs hlive]
        by_cases hown : owner s.call = j
        · obtain ⟨before', s', after', hs', hbefore, hlone, hafter⟩ := h.own hs hown
          refine ⟨[.crash before'.length], rfl, ?_⟩
          change World.Lone _ _ _ _ _ (w'.step body (.crash before'.length))
          rw [step_crash body hs' (hlone.live ▸ hlive)]
          refine ⟨h.rows, h.whole, h.keeps_replaced hs (closed hk), rejoin hown hbefore ?_ hafter, h.history⟩
          exact ⟨hlone.call, hlone.program, hlone.pending, rfl, rfl⟩
        · exact ⟨[], rfl, h.other hs hown (closed hk) rfl h.rows h.whole rfl⟩

theorem exec (hP : Partition R G) (h : w.Lone R G owner j w') (moves : List (Move γ))
    (hbody : ∀ call ∈ issued moves, (body call).Confined (R (owner call)) (G (owner call)) fun _ => True) :
    ∃ moves', issued moves' = (issued moves).filter (fun call => decide (owner call = j)) ∧
      (w.exec body moves).Lone R G owner j (w'.exec body moves') := by
  induction moves generalizing w w' with
  | nil => exact ⟨[], rfl, h⟩
  | cons m moves ih =>
    have hissued : issued (m :: moves) = issued [m] ++ issued moves := issued_append [m] moves
    rw [hissued] at hbody ⊢
    obtain ⟨first, hfirst, hstep⟩ := h.step hP m fun call hc => hbody call (List.mem_append_left _ hc)
    obtain ⟨more, hmore, hexec⟩ := ih hstep fun call hc => hbody call (List.mem_append_right _ hc)
    refine ⟨first ++ more, ?_, ?_⟩
    · rw [issued_append, hfirst, hmore, List.filter_append]
    · rw [World.exec, World.exec, List.foldl_append]
      exact hexec

theorem exec_initial (hP : Partition R G) {db db' : σ} (hdb : ∀ i, R i db db) (hj : R j db db')
    (moves : List (Move γ))
    (hbody : ∀ call ∈ issued moves, (body call).Confined (R (owner call)) (G (owner call)) fun _ => True) :
    ∃ moves', issued moves' = (issued moves).filter (fun call => decide (owner call = j)) ∧
      ((initial db).exec body moves).Lone R G owner j ((initial db').exec body moves') := by
  have hstart : (initial db : World σ ν ε α γ).Lone R G owner j (initial db') :=
    ⟨hj, hdb, fun _ hs => absurd hs List.not_mem_nil, .nil, rfl⟩
  exact exec hP hstart moves hbody

end Steps

end World.Lone

end ChatCore.Relational
