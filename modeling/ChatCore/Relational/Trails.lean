import ChatCore.Relational.SafeRules
import Mathlib.Data.List.Induction

/-! What a session has seen: each statement saw the rows of the moment at which it was executed. -/

namespace ChatCore.Relational

variable {σ ν ε α β γ : Type}

namespace Program

inductive Trail (At : Program σ ν ε α → σ → Prop) (start : Program σ ν ε α) : Program σ ν ε α → Prop
  | refl : Trail At start start
  | statement {locks : View σ ν → List (Lock ν)} {write : View σ ν → σ → σ} {next : View σ ν → Program σ ν ε α}
      (h : Trail At start (.statement locks write next)) (v : View σ ν)
        (hv : At (.statement locks write next) v.rows) :
      Trail At start (next v)
  | commit {next : Program σ ν ε α} (h : Trail At start (.commit next)) : Trail At start next

variable {At At' : Program σ ν ε α → σ → Prop} {p q : Program σ ν ε α}

lemma Trail.mono (h : Trail At p q) (hAt : ∀ r db, At r db → At' r db) : Trail At' p q := by
  induction h with
  | refl => exact .refl
  | statement h v hv ih => exact .statement ih v (hAt _ _ hv)
  | commit h ih => exact .commit ih

lemma Trail.keeps {K : σ → σ → Prop} (h : Trail At p q) (hp : p.Keeps K) : q.Keeps K := by
  induction h with
  | refl => exact hp
  | statement h v hv ih => exact (ih v).2
  | commit h ih => exact ih

lemma Trail.of_pure {a : α} (h : Trail At (.pure a) q) : q = .pure a := by
  induction h with
  | refl => rfl
  | statement h v hv ih => cases ih
  | commit h ih => cases ih

lemma Trail.of_throw {e : ε} (h : Trail At (.throw e) q) : q = .throw e := by
  induction h with
  | refl => rfl
  | statement h v hv ih => cases ih
  | commit h ih => cases ih

lemma Trail.of_bind {p : Program σ ν ε β} {f : β → Program σ ν ε α} (h : Trail At (p >>= f) q) :
    (∃ p', Trail (fun r db => At (r >>= f) db) p p' ∧ q = p' >>= f) ∨
      ∃ b, Trail (fun r db => At (r >>= f) db) p (.pure b) ∧ Trail At (f b) q := by
  induction h with
  | refl => exact Or.inl ⟨p, .refl, rfl⟩
  | @statement locks write next h v hv ih =>
    rcases ih with ⟨p', hp, he⟩ | ⟨b, hp, hrest⟩
    · cases p' with
      | pure b => exact Or.inr ⟨b, hp, .statement (he ▸ .refl) v hv⟩
      | throw e => cases he
      | statement locks' write' next' =>
        have hface : At ((Program.statement locks' write' next') >>= f) v.rows := he ▸ hv
        refine Or.inl ⟨next' v, .statement hp v hface, ?_⟩
        change Program.statement locks write next = .statement locks' write' fun v => (next' v).bind f at he
        cases he
        rfl
      | commit next' => cases he
    · exact Or.inr ⟨b, hp, .statement hrest v hv⟩
  | @commit next h ih =>
    rcases ih with ⟨p', hp, he⟩ | ⟨b, hp, hrest⟩
    · cases p' with
      | pure b => exact Or.inr ⟨b, hp, .commit (he ▸ .refl)⟩
      | throw e => cases he
      | statement locks' write' next' => cases he
      | commit next' =>
        refine Or.inl ⟨next', .commit hp, ?_⟩
        change Program.commit next = .commit (next'.bind f) at he
        cases he
        rfl
    · exact Or.inr ⟨b, hp, .commit hrest⟩

lemma Trail.bind_pure {p : Program σ ν ε β} {f : β → Program σ ν ε α} {a : α} (h : Trail At (p >>= f) (.pure a)) :
    ∃ b, Trail (fun r db => At (r >>= f) db) p (.pure b) ∧ Trail At (f b) (.pure a) := by
  rcases h.of_bind with ⟨p', hp, he⟩ | h
  · cases p' with
    | pure b => exact ⟨b, hp, he ▸ .refl⟩
    | throw e => cases he
    | statement => cases he
    | commit => cases he
  · exact h

lemma Trail.of_select {query : σ → α} (h : Trail At (select query) q) :
    q = select query ∨ ∃ db, At (select query) db ∧ q = .pure (query db) := by
  induction h with
  | refl => exact Or.inl rfl
  | @statement locks write next h v hv ih =>
    rcases ih with he | ⟨db, -, he⟩
    · refine Or.inr ⟨v.rows, he ▸ hv, ?_⟩
      cases he
      rfl
    · cases he
  | commit h ih =>
    rcases ih with he | ⟨db, -, he⟩
    · cases he
    · cases he

lemma Trail.select_pure {query : σ → α} {a : α} (h : Trail At (select query) (.pure a)) :
    ∃ db, At (select query) db ∧ a = query db := by
  rcases h.of_select with he | ⟨db, hv, he⟩
  · cases he
  · cases he
    exact ⟨db, hv, rfl⟩

lemma Trail.returns {Q : α → Prop} {a : α} (h : Trail At p (.pure a)) (hp : p.Returns Q) : Q a := by
  have hq : ∀ {q : Program σ ν ε α}, Trail At p q → q.Returns Q := by
    intro q h
    induction h with
    | refl => exact hp
    | statement h v hv ih => exact ih v
    | commit h ih => exact ih
  exact hq h

end Program

namespace Relation

open Program

variable {ρ κ : Type} {key : ρ → κ} [QueryError ε] {t : Relation σ ν key} {p : ρ → Bool}
  {At : Program σ ν ε ρ → σ → Prop}

lemma trail_selectFirstOrThrow {r : ρ} (h : Trail At (t.selectFirstOrThrow p) (.pure r)) :
    ∃ db, At (t.selectFirstOrThrow p) db ∧ (t.matching p db).head? = some r := by
  obtain ⟨found, hfound, hrest⟩ := Trail.bind_pure h
  obtain ⟨db, hdb, rfl⟩ := Trail.select_pure hfound
  refine ⟨db, hdb, ?_⟩
  cases hhead : (t.matching p db).head? with
  | none =>
    rw [hhead] at hrest
    cases hrest.of_throw
  | some r' =>
    rw [hhead] at hrest
    cases hrest.of_pure
    rfl

end Relation

namespace World

open Program

variable [DecidableEq ν] (body : γ → Program σ ν ε α)

def Faces (w : World σ ν ε α γ) (id : ℕ) (c : γ) (p : Program σ ν ε α) (db : σ) : Prop :=
  ∃ s, w.sessions[id]? = some s ∧ s.live = true ∧ s.call = c ∧ s.program = p ∧ s.pending w.db = db

def Faced (w : World σ ν ε α γ) (moves : List (Move γ)) (id : ℕ) (c : γ) (p : Program σ ν ε α) (db : σ) : Prop :=
  ∃ earlier later, moves = earlier ++ .advance id :: later ∧ (w.exec body earlier).Faces id c p db

variable {body} {db : σ} {moves : List (Move γ)} {id : ℕ}

lemma exec_concat (w : World σ ν ε α γ) (moves : List (Move γ)) (m : Move γ) :
    w.exec body (moves ++ [m]) = (w.exec body moves).step body m := by
  rw [exec, List.foldl_concat, exec]

lemma Faced.more {w : World σ ν ε α γ} {c : γ} {p : Program σ ν ε α} {db : σ} (h : w.Faced body moves id c p db)
    (m : Move γ) : w.Faced body (moves ++ [m]) id c p db := by
  obtain ⟨earlier, later, rfl, hfaces⟩ := h
  exact ⟨earlier, later ++ [m], by simp, hfaces⟩

theorem trail_of_live {s : Session σ ν ε α γ}
    (hs : ((initial db : World σ ν ε α γ).exec body moves).sessions[id]? = some s) (hl : s.live = true) :
    Trail ((initial db).Faced body moves id s.call) (body s.call) s.program := by
  induction moves using List.reverseRecOn generalizing s with
  | nil => cases hs
  | append_singleton moves m ih =>
    rw [exec_concat] at hs
    rcases session_step hs hl with ⟨c, -, rfl⟩ | ⟨s₀, hs₀, hl₀, rfl | ⟨rfl, hadvance⟩⟩
    · exact .refl
    · exact (ih hs₀ hl).mono fun _ _ h => h.more m
    · have hold := (ih hs₀ hl₀).mono fun _ _ h => h.more (.advance id)
      have hlt := (List.getElem?_eq_some_iff.mp hs₀).1
      unfold advance at hadvance
      cases hp : s₀.program with
      | pure | throw =>
        simp only [hp, close, commit, List.getElem?_set_self hlt, Option.some.injEq] at hadvance
        rw [← hadvance] at hl
        cases hl
      | commit next =>
        simp only [hp, commit, List.getElem?_set_self hlt, Option.some.injEq] at hadvance
        rw [hp] at hold
        rw [← hadvance]
        exact .commit hold
      | statement locks write next =>
        simp only [hp] at hadvance
        rw [hp] at hold
        split at hadvance
        · obtain rfl := Option.some.inj (hs₀.symm.trans hadvance)
          rw [hp]
          exact hold
        · simp only [List.getElem?_set_self hlt, Option.some.injEq] at hadvance
          rw [← hadvance]
          exact .statement hold _ ⟨moves, [], rfl, s₀, hs₀, hl₀, rfl, hp, rfl⟩

theorem trail_of_finished {c : γ} {a : α}
    (h : .finished id c (.ok a) ∈ ((initial db : World σ ν ε α γ).exec body moves).history) :
    Trail ((initial db).Faced body moves id c) (body c) (.pure a) := by
  induction moves using List.reverseRecOn with
  | nil => cases h
  | append_singleton moves m ih =>
    rw [exec_concat] at h
    rcases finished_step h with h | ⟨s, -, hs, hl, hc, hp⟩
    · exact (ih h).mono fun _ _ h => h.more m
    · have htrail := trail_of_live hs hl
      rw [hc, hp] at htrail
      exact htrail.mono fun _ _ h => h.more m

lemma Faced.of_more {w : World σ ν ε α γ} {c : γ} {p : Program σ ν ε α} {rows : σ} {m : Move γ}
    (h : w.Faced body (moves ++ [m]) id c p rows) :
    w.Faced body moves id c p rows ∨ m = .advance id ∧ (w.exec body moves).Faces id c p rows := by
  obtain ⟨earlier, later, hmoves, hfaces⟩ := h
  rcases List.eq_nil_or_concat later with rfl | ⟨later, m', rfl⟩
  · obtain ⟨rfl, hm⟩ := List.append_inj' hmoves rfl
    exact Or.inr ⟨List.singleton_inj.mp hm, hfaces⟩
  · rw [List.concat_eq_append, ← List.cons_append, ← List.append_assoc] at hmoves
    obtain ⟨rfl, -⟩ := List.append_inj' hmoves rfl
    exact Or.inl ⟨earlier, later, rfl, hfaces⟩

def calls (w : World σ ν ε α γ) : List γ := w.sessions.map Session.call

lemma calls_step (w : World σ ν ε α γ) (m : Move γ) : (w.step body m).calls = match m with
    | .start c => w.calls ++ [c]
    | _ => w.calls := by
  have hset : ∀ (i : ℕ) (s s' : Session σ ν ε α γ), w.sessions[i]? = some s → s'.call = s.call →
      (w.sessions.set i s').map Session.call = w.sessions.map Session.call := by
    intro i s s' hs hc
    rw [List.map_set, hc]
    refine List.ext_getElem? fun j => ?_
    rw [List.getElem?_set]
    split
    · rename_i hij
      subst hij
      obtain ⟨hlt, -⟩ := List.getElem?_eq_some_iff.mp hs
      rw [List.getElem?_map, hs, List.length_map, if_pos hlt]
      rfl
    · rfl
  cases m with
  | start c => simp [step, calls]
  | crash i =>
    simp only [step]
    split
    · rename_i s hs
      split
      · exact hset i s _ hs rfl
      · rfl
    · rfl
  | advance i =>
    simp only [step]
    split
    · rename_i s hs
      split
      · unfold advance
        split
        · exact hset i s _ hs rfl
        · exact hset i s _ hs rfl
        · exact hset i s _ hs rfl
        · split
          · rfl
          · exact hset i s _ hs rfl
      · rfl
    · rfl

lemma called_step {w : World σ ν ε α γ} {c : γ} (h : w.calls[id]? = some c) (m : Move γ) :
    (w.step body m).calls[id]? = some c := by
  rw [calls_step]
  split
  · rw [List.getElem?_append_left (List.getElem?_eq_some_iff.mp h).1]
    exact h
  · exact h

lemma called_exec {w : World σ ν ε α γ} {c : γ} (h : w.calls[id]? = some c) (moves : List (Move γ)) :
    (w.exec body moves).calls[id]? = some c := by
  induction moves using List.reverseRecOn with
  | nil => exact h
  | append_singleton moves m ih => 
    rw [exec_concat]
    exact called_step ih m

lemma Faced.called {w : World σ ν ε α γ} {c : γ} {p : Program σ ν ε α} {rows : σ}
    (h : w.Faced body moves id c p rows) : (w.exec body moves).calls[id]? = some c := by
  obtain ⟨earlier, later, rfl, s, hs, -, rfl, -⟩ := h
  rw [exec, List.foldl_append]
  refine called_exec ?_ _
  rw [calls, List.getElem?_map]
  exact congrArg (Option.map Session.call) hs

lemma called_of_finished {c : γ} {r : Except ε α}
    (h : .finished id c r ∈ ((initial db : World σ ν ε α γ).exec body moves).history) :
    ((initial db : World σ ν ε α γ).exec body moves).calls[id]? = some c := by
  induction moves using List.reverseRecOn with
  | nil => cases h
  | append_singleton moves m ih =>
    rw [exec_concat] at h ⊢
    rcases finished_step h with h | ⟨s, -, hs, -, rfl, -⟩
    · exact called_step (ih h) m
    · refine called_step ?_ m
      rw [calls, List.getElem?_map, hs]
      rfl

lemma pending_of_reads {s : Session σ ν ε α γ}
    (hs : ((initial db : World σ ν ε α γ).exec body moves).sessions[id]? = some s) (hl : s.live = true)
    (hr : (body s.call).Keeps Eq) : ∀ db', s.pending db' = db' := by
  induction moves using List.reverseRecOn generalizing s with
  | nil => cases hs
  | append_singleton moves m ih =>
    rw [exec_concat] at hs
    rcases session_step hs hl with ⟨c, -, rfl⟩ | ⟨s₀, hs₀, hl₀, rfl | ⟨rfl, hadvance⟩⟩
    · exact fun _ => rfl
    · exact ih hs₀ hl hr
    · have hlt := (List.getElem?_eq_some_iff.mp hs₀).1
      have htrail := trail_of_live hs₀ hl₀
      unfold advance at hadvance
      cases hp : s₀.program with
      | pure | throw =>
        simp only [hp, close, commit, List.getElem?_set_self hlt, Option.some.injEq] at hadvance
        rw [← hadvance] at hl
        cases hl
      | commit next =>
        simp only [hp, commit, List.getElem?_set_self hlt, Option.some.injEq] at hadvance
        rw [← hadvance]
        exact fun _ => rfl
      | statement locks write next =>
        simp only [hp] at hadvance
        split at hadvance
        · obtain rfl := Option.some.inj (hs₀.symm.trans hadvance)
          exact ih hs₀ hl hr
        · simp only [List.getElem?_set_self hlt, Option.some.injEq] at hadvance
          have hr₀ : (body s₀.call).Keeps Eq := by
            rw [← hadvance] at hr
            exact hr
          have hkeeps := htrail.keeps hr₀
          rw [hp] at hkeeps
          rw [← hadvance]
          intro db'
          exact ((hkeeps _).1 _).symm.trans (ih hs₀ hl₀ hr₀ db')

lemma Faced.committed {c : γ} {p : Program σ ν ε α} {rows : σ} (h : (initial db).Faced body moves id c p rows)
    (hr : (body c).Keeps Eq) : ∃ earlier later, moves = earlier ++ .advance id :: later ∧
      rows = ((initial db).exec body earlier).db ∧ ((initial db).exec body earlier).Faces id c p rows := by
  obtain ⟨earlier, later, hmoves, s, hs, hl, rfl, hp, hrows⟩ := h
  exact ⟨earlier, later, hmoves, hrows.symm.trans (pending_of_reads hs hl hr _), s, hs, hl, rfl, hp, hrows⟩

end World

end ChatCore.Relational
