import Mathlib.Data.Finset.Card
import Mathlib.Data.Int.Order.Basic
import Mathlib.Data.List.Induction
import Mathlib.Data.List.Nodup
import Mathlib.Data.Nat.Notation
import Mathlib.Tactic.Lemma

namespace ChatCore.Security

structure FixedWindowRateLimiterOptions where
  windowMs : ℕ
  max : ℕ
  maxKeys : ℕ

structure RateLimitResult where
  allowed : Bool
  limit : ℕ
  remaining : ℕ
  resetSeconds : Int
  deriving DecidableEq, Repr

structure WindowState where
  count : ℕ
  startedAt : Int
  lastSeen : Int
  deriving DecidableEq, Repr

abbrev Windows := List (String × WindowState)

namespace FixedWindowRateLimiter

variable (options : FixedWindowRateLimiterOptions)

def get (windows : Windows) (key : String) : Option WindowState :=
  (windows.find? fun w => decide (w.1 = key)).map Prod.snd

def delete (windows : Windows) (key : String) : Windows := windows.filter fun w => decide (w.1 ≠ key)

def oldest (windows : Windows) : Option (String × WindowState) :=
  windows.foldl (fun found w => match found with
    | some o => if w.2.lastSeen < o.2.lastSeen then some w else some o
    | none => some w) none

def makeRoom (windows : Windows) : Windows :=
  if windows.length < options.maxKeys then windows
  else match oldest windows with
    | some o => delete windows o.1
    | none => windows

def expired (state : WindowState) (now : Int) : Bool := decide (state.startedAt + options.windowMs ≤ now)

def enter (windows : Windows) (key : String) (now : Int) : Windows × WindowState :=
  match get windows key with
  | some state =>
      if expired options state now then (makeRoom options (delete windows key) ++ [(key, ⟨0, now, now⟩)],
        ⟨0, now, now⟩)
      else (windows, state)
  | none => (makeRoom options windows ++ [(key, ⟨0, now, now⟩)], ⟨0, now, now⟩)

def count (state : WindowState) (now : Int) : WindowState :=
  { state with lastSeen := now, count := if state.count < options.max then state.count + 1 else state.count }

def answer (before : WindowState) (now : Int) : RateLimitResult where
  allowed := decide (before.count < options.max)
  limit := options.max
  remaining := options.max - (count options before now).count
  resetSeconds := max 1 (-(-(before.startedAt + options.windowMs - now) / 1000))

def set (windows : Windows) (key : String) (state : WindowState) : Windows :=
  windows.map fun w => if w.1 = key then (key, state) else w

def consume (windows : Windows) (key : String) (now : Int) : Windows × RateLimitResult :=
  let entered := enter options windows key now
  (set entered.1 key (count options entered.2 now), answer options entered.2 now)

abbrev Call := String × Int

def consumeAll : Windows → List Call → Windows × List (Call × RateLimitResult)
  | windows, [] => (windows, [])
  | windows, call :: calls =>
      let consumed := consume options windows call.1 call.2
      let rest := consumeAll consumed.1 calls
      (rest.1, (call, consumed.2) :: rest.2)

section Map

variable {options : FixedWindowRateLimiterOptions} {windows : Windows} {key : String} {state : WindowState}

def keys (windows : Windows) : List String := windows.map Prod.fst

lemma get_cons (w : String × WindowState) (k : String) :
    get (w :: windows) k = if w.1 = k then some w.2 else get windows k := by
  by_cases hw : w.1 = k <;> simp [get, hw]

lemma get_eq_none : get windows key = none ↔ key ∉ keys windows := by
  induction windows with
  | nil => exact ⟨fun _ => List.not_mem_nil, fun _ => rfl⟩
  | cons w windows ih =>
    rw [get_cons, keys, List.map_cons, List.mem_cons, not_or, ← keys]
    by_cases hw : w.1 = key
    · simp [hw]
    · rw [if_neg hw, ih]
      exact ⟨fun h => ⟨fun he => hw he.symm, h⟩, And.right⟩

lemma get_set (k : String) :
    get (set windows key state) k = if k = key then (get windows key).map fun _ => state else get windows k := by
  induction windows with
  | nil => exact (ite_self _).symm
  | cons w windows ih =>
    rw [set, List.map_cons, ← set, get_cons, ih, get_cons, get_cons]
    by_cases hw : w.1 = key
    · by_cases hk : k = key
      · simp [hw, hk]
      · have hne : key ≠ k := fun he => hk he.symm
        simp [hw, hk, hne]
    · by_cases hk : k = key
      · subst hk
        simp [hw]
      · simp [hw, hk]

lemma get_delete (k : String) : get (delete windows key) k = if k = key then none else get windows k := by
  split
  · rename_i hk
    subst hk
    simp [get, delete]
  · rename_i hk
    rw [get, get, delete, List.find?_filter]
    congr 2
    funext w
    by_cases hw : w.1 = k
    · simp [hw, hk]
    · simp [hw]

lemma get_append (k : String) :
    get (windows ++ [(key, state)]) k = (get windows k).or (if k = key then some state else none) := by
  rw [get, get, List.find?_append]
  cases windows.find? fun w => decide (w.1 = k) with
  | some w => rfl
  | none =>
    by_cases hk : k = key
    · simp [hk]
    · have hne : key ≠ k := fun he => hk he.symm
      simp [hk, hne]

lemma keys_set : keys (set windows key state) = keys windows := by
  rw [keys, keys, set, List.map_map]
  refine List.map_congr_left fun w _ => ?_
  by_cases hw : w.1 = key
  · simp [hw]
  · simp [hw]

lemma keys_delete : keys (delete windows key) = (keys windows).filter fun k => decide (k ≠ key) := by
  rw [keys, keys, delete, List.filter_map]
  rfl

lemma oldest_mem {o : String × WindowState} (h : oldest windows = some o) : o ∈ windows := by
  have hall : ∀ (found : Option (String × WindowState)) (windows : Windows),
      windows.foldl (fun found w => match found with
        | some o => if w.2.lastSeen < o.2.lastSeen then some w else some o
        | none => some w) found = some o → found = some o ∨ o ∈ windows := by
    intro found windows
    induction windows generalizing found with
    | nil => exact Or.inl
    | cons w windows ih =>
      intro h
      rcases ih _ h with hw | hm
      · dsimp only at hw
        split at hw
        · split at hw
          · cases hw
            exact Or.inr List.mem_cons_self
          · exact Or.inl hw
        · cases hw
          exact Or.inr List.mem_cons_self
      · exact Or.inr (List.mem_cons_of_mem _ hm)
  rcases hall none windows h with hnone | hm
  · cases hnone
  · exact hm

lemma oldest_eq_none (h : oldest windows = none) : windows = [] := by
  have hall : ∀ (found : String × WindowState) (windows : Windows),
      windows.foldl (fun found w => match found with
        | some o => if w.2.lastSeen < o.2.lastSeen then some w else some o
        | none => some w) (some found) ≠ none := by
    intro found windows
    induction windows generalizing found with
    | nil => exact Option.some_ne_none _
    | cons w windows ih =>
      rw [List.foldl_cons]
      dsimp only
      split
      · exact ih _
      · exact ih _
  cases windows with
  | nil => rfl
  | cons w windows => exact absurd h (hall w windows)

lemma length_makeRoom (hmax : 1 ≤ options.maxKeys) (h : windows.length ≤ options.maxKeys) :
    (makeRoom options windows).length < options.maxKeys := by
  unfold makeRoom
  split
  · assumption
  · rename_i hfull
    split
    · rename_i o ho
      have hlt : (delete windows o.1).length < windows.length := by
        refine List.length_filter_lt_length_iff_exists.mpr ⟨o, oldest_mem ho, ?_⟩
        simp
      omega
    · rename_i hnone
      rw [oldest_eq_none hnone, List.length_nil] at hfull
      omega

lemma length_delete_le (windows : Windows) (key : String) : (delete windows key).length ≤ windows.length :=
  List.length_filter_le ..

lemma length_consume (hmax : 1 ≤ options.maxKeys) (h : windows.length ≤ options.maxKeys) (now : Int) :
    (consume options windows key now).1.length ≤ options.maxKeys := by
  have henter : (enter options windows key now).1.length ≤ options.maxKeys := by
    unfold enter
    split
    · split
      · have hroom := length_makeRoom hmax ((length_delete_le windows key).trans h)
        rw [List.length_append, List.length_singleton]
        exact hroom
      · exact h
    · have hroom := length_makeRoom hmax h
      rw [List.length_append, List.length_singleton]
      exact hroom
  rwa [consume, set, List.length_map]

end Map

section Alone

def start (state : Option WindowState) (now : Int) : WindowState := match state with
  | some state => if expired options state now then ⟨0, now, now⟩ else state
  | none => ⟨0, now, now⟩

def alone : Option WindowState → List Int → List (Int × RateLimitResult)
  | _, [] => []
  | state, now :: times =>
      (now, answer options (start options state now) now) ::
        alone (some (count options (start options state now) now)) times

variable {options} {windows : Windows} {key : String} {known : Finset String}

structure Roomy (known : Finset String) (windows : Windows) : Prop where
  nodup : (keys windows).Nodup
  known : ∀ k ∈ keys windows, k ∈ known

lemma Roomy.delete (h : Roomy known windows) (key : String) : Roomy known (delete windows key) := by
  constructor
  · rw [keys_delete]
    exact h.nodup.filter _
  · intro k hk
    rw [keys_delete] at hk
    exact h.known k (List.mem_of_mem_filter hk)

lemma Roomy.makeRoom (h : Roomy known windows) (hcard : known.card ≤ options.maxKeys) (hkey : key ∈ known)
    (hnone : get windows key = none) : makeRoom options windows = windows := by
  have hsub : (keys windows).toFinset ⊂ known := by
    refine Finset.ssubset_iff_subset_ne.mpr ⟨fun k hk => h.known k (List.mem_toFinset.mp hk), fun he => ?_⟩
    rw [← he, List.mem_toFinset] at hkey
    exact get_eq_none.mp hnone hkey
  have hlt := Finset.card_lt_card hsub
  rw [List.toFinset_card_of_nodup h.nodup, keys, List.length_map] at hlt
  exact if_pos (hlt.trans_le hcard)

lemma Roomy.enter (h : Roomy known windows) (hcard : known.card ≤ options.maxKeys)
    (hkey : key ∈ known) (now : Int) :
    Roomy known (enter options windows key now).1 ∧
      (enter options windows key now).2 = start options (get windows key) now ∧
      get (enter options windows key now).1 key = some (start options (get windows key) now) ∧
      ∀ k, k ≠ key → get (enter options windows key now).1 k = get windows k := by
  have hadd : ∀ windows' : Windows, Roomy known windows' → get windows' key = none →
      (∀ k, k ≠ key → get windows' k = get windows k) →
      Roomy known (FixedWindowRateLimiter.makeRoom options windows' ++ [(key, ⟨0, now, now⟩)]) ∧
        get (FixedWindowRateLimiter.makeRoom options windows' ++ [(key, ⟨0, now, now⟩)]) key = some ⟨0, now, now⟩ ∧
        ∀ k, k ≠ key →
          get (FixedWindowRateLimiter.makeRoom options windows' ++ [(key, ⟨0, now, now⟩)]) k = get windows k := by
    intro windows' hroomy hnone hothers
    rw [hroomy.makeRoom hcard hkey hnone]
    refine ⟨⟨?_, fun k hk => ?_⟩, ?_, fun k hk => ?_⟩
    · rw [keys, List.map_append]
      refine List.nodup_append.mpr ⟨hroomy.nodup, List.nodup_singleton _, fun k hk k' hk' he => ?_⟩
      rw [List.map_singleton, List.mem_singleton] at hk'
      rw [he, hk'] at hk
      exact get_eq_none.mp hnone hk
    · rw [keys, List.map_append, List.mem_append, List.map_singleton, List.mem_singleton] at hk
      rcases hk with hk | rfl
      · exact hroomy.known k hk
      · exact hkey
    · rw [get_append, hnone, if_pos rfl]
      rfl
    · rw [get_append, if_neg hk, Option.or_none]
      exact hothers k hk
  unfold FixedWindowRateLimiter.enter
  cases hget : get windows key with
  | some state =>
    dsimp only
    rw [start]
    split
    · obtain ⟨hroomy, hkey', hothers⟩ := hadd (FixedWindowRateLimiter.delete windows key) (h.delete key)
        (by rw [get_delete, if_pos rfl]) fun k hk => by rw [get_delete, if_neg hk]
      exact ⟨hroomy, rfl, hkey', hothers⟩
    · exact ⟨h, rfl, hget, fun _ _ => rfl⟩
  | none =>
    obtain ⟨hroomy, hkey', hothers⟩ := hadd windows h hget fun _ _ => rfl
    exact ⟨hroomy, rfl, hkey', hothers⟩

lemma Roomy.consume (h : Roomy known windows) (hcard : known.card ≤ options.maxKeys)
    (hkey : key ∈ known) (now : Int) :
    Roomy known (consume options windows key now).1 ∧
      (consume options windows key now).2 = answer options (start options (get windows key) now) now ∧
      ∀ k, get (consume options windows key now).1 k =
        if k = key then some (count options (start options (get windows key) now) now) else get windows k := by
  obtain ⟨hroomy, hstate, hown, hothers⟩ := h.enter hcard hkey now
  refine ⟨⟨?_, fun k hk => ?_⟩, ?_, fun k => ?_⟩
  · rw [FixedWindowRateLimiter.consume, keys_set]
    exact hroomy.nodup
  · rw [FixedWindowRateLimiter.consume, keys_set] at hk
    exact hroomy.known k hk
  · rw [FixedWindowRateLimiter.consume, hstate]
  · rw [FixedWindowRateLimiter.consume, get_set, hown, hstate]
    split
    · rfl
    · rename_i hk
      exact hothers k hk

def ofKey (key : String) (served : List (Call × RateLimitResult)) : List (Int × RateLimitResult) :=
  served.filterMap fun s => if s.1.1 = key then some (s.1.2, s.2) else none

def timesOf (key : String) (calls : List Call) : List Int :=
  calls.filterMap fun call => if call.1 = key then some call.2 else none

lemma ofKey_consumeAll {calls : List Call} (h : Roomy known windows) (hcard : known.card ≤ options.maxKeys)
    (hcalls : ∀ call ∈ calls, call.1 ∈ known) (key : String) :
    ofKey key (consumeAll options windows calls).2 = alone options (get windows key) (timesOf key calls) := by
  induction calls generalizing windows with
  | nil => rfl
  | cons call calls ih =>
    obtain ⟨hcall, hrest⟩ := List.forall_mem_cons.mp hcalls
    obtain ⟨hroomy, hresult, hget⟩ := h.consume hcard hcall call.2
    have ih := ih hroomy hrest
    rw [hget] at ih
    rw [consumeAll, ofKey, timesOf, List.filterMap_cons, List.filterMap_cons]
    by_cases hk : call.1 = key
    · subst hk
      rw [if_pos rfl] at ih
      simp only [if_true]
      rw [alone, hresult]
      exact congrArg _ ih
    · rw [if_neg fun he => hk he.symm] at ih
      simp only [if_neg hk]
      exact ih

end Alone

section Partition

variable {options : FixedWindowRateLimiterOptions} {state : WindowState} {n : ℕ} {front back times : List Int}

/-- The calls from `start` on that are counted together. -/
structure IsWindow (options : FixedWindowRateLimiterOptions) (start : Int) (calls : List (Int × RateLimitResult)) :
    Prop where
  opened : calls.head?.map Prod.fst = some start
  within : ∀ c ∈ calls, start ≤ c.1 ∧ c.1 < start + options.windowMs
  allowed : ∀ (i : ℕ) c, calls[i]? = some c → c.2.allowed = decide (i < options.max)
  remaining : ∀ (i : ℕ) c, calls[i]? = some c →
    c.2.remaining + ((calls.take (i + 1)).filter fun d => d.2.allowed).length = options.max

lemma alone_within (hstate : state.count = min options.max n)
    (hfront : ∀ t ∈ front, t < state.startedAt + options.windowMs) :
    ∃ served state', alone options (some state) (front ++ back) = served ++ alone options (some state') back ∧
      state'.startedAt = state.startedAt ∧ served.map Prod.fst = front ∧
      ∀ (i : ℕ) c, served[i]? = some c →
        c.2.allowed = decide (n + i < options.max) ∧ c.2.remaining = options.max - (n + i + 1) := by
  induction front generalizing state n with
  | nil => exact ⟨[], state, rfl, rfl, rfl, fun i c hc => by cases hc⟩
  | cons t front ih =>
    obtain ⟨ht, hrest⟩ := List.forall_mem_cons.mp hfront
    have hstart : start options (some state) t = state := if_neg (by simpa [expired] using ht)
    have hcount : (count options state t).count = min options.max (n + 1) := by
      simp only [count, hstate]
      split <;> omega
    obtain ⟨served, state', halone, hsame, htimes, hserved⟩ := @ih (count options state t) (n + 1) hcount hrest
    refine ⟨(t, answer options state t) :: served, state', ?_, hsame, ?_, fun i c hc => ?_⟩
    · rw [List.cons_append, alone, hstart, halone]
      rfl
    · rw [List.map_cons, htimes]
    · cases i with
      | zero =>
        cases hc
        refine ⟨?_, ?_⟩
        · rw [answer, hstate]
          exact decide_eq_decide.mpr (by omega)
        · change options.max - (count options state t).count = _
          rw [hcount]
          omega
      | succ i =>
        obtain ⟨hallowed, hremaining⟩ := hserved i c hc
        rw [hallowed, hremaining]
        exact ⟨decide_eq_decide.mpr (by omega), by omega⟩

lemma allowed_take {max m : ℕ} {calls : List (Int × RateLimitResult)}
    (h : ∀ (i : ℕ) c, calls[i]? = some c → c.2.allowed = decide (i < max)) (hm : m ≤ calls.length) :
    ((calls.take m).filter fun d => d.2.allowed).length = min max m := by
  induction m with
  | zero => simp
  | succ m ih =>
    have hget := List.getElem?_eq_getElem hm
    have hallowed := h m _ hget
    rw [List.take_add_one, hget, Option.toList_some, List.filter_append, List.length_append,
      ih (Nat.le_of_succ_le hm)]
    by_cases hlt : m < max
    · rw [List.filter_singleton, hallowed, decide_eq_true hlt]
      simp
      omega
    · rw [List.filter_singleton, hallowed, decide_eq_false hlt]
      simp
      omega

lemma alone_expired (h : ∀ t ∈ back, state.startedAt + options.windowMs ≤ t) :
    alone options (some state) back = alone options none back := by
  cases back with
  | nil => rfl
  | cons t back =>
    have hstart : start options (some state) t = start options none t :=
      if_pos (decide_eq_true (h t List.mem_cons_self))
    rw [alone, alone, hstart]

lemma exists_split (h : times.Pairwise (· ≤ ·)) (bound : Int) :
    ∃ front back, times = front ++ back ∧ (∀ t ∈ front, t < bound) ∧ ∀ t ∈ back, bound ≤ t := by
  induction times with
  | nil => exact ⟨[], [], rfl, fun t ht => absurd ht List.not_mem_nil, fun t ht => absurd ht List.not_mem_nil⟩
  | cons t times ih =>
    obtain ⟨hfirst, hsorted⟩ := List.pairwise_cons.mp h
    by_cases ht : t < bound
    · obtain ⟨front, back, rfl, hfront, hback⟩ := ih hsorted
      exact ⟨t :: front, back, rfl, List.forall_mem_cons.mpr ⟨ht, hfront⟩, hback⟩
    · have hle := Int.not_lt.mp ht
      exact ⟨[], t :: times, rfl, fun t ht => absurd ht List.not_mem_nil,
        List.forall_mem_cons.mpr ⟨hle, fun u hu => hle.trans (hfirst u hu)⟩⟩

lemma exists_windows (hwindow : 1 ≤ options.windowMs) (htimes : times.Pairwise (· ≤ ·)) :
    ∃ windows : List (Int × List (Int × RateLimitResult)), windows.flatMap Prod.snd = alone options none times ∧
      (∀ w ∈ windows, w.1 ∈ times ∧ IsWindow options w.1 w.2) ∧
        windows.Pairwise fun w w' => w.1 + (options.windowMs : Int) ≤ w'.1 := by
  generalize hn : times.length = n
  induction n using Nat.strongRecOn generalizing times with
  | ind n ih =>
    cases times with
    | nil => exact ⟨[], rfl, fun w hw => absurd hw List.not_mem_nil, List.Pairwise.nil⟩
    | cons t times =>
      obtain ⟨hfirst, hsorted⟩ := List.pairwise_cons.mp htimes
      obtain ⟨front, back, hsplit, hfront, hback⟩ := exists_split hsorted (t + options.windowMs)
      have hlength : back.length < n := by
        rw [← hn, hsplit, List.length_cons, List.length_append]
        omega
      obtain ⟨windows, hflat, hwindows, hpairwise⟩ :=
        ih back.length hlength (hsorted.sublist (hsplit ▸ List.sublist_append_right front back)) rfl
      have hall : ∀ u ∈ t :: front, u < t + options.windowMs := List.forall_mem_cons.mpr ⟨by omega, hfront⟩
      obtain ⟨served, state', halone, hstarted, hserved, hcounted⟩ :=
        @alone_within options ⟨0, t, t⟩ 0 (t :: front) back (Nat.min_zero _).symm hall
      have hnone : alone options none (t :: times) = alone options (some ⟨0, t, t⟩) (t :: front ++ back) := by
        rw [List.cons_append, ← hsplit, alone, alone]
        have hsame : start options (some ⟨0, t, t⟩) t = ⟨0, t, t⟩ := ite_self _
        rw [hsame]
        rfl
      have hallowed : ∀ (i : ℕ) c, served[i]? = some c → c.2.allowed = decide (i < options.max) := by
        intro i c hc
        rw [(hcounted i c hc).1, Nat.zero_add]
      refine ⟨(t, served) :: windows, ?_, ?_, ?_⟩
      · rw [List.flatMap_cons, hflat, hnone, halone, alone_expired fun u hu => hstarted ▸ hback u hu]
      · refine List.forall_mem_cons.mpr ⟨⟨List.mem_cons_self, ?_, fun c hc => ?_, hallowed, fun i c hc => ?_⟩,
          fun w hw => ?_⟩
        · rw [← List.head?_map, hserved, List.head?_cons]
        · have hmem : c.1 ∈ t :: front := hserved ▸ List.mem_map_of_mem hc
          rcases List.mem_cons.mp hmem with he | hmem
          · rw [he]
            omega
          · exact ⟨hfirst _ (hsplit ▸ List.mem_append_left _ hmem), hfront _ hmem⟩
        · rw [(hcounted i c hc).2, allowed_take hallowed (List.getElem?_eq_some_iff.mp hc).1]
          omega
        · obtain ⟨hmem, hw⟩ := hwindows w hw
          exact ⟨List.mem_cons_of_mem _ (hsplit ▸ List.mem_append_right _ hmem), hw⟩
      · exact List.pairwise_cons.mpr ⟨fun w hw => hback _ (hwindows w hw).1, hpairwise⟩

lemma IsWindow.count_le {start : Int} {calls : List (Int × RateLimitResult)} (h : IsWindow options start calls)
    (p : Int × RateLimitResult → Bool) : (calls.filter fun c => c.2.allowed && p c).length ≤ options.max := by
  have hall := allowed_take h.allowed (Nat.le_refl calls.length)
  rw [List.take_length] at hall
  have hsub : (calls.filter fun c => c.2.allowed && p c).Sublist (calls.filter fun c => c.2.allowed) :=
    List.monotone_filter_right _ fun c hc => (Bool.and_eq_true_iff.mp hc).1
  have := hsub.length_le
  omega

def allowedFrom (options : FixedWindowRateLimiterOptions) (t : Int) (calls : List (Int × RateLimitResult)) :
    List (Int × RateLimitResult) :=
  calls.filter fun c => c.2.allowed && (decide (t ≤ c.1) && decide (c.1 < t + options.windowMs))

lemma allowedFrom_eq_nil {t start : Int} {calls : List (Int × RateLimitResult)} (h : IsWindow options start calls)
    (hlate : start + options.windowMs ≤ t ∨ t + options.windowMs ≤ start) : allowedFrom options t calls = [] := by
  rw [allowedFrom, List.filter_eq_nil_iff]
  intro c hc hp
  obtain ⟨hge, hlt⟩ := h.within c hc
  simp only [Bool.and_eq_true, decide_eq_true_eq] at hp
  omega

lemma length_allowedFrom_le {windows : List (Int × List (Int × RateLimitResult))}
    (hwindows : ∀ w ∈ windows, IsWindow options w.1 w.2)
    (hpairwise : windows.Pairwise fun w w' => w.1 + (options.windowMs : Int) ≤ w'.1) (t : Int) :
    (allowedFrom options t (windows.flatMap Prod.snd)).length ≤ 2 * options.max ∧
      ∀ first, (∀ w ∈ windows, first ≤ w.1) → t ≤ first →
        (allowedFrom options t (windows.flatMap Prod.snd)).length ≤ options.max := by
  induction windows with
  | nil => exact ⟨Nat.zero_le _, fun _ _ _ => Nat.zero_le _⟩
  | cons w windows ih =>
    obtain ⟨hw, hrest⟩ := List.forall_mem_cons.mp hwindows
    obtain ⟨hlater, hpairwise⟩ := List.pairwise_cons.mp hpairwise
    obtain ⟨htwice, honce⟩ := ih hrest hpairwise
    have hown : (allowedFrom options t w.2).length ≤ options.max := hw.count_le _
    have hsplit : allowedFrom options t ((w :: windows).flatMap Prod.snd) =
        allowedFrom options t w.2 ++ allowedFrom options t (windows.flatMap Prod.snd) := by
      rw [List.flatMap_cons, allowedFrom, List.filter_append]
      rfl
    rw [hsplit, List.length_append]
    constructor
    · by_cases hend : w.1 + options.windowMs ≤ t
      · rw [allowedFrom_eq_nil hw (Or.inl hend), List.length_nil, Nat.zero_add]
        exact htwice
      · have := honce (w.1 + options.windowMs) hlater (by omega)
        omega
    · intro first hfirst ht
      have hnil : allowedFrom options t (windows.flatMap Prod.snd) = [] := by
        rw [allowedFrom, List.filter_eq_nil_iff]
        intro c hc hp
        obtain ⟨v, hv, hc⟩ := List.mem_flatMap.mp hc
        have hge := ((hrest v hv).within c hc).1
        have hv := hlater v hv
        have hw := hfirst w List.mem_cons_self
        simp only [Bool.and_eq_true, decide_eq_true_eq] at hp
        omega
      rw [hnil, List.length_nil, Nat.add_zero]
      exact hown

end Partition

/-- What the limiter promises to the callers as long as it need not evict a key. -/
structure Fair (options : FixedWindowRateLimiterOptions) (calls : List Call) (key : String) : Prop where
  windows : ∃ windows : List (Int × List (Int × RateLimitResult)),
    windows.flatMap Prod.snd = ofKey key (consumeAll options [] calls).2 ∧
      (∀ w ∈ windows, IsWindow options w.1 w.2) ∧
        windows.Pairwise fun w w' => w.1 + (options.windowMs : Int) ≤ w'.1
  burst : ∀ t, (allowedFrom options t (ofKey key (consumeAll options [] calls).2)).length ≤ 2 * options.max
  others : ofKey key (consumeAll options [] calls).2 =
    ofKey key (consumeAll options [] (calls.filter fun call => decide (call.1 = key))).2

lemma length_consumeAll {options : FixedWindowRateLimiterOptions} {windows : Windows} (hkeys : 1 ≤ options.maxKeys)
    (h : windows.length ≤ options.maxKeys) (calls : List Call) :
    (consumeAll options windows calls).1.length ≤ options.maxKeys := by
  induction calls generalizing windows with
  | nil => exact h
  | cons call calls ih => exact ih (length_consume hkeys h call.2)

lemma timesOf_filter (key : String) (calls : List Call) :
    timesOf key (calls.filter fun call => decide (call.1 = key)) = timesOf key calls := by
  rw [timesOf, List.filterMap_filter, timesOf]
  refine List.filterMap_congr fun call _ => ?_
  by_cases hk : call.1 = key <;> simp [hk]

/-- The map never outgrows its bound, and where there is room for all keys, each of them is counted for itself. -/
theorem limiter_bounded_and_fair (options : FixedWindowRateLimiterOptions) (calls : List Call)
    (hwindow : 1 ≤ options.windowMs) (hkeys : 1 ≤ options.maxKeys)
    (hordered : (calls.map Prod.snd).Pairwise (· ≤ ·)) :
    (consumeAll options [] calls).1.length ≤ options.maxKeys ∧
      ((calls.map Prod.fst).toFinset.card ≤ options.maxKeys → ∀ key, Fair options calls key) := by
  refine ⟨length_consumeAll hkeys (Nat.zero_le _) calls, fun hcard key => ?_⟩
  have hroomy : Roomy (calls.map Prod.fst).toFinset [] := ⟨List.nodup_nil, fun k hk => absurd hk List.not_mem_nil⟩
  have hknown : ∀ call ∈ calls, call.1 ∈ (calls.map Prod.fst).toFinset := fun call hcall =>
    List.mem_toFinset.mpr (List.mem_map_of_mem hcall)
  have halone : ofKey key (consumeAll options [] calls).2 = alone options none (timesOf key calls) :=
    ofKey_consumeAll hroomy hcard hknown key
  have hfiltered := ofKey_consumeAll hroomy hcard
    (fun call hcall => hknown call (List.mem_of_mem_filter (p := fun call => decide (call.1 = key)) hcall)) key
  have htimes : (timesOf key calls).Pairwise (· ≤ ·) := by
    rw [List.pairwise_map] at hordered
    refine hordered.filterMap _ fun call call' hle t ht t' ht' => ?_
    obtain ⟨-, he⟩ := Option.ite_none_right_eq_some.mp ht
    obtain ⟨-, he'⟩ := Option.ite_none_right_eq_some.mp ht'
    rw [← Option.some.inj he, ← Option.some.inj he']
    exact hle
  obtain ⟨windows, hflat, hwindows, hpairwise⟩ := exists_windows hwindow htimes
  have hwindows : ∀ w ∈ windows, IsWindow options w.1 w.2 := fun w hw => (hwindows w hw).2
  refine ⟨⟨windows, hflat.trans halone.symm, hwindows, hpairwise⟩, fun t => ?_, ?_⟩
  · rw [halone, ← hflat]
    exact (length_allowedFrom_le hwindows hpairwise t).1
  · rw [halone]
    refine (Eq.trans hfiltered ?_).symm
    rw [timesOf_filter]
    rfl

def twoASecond : FixedWindowRateLimiterOptions := ⟨1000, 2, 10⟩

def requests : List Call :=
  [("site-a", 1000), ("site-a", 1100), ("site-a", 1200), ("site-b", 1200), ("site-a", 2000)]

theorem requests_bounded_and_fair :
    (consumeAll twoASecond [] requests).2.map (fun s => s.2.allowed) = [true, true, false, true, true] ∧
      (consumeAll twoASecond [] requests).1.length ≤ 10 ∧ ∀ key, Fair twoASecond requests key := by
  refine ⟨by decide, ?_⟩
  obtain ⟨hlength, hfair⟩ := limiter_bounded_and_fair twoASecond requests (by decide) (by decide) (by decide)
  exact ⟨hlength, hfair (by decide)⟩

end FixedWindowRateLimiter

end ChatCore.Security
