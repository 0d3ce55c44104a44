import Mathlib.Data.Nat.Notation
import Mathlib.Tactic.IntervalCases
import Mathlib.Tactic.Lemma

/-! Dates as milliseconds since 1970, and their texts in the date-time string format. -/

namespace ChatCore.Codecs

section Calendar

def dayFromYear (year : Int) : Int :=
  365 * (year - 1970) + (year - 1969) / 4 - (year - 1901) / 100 + (year - 1601) / 400

def leap (year : Int) : Bool := decide (year % 4 = 0) && (decide (year % 100 ≠ 0) || decide (year % 400 = 0))

def yearFromDay (day : Int) : Int :=
  if day < dayFromYear (400 * day / 146097 + 1970) then 400 * day / 146097 + 1969
  else if dayFromYear (400 * day / 146097 + 1971) ≤ day then 400 * day / 146097 + 1971
  else 400 * day / 146097 + 1970

def monthLengths (year : Int) : List ℕ :=
  [31, if leap year then 29 else 28, 31, 30, 31, 30, 31, 31, 30, 31, 30, 31]

def locate : List ℕ → ℕ → ℕ × ℕ
  | [], n => (0, n)
  | length :: lengths, n =>
      if n < length then (0, n) else ((locate lengths (n - length)).1 + 1, (locate lengths (n - length)).2)

variable {year day : Int} {lengths : List ℕ} {n : ℕ}

lemma dayFromYear_succ (year : Int) : dayFromYear (year + 1) = dayFromYear year + (monthLengths year).sum := by
  have hsum : ((monthLengths year).sum : Int) = if leap year then 366 else 365 := by
    rw [monthLengths]
    split <;> rfl
  rw [hsum]
  by_cases h : leap year = true
  · rw [if_pos h]
    simp only [leap, Bool.and_eq_true, Bool.or_eq_true, decide_eq_true_eq] at h
    unfold dayFromYear
    omega
  · rw [if_neg h]
    simp only [leap, Bool.and_eq_true, Bool.or_eq_true, decide_eq_true_eq] at h
    unfold dayFromYear
    omega

lemma dayFromYear_mean (year : Int) : 146097 * (year - 1970) - 800 ≤ 400 * dayFromYear year ∧
    400 * dayFromYear year ≤ 146097 * (year - 1970) + 800 := by
  unfold dayFromYear
  omega

lemma yearFromDay_bounds (day : Int) :
    dayFromYear (yearFromDay day) ≤ day ∧ day < dayFromYear (yearFromDay day + 1) := by
  unfold yearFromDay
  have hestimate : 146097 * (400 * day / 146097) ≤ 400 * day ∧ 400 * day < 146097 * (400 * day / 146097) +
    146097 := by omega
  generalize 400 * day / 146097 = estimate at hestimate
  have hsucc : ∀ n : Int, estimate + n + 1 = estimate + (n + 1) := fun n => Int.add_assoc ..
  split
  · rename_i hlt
    have hmean := dayFromYear_mean (estimate + 1969)
    exact ⟨by omega, by rw [hsucc]; exact hlt⟩
  · rename_i hge
    split
    · rename_i hle
      have hmean := dayFromYear_mean (estimate + 1971 + 1)
      exact ⟨hle, by omega⟩
    · rename_i hlt
      exact ⟨Int.not_lt.mp hge, by rw [hsucc]; exact Int.not_le.mp hlt⟩

lemma locate_mem (h : n < lengths.sum) : ∃ length, lengths[(locate lengths n).1]? = some length ∧
    (locate lengths n).2 < length ∧ (lengths.take (locate lengths n).1).sum + (locate lengths n).2 = n := by
  induction lengths generalizing n with
  | nil => cases h
  | cons length lengths ih =>
    rw [locate]
    split
    case isTrue hlt => exact ⟨length, rfl, hlt, Nat.zero_add n⟩
    case isFalse hge =>
      rw [List.sum_cons] at h
      obtain ⟨length', hget, hlt, hsum⟩ := @ih (n - length) (by omega)
      refine ⟨length', by rw [List.getElem?_cons_succ]; exact hget, hlt, ?_⟩
      rw [List.take_succ_cons, List.sum_cons]
      dsimp only
      omega

end Calendar

section Fields

structure Fields where
  year : Int
  month : ℕ
  day : ℕ
  hour : ℕ
  minute : ℕ
  second : ℕ
  millisecond : ℕ
  deriving DecidableEq, Repr

def maxTime : Int := 8640000000000000

def monthAndDay (day : Int) : ℕ × ℕ :=
  locate (monthLengths (yearFromDay day)) (day - dayFromYear (yearFromDay day)).toNat

def fields (t : Int) : Fields where
  year := yearFromDay (t / 86400000)
  month := (monthAndDay (t / 86400000)).1 + 1
  day := (monthAndDay (t / 86400000)).2 + 1
  hour := (t % 86400000 / 3600000).toNat
  minute := (t % 3600000 / 60000).toNat
  second := (t % 60000 / 1000).toNat
  millisecond := (t % 1000).toNat

def Fields.legal (f : Fields) : Bool :=
  decide (1 ≤ f.month) && (monthLengths f.year)[f.month - 1]?.any (fun length => decide (f.day ≤ length)) &&
    decide (1 ≤ f.day) && decide (f.hour < 24) && decide (f.minute < 60) && decide (f.second < 60) &&
    decide (f.millisecond < 1000)

def Fields.time (f : Fields) : Int :=
  (dayFromYear f.year + ((monthLengths f.year).take (f.month - 1)).sum + f.day - 1) * 86400000 +
    f.hour * 3600000 + f.minute * 60000 + f.second * 1000 + f.millisecond

lemma monthAndDay_spec (day : Int) :
    ∃ length, (monthLengths (yearFromDay day))[(monthAndDay day).1]? = some length ∧
    (monthAndDay day).2 < length ∧
    dayFromYear (yearFromDay day) + ((monthLengths (yearFromDay day)).take (monthAndDay day).1).sum +
      (monthAndDay day).2 = day := by
  obtain ⟨hle, hlt⟩ := yearFromDay_bounds day
  rw [dayFromYear_succ] at hlt
  obtain ⟨length, hget, hday, hsum⟩ := @locate_mem (monthLengths (yearFromDay day))
    (day - dayFromYear (yearFromDay day)).toNat (by omega)
  refine ⟨length, hget, hday, ?_⟩
  rw [monthAndDay]
  omega

lemma legal_fields (t : Int) : (fields t).legal = true := by
  obtain ⟨length, hget, hday, -⟩ := monthAndDay_spec (t / 86400000)
  have hlength : (monthLengths (fields t).year)[(fields t).month - 1]? = some length := hget
  have hin : (fields t).day ≤ length := hday
  have hhour : (fields t).hour < 24 := by change (t % 86400000 / 3600000).toNat < 24; omega
  have hminute : (fields t).minute < 60 := by change (t % 3600000 / 60000).toNat < 60; omega
  have hsecond : (fields t).second < 60 := by change (t % 60000 / 1000).toNat < 60; omega
  have hmillisecond : (fields t).millisecond < 1000 := by change (t % 1000).toNat < 1000; omega
  simp only [Fields.legal, hlength, Option.any_some, Bool.and_eq_true, decide_eq_true_eq]
  exact ⟨⟨⟨⟨⟨⟨Nat.le_add_left 1 _, hin⟩, Nat.le_add_left 1 _⟩, hhour⟩, hminute⟩, hsecond⟩, hmillisecond⟩

theorem time_fields (t : Int) : (fields t).time = t := by
  obtain ⟨length, -, -, hday⟩ := monthAndDay_spec (t / 86400000)
  have hsplit : (fields t).time = (dayFromYear (yearFromDay (t / 86400000)) +
      ((monthLengths (yearFromDay (t / 86400000))).take (monthAndDay (t / 86400000)).1).sum +
        (monthAndDay (t / 86400000)).2) * 86400000 + (t % 86400000 / 3600000).toNat * 3600000 +
      (t % 3600000 / 60000).toNat * 60000 + (t % 60000 / 1000).toNat * 1000 + (t % 1000).toNat := by
    simp only [Fields.time, fields, Nat.add_sub_cancel]
    omega
  rw [hsplit, hday]
  omega

lemma year_fields {t : Int} (hlow : -maxTime ≤ t) (hhigh : t ≤ maxTime) :
    -1000000 < (fields t).year ∧ (fields t).year < 1000000 := by
  obtain ⟨hle, hlt⟩ := yearFromDay_bounds (t / 86400000)
  change -1000000 < yearFromDay (t / 86400000) ∧ yearFromDay (t / 86400000) < 1000000
  unfold maxTime at hlow hhigh
  unfold dayFromYear at hle hlt
  omega

end Fields

section Digits

def digits : ℕ → ℕ → List Char
  | 0, _ => []
  | width + 1, n => Nat.digitChar (n / 10 ^ width % 10) :: digits width n

def readDigits : ℕ → ℕ → List Char → Option (ℕ × List Char)
  | 0, acc, cs => some (acc, cs)
  | width + 1, acc, c :: cs => if c.isDigit then readDigits width (10 * acc + (c.toNat - 48)) cs else none
  | _ + 1, _, [] => none

lemma digitChar_digit {d : ℕ} (h : d < 10) : (Nat.digitChar d).isDigit = true ∧
    (Nat.digitChar d).toNat - 48 = d := by
  interval_cases d <;> exact ⟨rfl, rfl⟩

lemma readDigits_digits (width acc n : ℕ) (rest : List Char) :
    readDigits width acc (digits width n ++ rest) = some (acc * 10 ^ width + n % 10 ^ width, rest) := by
  induction width generalizing acc with
  | zero => rw [digits, List.nil_append, readDigits, Nat.pow_zero, Nat.mod_one, Nat.mul_one, Nat.add_zero]
  | succ width ih =>
    obtain ⟨hdigit, hvalue⟩ := digitChar_digit (Nat.mod_lt (n / 10 ^ width) (by decide : 10 > 0))
    rw [digits, List.cons_append, readDigits, if_pos hdigit, hvalue, ih, Nat.mod_pow_succ, Nat.pow_succ]
    congr 2
    rw [Nat.add_mul]
    have hacc : 10 * acc * 10 ^ width = acc * (10 ^ width * 10) :=
      by rw [Nat.mul_comm 10 acc, Nat.mul_assoc, Nat.mul_comm 10]
    rw [hacc, Nat.mul_comm (n / 10 ^ width % 10)]
    omega

lemma readDigits_below {width n : ℕ} (h : n < 10 ^ width) (rest : List Char) :
    readDigits width 0 (digits width n ++ rest) = some (n, rest) := by
  rw [readDigits_digits, Nat.zero_mul, Nat.zero_add, Nat.mod_eq_of_lt h]

end Digits

section Texts

def yearText (year : Int) : List Char :=
  if 0 ≤ year ∧ year ≤ 9999 then digits 4 year.toNat
  else if year < 0 then '-' :: digits 6 year.natAbs
  else '+' :: digits 6 year.natAbs

def Fields.text (f : Fields) : List Char :=
  yearText f.year ++ '-' :: (digits 2 f.month ++ '-' :: (digits 2 f.day ++ 'T' :: (digits 2 f.hour ++
    ':' :: (digits 2 f.minute ++ ':' :: (digits 2 f.second ++ '.' :: (digits 3 f.millisecond ++ ['Z']))))))

/-- `new Date(t).toISOString()`, for the dates there are. -/
def toISOString (t : Int) : String := String.ofList (fields t).text

def expect (c : Char) : List Char → Option (List Char)
  | [] => none
  | d :: cs => if d = c then some cs else none

def readYear : List Char → Option (Int × List Char)
  | '+' :: cs => (readDigits 6 0 cs).map fun read => ((read.1 : Int), read.2)
  | '-' :: cs => (readDigits 6 0 cs).bind fun read => if read.1 = 0 then none else some (-(read.1 : Int), read.2)
  | cs => (readDigits 4 0 cs).map fun read => ((read.1 : Int), read.2)

def readFields (cs : List Char) : Option Fields := do
  let year ← readYear cs
  let month ← readDigits 2 0 (← expect '-' year.2)
  let day ← readDigits 2 0 (← expect '-' month.2)
  let hour ← readDigits 2 0 (← expect 'T' day.2)
  let minute ← readDigits 2 0 (← expect ':' hour.2)
  let second ← readDigits 2 0 (← expect ':' minute.2)
  let millisecond ← readDigits 3 0 (← expect '.' second.2)
  if millisecond.2 = ['Z'] then some ⟨year.1, month.1, day.1, hour.1, minute.1, second.1, millisecond.1⟩ else none

/-- `Date.parse` of what `toISOString` has written. -/
def readISO (text : String) : Option Int :=
  (readFields text.toList).bind fun f =>
    if f.legal = true ∧ -maxTime ≤ f.time ∧ f.time ≤ maxTime then some f.time else none

variable {f : Fields}

lemma expect_cons (c : Char) (cs : List Char) : expect c (c :: cs) = some cs := if_pos rfl

lemma readYear_text {year : Int} (hlow : -1000000 < year) (hhigh : year < 1000000) (rest : List Char) :
    readYear (yearText year ++ rest) = some (year, rest) := by
  unfold yearText
  split
  · rename_i h
    have hlt : year.toNat < 10 ^ 4 := by omega
    have hread := readDigits_below hlt rest
    have hdigit := (digitChar_digit (Nat.mod_lt (year.toNat / 10 ^ 3) (by decide : 10 > 0))).1
    rw [digits, List.cons_append] at hread ⊢
    unfold readYear
    split
    · rename_i heq
      rw [(List.cons.inj heq).1] at hdigit
      cases hdigit
    · rename_i heq
      rw [(List.cons.inj heq).1] at hdigit
      cases hdigit
    · rw [hread, Option.map_some]
      congr 2
      omega
  · rename_i h
    have hlt : year.natAbs < 10 ^ 6 := by omega
    have hread := readDigits_below hlt rest
    split
    · change (readDigits 6 0 (digits 6 year.natAbs ++ rest)).bind _ = _
      rw [hread, Option.bind_some, if_neg (by omega)]
      congr 2
      omega
    · change (readDigits 6 0 (digits 6 year.natAbs ++ rest)).map _ = _
      rw [hread, Option.map_some]
      congr 2
      omega

lemma readPart {width n : ℕ} (h : n < 10 ^ width) (c : Char) (rest : List Char)
    (next : ℕ × List Char → Option Fields) :
    ((expect c (c :: (digits width n ++ rest))).bind fun cs => (readDigits width 0 cs).bind next) =
      next (n, rest) := by
  rw [expect_cons, Option.bind_some, readDigits_below h, Option.bind_some]

lemma readFields_text (hlow : -1000000 < f.year) (hhigh : f.year < 1000000) (hmonth : f.month < 10 ^ 2)
    (hday : f.day < 10 ^ 2) (hhour : f.hour < 10 ^ 2) (hminute : f.minute < 10 ^ 2) (hsecond : f.second < 10 ^ 2)
    (hmillisecond : f.millisecond < 10 ^ 3) : readFields f.text = some f := by
  unfold readFields Fields.text
  rw [readYear_text hlow hhigh]
  refine (readPart hmonth '-' _ _).trans ?_
  refine (readPart hday '-' _ _).trans ?_
  refine (readPart hhour 'T' _ _).trans ?_
  refine (readPart hminute ':' _ _).trans ?_
  refine (readPart hsecond ':' _ _).trans ?_
  refine (readPart hmillisecond '.' _ _).trans ?_
  exact if_pos rfl

lemma month_le {year : Int} {month length : ℕ} (h : (monthLengths year)[month]? = some length) :
    month < 12 ∧ length ≤ 31 := by
  obtain ⟨hlt, hget⟩ := List.getElem?_eq_some_iff.mp h
  have hmem : length ∈ monthLengths year := hget ▸ List.getElem_mem hlt
  refine ⟨hlt, ?_⟩
  simp only [monthLengths, List.mem_cons, List.not_mem_nil, or_false] at hmem
  have hfebruary : (if leap year = true then 29 else 28) ≤ 31 := by split <;> decide
  omega

theorem readISO_toISOString {t : Int} (hlow : -maxTime ≤ t) (hhigh : t ≤ maxTime) :
    readISO (toISOString t) = some t := by
  obtain ⟨hyear, hyear'⟩ := year_fields hlow hhigh
  have hlegal := legal_fields t
  obtain ⟨length, hget, hday, -⟩ := monthAndDay_spec (t / 86400000)
  obtain ⟨hmonth, hlength⟩ := month_le hget
  have hfields : readFields (fields t).text = some (fields t) := by
    refine readFields_text hyear hyear' ?_ ?_ ?_ ?_ ?_ ?_
    · change (monthAndDay (t / 86400000)).1 + 1 < 10 ^ 2
      omega
    · change (monthAndDay (t / 86400000)).2 + 1 < 10 ^ 2
      omega
    all_goals simp only [Fields.legal, Bool.and_eq_true, decide_eq_true_eq] at hlegal; omega
  rw [readISO, toISOString, String.toList_ofList, hfields, Option.bind_some, time_fields]
  exact if_pos ⟨hlegal, hlow, hhigh⟩

example : toISOString 1784116800000 = "2026-07-15T12:00:00.000Z" := by decide +kernel

example : toISOString (-62198755200000) = "-000001-01-01T00:00:00.000Z" := by decide +kernel

end Texts

end ChatCore.Codecs
