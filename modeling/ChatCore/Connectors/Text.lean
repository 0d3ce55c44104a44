import Mathlib.Data.List.DropRight
import Mathlib.Data.Nat.Notation
import Mathlib.Tactic.Lemma

/-! Text as JavaScript has it: code units of UTF-16, which may be cut between the halves of a pair. -/

namespace ChatCore.Connectors

abbrev Text := List UInt16

def unitsOf (c : Char) : Text :=
  if c.toNat < 0x10000 then [c.toNat.toUInt16]
  else [(0xD800 + (c.toNat - 0x10000) / 0x400).toUInt16, (0xDC00 + (c.toNat - 0x10000) % 0x400).toUInt16]

def text (s : String) : Text := s.toList.flatMap unitsOf

def isHighSurrogate (u : UInt16) : Bool := 0xD800 ≤ u && u ≤ 0xDBFF

def isLowSurrogate (u : UInt16) : Bool := 0xDC00 ≤ u && u ≤ 0xDFFF

def follow (isOpen : Bool) (u : UInt16) : Option Bool :=
  if isOpen then if isLowSurrogate u then some false else none
  else if isLowSurrogate u then none else some (isHighSurrogate u)

def scan (isOpen : Bool) (s : Text) : Option Bool := s.foldlM follow isOpen

def isWellFormed (s : Text) : Bool := decide (scan false s = some false)

def characterOf (u : UInt16) :
    Char := if isHighSurrogate u || isLowSurrogate u then '\uFFFD' else Char.ofNat u.toNat

def pairOf (u v : UInt16) : Char := Char.ofNat (0x10000 + (u.toNat - 0xD800) * 0x400 + (v.toNat - 0xDC00))

def characters : Text → List Char
  | [] => []
  | [u] => [characterOf u]
  | u :: v :: s =>
    if isHighSurrogate u && isLowSurrogate v then pairOf u v :: characters s else characterOf u ::
      characters (v :: s)

/-- The conversion to `USVString`, as of `new URL` and of UTF-8: each unpaired surrogate becomes U+FFFD. -/
def usvString (s : Text) : String := String.ofList (characters s)

lemma isHighSurrogate_iff {u : UInt16} : isHighSurrogate u = true ↔ 0xD800 ≤ u.toNat ∧ u.toNat ≤ 0xDBFF := by
  simp [isHighSurrogate, UInt16.le_iff_toNat_le]

lemma isLowSurrogate_iff {u : UInt16} : isLowSurrogate u = true ↔ 0xDC00 ≤ u.toNat ∧ u.toNat ≤ 0xDFFF := by
  simp [isLowSurrogate, UInt16.le_iff_toNat_le]

lemma characters_cons {u : UInt16} (h : isHighSurrogate u = false) (s : Text) :
    characters (u :: s) = characterOf u :: characters s := by
  cases s with
  | nil => rfl
  | cons v s => rw [characters, h, Bool.false_and, if_neg (by decide)]

lemma characters_unitsOf (c : Char) (s : Text) : characters (unitsOf c ++ s) = c :: characters s := by
  have hvalid := c.valid
  simp only [UInt32.isValidChar, Nat.isValidChar] at hvalid
  change c.toNat < 0xD800 ∨ 0xDFFF < c.toNat ∧ c.toNat < 0x110000 at hvalid
  unfold unitsOf
  split
  · have hunit : c.toNat.toUInt16.toNat = c.toNat := UInt16.toNat_ofNat_of_lt' ‹_›
    have hhigh : isHighSurrogate c.toNat.toUInt16 = false :=
      Bool.eq_false_iff.mpr (mt isHighSurrogate_iff.mp (by omega))
    have hlow : isLowSurrogate c.toNat.toUInt16 = false :=
      Bool.eq_false_iff.mpr (mt isLowSurrogate_iff.mp (by omega))
    rw [List.singleton_append, characters_cons hhigh, characterOf, hhigh, hlow, hunit, Char.ofNat_toNat]
    rfl
  · have hu : (0xD800 + (c.toNat - 0x10000) / 0x400).toUInt16.toNat = 0xD800 + (c.toNat - 0x10000) / 0x400 :=
      UInt16.toNat_ofNat_of_lt' (by change _ < 0x10000; omega)
    have hv : (0xDC00 + (c.toNat - 0x10000) % 0x400).toUInt16.toNat = 0xDC00 + (c.toNat - 0x10000) % 0x400 :=
      UInt16.toNat_ofNat_of_lt' (by change _ < 0x10000; omega)
    have hpaired : (isHighSurrogate (0xD800 + (c.toNat - 0x10000) / 0x400).toUInt16 &&
        isLowSurrogate (0xDC00 + (c.toNat - 0x10000) % 0x400).toUInt16) = true :=
      Bool.and_eq_true_iff.mpr ⟨isHighSurrogate_iff.mpr (by omega), isLowSurrogate_iff.mpr (by omega)⟩
    rw [List.cons_append, List.singleton_append, characters, if_pos hpaired, pairOf, hu, hv]
    refine congrArg (· :: characters s) ?_
    rw [show 0x10000 + (0xD800 + (c.toNat - 0x10000) / 0x400 - 0xD800) * 0x400 +
      (0xDC00 + (c.toNat - 0x10000) % 0x400 - 0xDC00) = c.toNat by omega, Char.ofNat_toNat]

lemma usvString_text (s : String) : usvString (text s) = s := by
  have hall : ∀ cs : List Char, characters (cs.flatMap unitsOf) = cs := by
    intro cs
    induction cs with
    | nil => rfl
    | cons c cs ih => rw [List.flatMap_cons, characters_unitsOf, ih]
  rw [usvString, text, hall, String.ofList_toList]

/-- What `String.prototype.trim` removes: the `WhiteSpace` and `LineTerminator` of ECMAScript. -/
def isWhiteSpace (u : UInt16) : Bool :=
  (9 ≤ u && u ≤ 13) || u == 32 || u == 0xA0 || u == 0x1680 || (0x2000 ≤ u && u ≤ 0x200A) ||
    u == 0x2028 || u == 0x2029 ||
    u == 0x202F || u == 0x205F || u == 0x3000 || u == 0xFEFF

def trim (s : Text) : Text := (s.dropWhile isWhiteSpace).rdropWhile isWhiteSpace

def slice (s : Text) (start stop : ℕ) : Text := (s.drop start).take (stop - start)

def lengthBetween (lo hi : ℕ) (s : Text) : Bool := decide (lo ≤ s.length) && decide (s.length ≤ hi)

lemma lengthBetween_iff {lo hi : ℕ} {s : Text} : lengthBetween lo hi s = true ↔ lo ≤ s.length ∧ s.length ≤ hi := by
  simp [lengthBetween]

lemma length_trim_le (s : Text) : (trim s).length ≤ s.length := by
  have hright := (List.rdropWhile_prefix isWhiteSpace (s.dropWhile isWhiteSpace)).length_le
  have hleft := (List.dropWhile_suffix (l := s) isWhiteSpace).length_le
  exact hright.trans hleft

lemma trim_eq_nil {s : Text} : trim s = [] ↔ ∀ u ∈ s, isWhiteSpace u = true := by
  rw [trim, List.rdropWhile_eq_nil_iff]
  constructor
  · intro h u hu
    rw [← List.takeWhile_append_dropWhile (p := isWhiteSpace) (l := s), List.mem_append] at hu
    rcases hu with hu | hu
    · exact List.mem_takeWhile_imp hu
    · exact h u hu
  · intro h u hu
    exact h u ((List.dropWhile_suffix _).mem hu)

lemma length_slice_le (s : Text) (start stop : ℕ) : (slice s start stop).length ≤ stop - start :=
  List.length_take_le _ _

def isAlphanumeric (u : UInt16) : Bool := (65 ≤ u && u ≤ 90) || (97 ≤ u && u ≤ 122) || (48 ≤ u && u ≤ 57)

def isOpaqueIdUnit (u : UInt16) : Bool := isAlphanumeric u || u == 46 || u == 95 || u == 126 || u == 45

/-- `^[A-Za-z0-9][A-Za-z0-9._~-]{0,127}$` -/
def isOpaqueId : Text → Bool
  | [] => false
  | u :: us => isAlphanumeric u && us.all isOpaqueIdUnit && decide (us.length ≤ 127)

def isFailureCode : Text → Bool
  | [] => false
  | u :: us => (65 ≤ u && u ≤ 90) &&
      us.all (fun v => (65 ≤ v && v ≤ 90) || (48 ≤ v && v ≤ 57) || v == 95) && decide (us.length ≤ 63)

end ChatCore.Connectors
