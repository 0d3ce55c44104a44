import Mathlib.Data.Nat.Notation
import Mathlib.Tactic.IntervalCases
import Mathlib.Tactic.Lemma

/-! The JSON texts of strings, integers and flat arrays of them, without blanks. -/

namespace ChatCore.Codecs.JsonText

inductive Item
  | string (text : String)
  | integer (value : Int)
  | null
  deriving DecidableEq, Repr

inductive Value
  | item (item : Item)
  | array (items : List Item)
  deriving DecidableEq, Repr

section Strings

def hexDigit (n : ℕ) : Char := Char.ofNat (if n < 10 then 48 + n else 87 + n)

def hexValue (c : Char) : Option ℕ :=
  if '0' ≤ c ∧ c ≤ '9' then some (c.toNat - 48)
  else if 'a' ≤ c ∧ c ≤ 'f' then some (c.toNat - 87)
  else if 'A' ≤ c ∧ c ≤ 'F' then some (c.toNat - 55)
  else none

def escape (c : Char) : List Char :=
  if c = '"' ∨ c = '\\' then ['\\', c]
  else if 32 ≤ c.toNat then [c]
  else match c.toNat with
    | 8 => ['\\', 'b']
    | 9 => ['\\', 't']
    | 10 => ['\\', 'n']
    | 12 => ['\\', 'f']
    | 13 => ['\\', 'r']
    | n => ['\\', 'u', '0', '0', hexDigit (n / 16), hexDigit (n % 16)]

def unescape (c : Char) : Option Char :=
  if c = '"' ∨ c = '\\' ∨ c = '/' then some c
  else if c = 'b' then some (Char.ofNat 8)
  else if c = 't' then some (Char.ofNat 9)
  else if c = 'n' then some (Char.ofNat 10)
  else if c = 'f' then some (Char.ofNat 12)
  else if c = 'r' then some (Char.ofNat 13)
  else none

def coded (a b c d : Char) : Option Char := do
  let n := 4096 * (← hexValue a) + 256 * (← hexValue b) + 16 * (← hexValue c) + (← hexValue d)
  if n.isValidChar then some (Char.ofNat n) else none

def push (c : Option Char) (read : Option (List Char × List Char)) : Option (List Char × List Char) :=
  c.bind fun c => read.map fun read => (c :: read.1, read.2)

def readChars : List Char → Option (List Char × List Char)
  | [] => none
  | c :: cs =>
    if c = '"' then some ([], cs)
    else if c = '\\' then match cs with
      | 'u' :: d₁ :: d₂ :: d₃ :: d₄ :: rest => push (coded d₁ d₂ d₃ d₄) (readChars rest)
      | e :: rest => push (unescape e) (readChars rest)
      | [] => none
    else if 32 ≤ c.toNat then push (some c) (readChars cs)
    else none

lemma readChars_escape (c : Char) (rest : List Char) :
    readChars (escape c ++ rest) = push (some c) (readChars rest) := by
  by_cases hspecial : c = '"' ∨ c = '\\'
  · rcases hspecial with rfl | rfl
    · rfl
    · rfl
  · obtain ⟨hquote, hslash⟩ := not_or.mp hspecial
    by_cases hplain : 32 ≤ c.toNat
    · rw [escape, if_neg hspecial, if_pos hplain, List.singleton_append, readChars.eq_def]
      dsimp only
      rw [if_neg hquote, if_neg hslash,
        if_pos hplain]
    · have hcontrol : ∀ n < 32,
          readChars (escape (Char.ofNat n) ++ rest) = push (some (Char.ofNat n)) (readChars rest) := by
        intro n hn
        interval_cases n <;> rfl
      rw [← Char.ofNat_toNat c]
      exact hcontrol c.toNat (Nat.lt_of_not_le hplain)

lemma readChars_text (cs rest : List Char) : readChars (cs.flatMap escape ++ '"' :: rest) = some (cs, rest) := by
  induction cs with
  | nil =>
    rw [List.flatMap_nil, List.nil_append, readChars.eq_def]
    exact if_pos rfl
  | cons c cs ih =>
    rw [List.flatMap_cons, List.append_assoc, readChars_escape, ih]
    rfl

end Strings

section Items

def integerText : Int → List Char
  | .ofNat n => Nat.toDigits 10 n
  | .negSucc n => '-' :: Nat.toDigits 10 (n + 1)

def Item.text : Item → List Char
  | .string text => '"' :: (text.toList.flatMap escape ++ ['"'])
  | .integer value => integerText value
  | .null => ['n', 'u', 'l', 'l']

def readNatural (cs : List Char) : Option (ℕ × List Char) :=
  let digits := cs.takeWhile Char.isDigit
  let n := Nat.ofDigitChars 10 digits 0
  if Nat.toDigits 10 n = digits then some (n, cs.dropWhile Char.isDigit) else none

def readItem : List Char → Option (Item × List Char)
  | [] => none
  | c :: cs =>
    if c = '"' then (readChars cs).map fun read => (.string (String.ofList read.1), read.2)
    else if c = '-' then (readNatural cs).map fun read => (.integer (-read.1), read.2)
    else if c = 'n' then if cs.take 3 = ['u', 'l', 'l'] then some (.null, cs.drop 3) else none
    else (readNatural (c :: cs)).map fun read => (.integer read.1, read.2)

def Ended (cs : List Char) : Prop := ∀ c ∈ cs.head?, c.isDigit = false

variable {rest : List Char}

lemma ended_nil : Ended [] := fun c hc => by cases hc

lemma ended_cons {c : Char} (h : c.isDigit = false) : Ended (c :: rest) := fun d hd => by
  rw [← Option.some.inj hd]
  exact h

lemma takeWhile_ended (h : Ended rest) :
    rest.takeWhile Char.isDigit = [] ∧ rest.dropWhile Char.isDigit = rest := by
  cases rest with
  | nil => exact ⟨rfl, rfl⟩
  | cons c cs =>
    have hc : c.isDigit = false := h c rfl
    rw [List.takeWhile_cons, List.dropWhile_cons, hc]
    exact ⟨rfl, rfl⟩

lemma readNatural_toDigits (n : ℕ) (h : Ended rest) :
    readNatural (Nat.toDigits 10 n ++ rest) = some (n, rest) := by
  have hdigits : ∀ c ∈ Nat.toDigits 10 n, c.isDigit = true := fun c hc =>
    Nat.isDigit_of_mem_toDigits (by decide) (by decide) hc
  obtain ⟨htake, hdrop⟩ := takeWhile_ended h
  unfold readNatural
  rw [List.takeWhile_append_of_pos hdigits, List.dropWhile_append_of_pos hdigits, htake, hdrop, List.append_nil]
  dsimp only
  rw [Nat.ofDigitChars_ten_toDigits, if_pos rfl]

lemma toDigits_cons (n : ℕ) : ∃ c cs, Nat.toDigits 10 n = c :: cs ∧ c.isDigit = true := by
  cases h : Nat.toDigits 10 n with
  | nil => exact absurd h Nat.toDigits_ne_nil
  | cons c cs =>
    have hmem : c ∈ Nat.toDigits 10 n := h ▸ List.mem_cons_self
    exact ⟨c, cs, rfl, Nat.isDigit_of_mem_toDigits (by decide) (by decide) hmem⟩

lemma digit_plain {c : Char} (h : c.isDigit = true) : c ≠ '"' ∧ c ≠ '-' ∧ c ≠ 'n' ∧ c ≠ '[' := by
  refine ⟨?_, ?_, ?_, ?_⟩ <;>
  · rintro rfl
    cases h

lemma readItem_text (item : Item) (h : Ended rest) : readItem (item.text ++ rest) = some (item, rest) := by
  cases item with
  | string text =>
    rw [Item.text, List.cons_append, List.append_assoc, List.singleton_append, readItem, if_pos rfl,
      readChars_text,
      Option.map_some, String.ofList_toList]
  | integer value =>
    cases value with
    | ofNat n =>
      obtain ⟨c, cs, hcons, hdigit⟩ := toDigits_cons n
      obtain ⟨hquote, hminus, hnull, -⟩ := digit_plain hdigit
      have hread := readNatural_toDigits n h
      rw [Item.text, integerText]
      rw [hcons, List.cons_append] at hread ⊢
      rw [readItem, if_neg hquote, if_neg hminus, if_neg hnull, hread]
      rfl
    | negSucc n =>
      rw [Item.text, integerText, List.cons_append, readItem, if_neg (by decide), if_pos rfl,
        readNatural_toDigits (n + 1) h]
      rfl
  | null => rfl

end Items

section Values

def tailText : List Item → List Char
  | [] => [']']
  | item :: items => ',' :: (item.text ++ tailText items)

def arrayText : List Item → List Char
  | [] => [']']
  | item :: items => item.text ++ tailText items

def Value.text : Value → String
  | .item i => String.ofList i.text
  | .array items => String.ofList ('[' :: arrayText items)

def readTail : ℕ → List Char → Option (List Item)
  | fuel + 1, c :: cs =>
    if c = ',' then (readItem cs).bind fun read => (readTail fuel read.2).map fun items => read.1 :: items
    else if c = ']' ∧ cs = [] then some []
    else none
  | _, _ => none

def readArray (cs : List Char) : Option (List Item) :=
  if cs = [']'] then some []
  else (readItem cs).bind fun read => (readTail read.2.length read.2).map fun items => read.1 :: items

def read (text : String) : Option Value := match text.toList with
  | [] => none
  | c :: cs =>
    if c = '[' then (readArray cs).map .array
    else (readItem (c :: cs)).bind fun read => if read.2 = [] then some (.item read.1) else none

lemma ended_tailText (items : List Item) : Ended (tailText items) := by
  cases items with
  | nil => exact ended_cons rfl
  | cons item items => exact ended_cons rfl

lemma length_tailText (items : List Item) : items.length < (tailText items).length := by
  induction items with
  | nil => exact Nat.zero_lt_one
  | cons item items ih =>
    rw [tailText, List.length_cons, List.length_cons, List.length_append]
    omega

lemma readTail_text {items : List Item} {fuel : ℕ} (h : items.length < fuel) :
    readTail fuel (tailText items) = some items := by
  induction items generalizing fuel with
  | nil =>
    obtain ⟨fuel, rfl⟩ := Nat.exists_eq_succ_of_ne_zero (Nat.ne_of_gt h)
    rfl
  | cons item items ih =>
    obtain ⟨fuel, rfl⟩ := Nat.exists_eq_succ_of_ne_zero (Nat.ne_zero_of_lt h)
    rw [tailText, readTail, if_pos rfl, readItem_text item (ended_tailText items), Option.bind_some,
      ih (Nat.lt_of_succ_lt_succ h), Option.map_some]

lemma text_cons (item : Item) : ∃ c cs, item.text = c :: cs ∧ c ≠ '[' ∧ c ≠ ']' := by
  cases item with
  | string text => exact ⟨_, _, rfl, by decide, by decide⟩
  | integer value =>
    cases value with
    | ofNat n =>
      obtain ⟨c, cs, hcons, hdigit⟩ := toDigits_cons n
      refine ⟨c, cs, hcons, (digit_plain hdigit).2.2.2, ?_⟩
      rintro rfl
      cases hdigit
    | negSucc n => exact ⟨_, _, rfl, by decide, by decide⟩
  | null => exact ⟨_, _, rfl, by decide, by decide⟩

lemma readArray_text (items : List Item) : readArray (arrayText items) = some items := by
  cases items with
  | nil => rfl
  | cons item items =>
    obtain ⟨c, cs, hcons, -, hclose⟩ := text_cons item
    have hopen : arrayText (item :: items) ≠ [']'] := by
      rw [arrayText, hcons, List.cons_append]
      exact fun h => hclose (List.cons.inj h).1
    rw [readArray, if_neg hopen, arrayText, readItem_text item (ended_tailText items), Option.bind_some,
      readTail_text (length_tailText items), Option.map_some]

theorem read_text (value : Value) : read value.text = some value := by
  cases value with
  | item item =>
    obtain ⟨c, cs, hcons, hopen, -⟩ := text_cons item
    have hread := readItem_text item ended_nil
    rw [List.append_nil] at hread
    rw [read, Value.text, String.toList_ofList, hcons]
    dsimp only
    rw [if_neg hopen, ← hcons, hread, Option.bind_some, if_pos rfl]
  | array items =>
    rw [read, Value.text, String.toList_ofList]
    dsimp only
    rw [if_pos rfl, readArray_text, Option.map_some]

example : Value.text (.array [.string "say \"no\"\n", .integer (-12), .null]) =
    "[\"say \\\"no\\\"\\n\",-12,null]" := by decide +kernel

end Values

end ChatCore.Codecs.JsonText
