import ChatCore.Protocol.Content
import Mathlib.Order.Basic
import Mathlib.Tactic.IntervalCases
import Mathlib.Tactic.Lemma

/-! The cursors that lists hand out, and what they take from the platform: encodings, dates and a collation. -/

namespace ChatCore.Protocol

/-- An element of a JSON array: a string, an integer, or anything else. -/
inductive Scalar
  | text (text : String)
  | number (number : Int)
  | other
  deriving DecidableEq, Repr

/-- What the cursors take from the platform: base64url over UTF-8 (decoding never throws), the JSON text of an
array and the array that a text parses to, and the ISO strings of dates in milliseconds. -/
structure Encoding where
  toBase64url : String → String
  fromBase64url : String → String
  stringify : List Scalar → String
  parse : String → Option (List Scalar)
  toISOString : Int → String
  dateParse : String → Option Int

/-- How the database compares texts: by their sort keys, which are different for different texts. -/
structure Collation where
  Key : Type
  order : LinearOrder Key
  sortKey : Id → Key
  injective : Function.Injective sortKey

attribute [instance] Collation.order

inductive CursorKind
  | conversation
  | message
  | event
  | run
  | failure
  | handoff
  deriving DecidableEq, Repr

def CursorKind.text : CursorKind → String
  | .conversation => "conversation"
  | .message => "message"
  | .event => "event"
  | .run => "run"
  | .failure => "failure"
  | .handoff => "handoff"

/-- A decoded cursor: the date in milliseconds that `new Date` makes of its text, and an id. -/
structure TimeCursor where
  timestamp : Int
  id : Id
  deriving DecidableEq, Repr

def maxSafeInteger : Int := 9007199254740991

variable (encoding : Encoding)

def Encoding.encode (items : List Scalar) : String := encoding.toBase64url (encoding.stringify items)

def Encoding.decode (value : String) : Option (List Scalar) := encoding.parse (encoding.fromBase64url value)

def Encoding.ReadsBack (items : List Scalar) : Prop :=
  encoding.encode items ≠ "" ∧ encoding.decode (encoding.encode items) = some items

structure Encoding.Carries (kinds : List CursorKind) (timestamp : Int) (id : Id) : Prop where
  date : encoding.dateParse (encoding.toISOString timestamp) = some timestamp
  pair : encoding.ReadsBack [.text (encoding.toISOString timestamp), .text id]
  triple : ∀ kind ∈ kinds, encoding.ReadsBack [.text kind.text, .text (encoding.toISOString timestamp), .text id]

def encodeTimeCursor (kind : CursorKind) (timestamp : Int) (id : Id) : String :=
  encoding.encode [.text kind.text, .text (encoding.toISOString timestamp), .text id]

def decodeTimeCursor (kind : CursorKind) (value : String) : Option TimeCursor := match encoding.decode value with
  | some [.text k, .text timestamp, .text id] =>
      if k = kind.text ∧ id ≠ "" then (encoding.dateParse timestamp).map fun t => ⟨t, id⟩ else none
  | _ => none

def encodeSequenceCursor (kind : CursorKind) (sequence : ℕ) : String :=
  encoding.encode [.text kind.text, .number sequence]

def decodeSequenceCursor (kind : CursorKind) (value : String) : Option ℕ := match encoding.decode value with
  | some [.text k, .number sequence] =>
      if k = kind.text ∧ 1 ≤ sequence ∧ sequence ≤ maxSafeInteger then some sequence.toNat else none
  | _ => none

def encodeConversationCursor (createdAt : Int) (conversationId : Id) : String :=
  encoding.encode [.text (encoding.toISOString createdAt), .text conversationId]

def decodeConversationCursor (value : String) : Option TimeCursor := match encoding.decode value with
  | some [.text createdAt, .text conversationId] =>
      (encoding.dateParse createdAt).map fun t => ⟨t, conversationId⟩
  | _ => none

def encodeMessageCursor (sequence : ℕ) : String := encoding.toBase64url (Nat.repr sequence)

def isPositiveDecimal : List Char → Bool
  | [] => false
  | c :: cs => c.isDigit && decide (c ≠ '0') && cs.all Char.isDigit

def decodeMessageCursor (cursor : String) : Option ℕ :=
  let value := (encoding.fromBase64url cursor).toList
  if isPositiveDecimal value ∧ (Nat.ofDigitChars 10 value 0 : Int) ≤ maxSafeInteger then
    some (Nat.ofDigitChars 10 value 0)
  else none

section RoundTrips

variable {encoding} {kind : CursorKind} {timestamp : Int} {id : Id} {sequence : ℕ}

lemma decode_encodeTimeCursor {kinds : List CursorKind} (h : encoding.Carries kinds timestamp id)
    (hk : kind ∈ kinds) :
    decodeTimeCursor encoding kind (encodeTimeCursor encoding kind timestamp id) =
      if id = "" then none else some ⟨timestamp, id⟩ := by
  rw [decodeTimeCursor, encodeTimeCursor, (h.triple kind hk).2]
  by_cases hid : id = "" <;> simp [hid, h.date]

lemma decode_encodeConversationCursor {kinds : List CursorKind} (h : encoding.Carries kinds timestamp id) :
    decodeConversationCursor encoding (encodeConversationCursor encoding timestamp id) = some ⟨timestamp, id⟩ := by
  simp [decodeConversationCursor, encodeConversationCursor, h.pair.2, h.date]

lemma isPositiveDecimal_append {cs : List Char} {c : Char} (h : isPositiveDecimal cs = true)
    (hc : c.isDigit = true) :
    isPositiveDecimal (cs ++ [c]) = true := by
  cases cs with
  | nil => cases h
  | cons d ds =>
    simp only [isPositiveDecimal, List.cons_append, List.all_append, List.all_cons, List.all_nil, Bool.and_true,
      Bool.and_eq_true] at h ⊢
    exact ⟨h.1, h.2, hc⟩

lemma isPositiveDecimal_toDigits (h : 1 ≤ sequence) : isPositiveDecimal (Nat.toDigits 10 sequence) = true := by
  induction sequence using Nat.strongRecOn with
  | ind n ih =>
    by_cases hlt : n < 10
    · rw [Nat.toDigits_of_lt_base hlt]
      interval_cases n <;> rfl
    · have hdigit : (Nat.digitChar (n % 10)).isDigit = true := by
        refine Nat.isDigit_of_mem_toDigits (b := 10) (n := n) (by decide) (by decide) ?_
        rw [Nat.toDigits_of_base_le (by decide) (Nat.le_of_not_lt hlt)]
        simp
      rw [Nat.toDigits_of_base_le (by decide) (Nat.le_of_not_lt hlt)]
      exact isPositiveDecimal_append (ih (n / 10) (by omega) (by omega)) hdigit

lemma decode_encodeMessageCursor
    (h : encoding.fromBase64url (encodeMessageCursor encoding sequence) = Nat.repr sequence)
    (hs : 1 ≤ sequence) (hm : (sequence : Int) ≤ maxSafeInteger) :
    decodeMessageCursor encoding (encodeMessageCursor encoding sequence) = some sequence := by
  unfold decodeMessageCursor
  rw [h, Nat.toList_repr]
  simp only [isPositiveDecimal_toDigits hs, Nat.ofDigitChars_ten_toDigits, hm, and_self, if_true]

end RoundTrips

end ChatCore.Protocol
