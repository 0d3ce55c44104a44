import ChatCore.Codecs.Base64Url
import ChatCore.Codecs.Dates
import ChatCore.Codecs.JsonText
import ChatCore.Protocol.Cursors
import Mathlib.Data.List.Induction

namespace ChatCore.Services.CursorCodecs

open Codecs Protocol

/-- What `JSON.parse` gives; `other` is `null`, a boolean, a number that is no integer, or an object. -/
inductive Json
  | string (text : String)
  | integer (value : Int)
  | array (items : List Json)
  | other

/-- What the cursors take from the platform: base64url of the UTF-8 bytes of a text, `JSON.stringify`,
`JSON.parse` unless it throws, and `Date.parse` unless it is `NaN`. -/
structure Codec where
  toBase64url : String → String
  fromBase64url : String → String
  stringify : Json → String
  parse : String → Option Json
  dateParse : String → Option Int

structure Date where
  time : Int
  representable : -Codecs.maxTime ≤ time ∧ time ≤ Codecs.maxTime

def Date.toISOString (date : Date) : String := Codecs.toISOString date.time

structure TimeCursor where
  timestamp : String
  id : String
  deriving DecidableEq, Repr

structure ConversationCursor where
  createdAt : String
  conversationId : String
  deriving DecidableEq, Repr

inductive SequenceKind
  | message
  | event
  deriving DecidableEq, Repr

def SequenceKind.text : SequenceKind → String
  | .message => "message"
  | .event => "event"

def isSafeInteger (n : Int) : Prop := -maxSafeInteger ≤ n ∧ n ≤ maxSafeInteger

instance (n : Int) : Decidable (isSafeInteger n) := inferInstanceAs (Decidable (_ ∧ _))

section Codecs

variable (codec : Codec)

def encode (value : Json) : String := codec.toBase64url (codec.stringify value)

def decode (value : String) : Option Json := codec.parse (codec.fromBase64url value)

def encodeTimeCursor (kind : CursorKind) (timestamp : Date) (id : String) : String :=
  encode codec (.array [.string kind.text, .string timestamp.toISOString, .string id])

def decodeTimeCursor (kind : CursorKind) (value : String) : Option TimeCursor := match decode codec value with
  | some (.array [.string k, .string timestamp, .string id]) =>
      if k = kind.text ∧ (codec.dateParse timestamp).isSome ∧ id ≠ "" then some ⟨timestamp, id⟩ else none
  | _ => none

def encodeSequenceCursor (kind : SequenceKind) (sequence : Int) : String :=
  encode codec (.array [.string kind.text, .integer sequence])

def decodeSequenceCursor (kind : SequenceKind) (value : String) : Option Int := match decode codec value with
  | some (.array [.string k, .integer sequence]) =>
      if k = kind.text ∧ isSafeInteger sequence ∧ 1 ≤ sequence then some sequence else none
  | _ => none

def encodeConversationCursor (cursor : ConversationCursor) : String :=
  encode codec (.array [.string cursor.createdAt, .string cursor.conversationId])

def decodeConversationCursor (value : String) : Option ConversationCursor := match decode codec value with
  | some (.array [.string createdAt, .string conversationId]) =>
      if (codec.dateParse createdAt).isSome then some ⟨createdAt, conversationId⟩ else none
  | _ => none

def encodeCursor (sequence : Int) : String := codec.toBase64url (toString sequence)

def decodeCursor (cursor : String) : Option Int :=
  let value := (codec.fromBase64url cursor).toList
  if isPositiveDecimal value = true then
    let sequence : Int := Nat.ofDigitChars 10 value 0
    if isSafeInteger sequence then some sequence else none
  else none

end Codecs

inductive Cursor
  | time (kind : CursorKind) (timestamp : Date) (id : String) (nonempty : id ≠ "")
  | sequence (kind : SequenceKind) (sequence : Int) (positive : 1 ≤ sequence) (safe : isSafeInteger sequence)
  | conversation (createdAt : Date) (conversationId : String) (nonempty : conversationId ≠ "")
  | message (sequence : Int) (positive : 1 ≤ sequence) (safe : isSafeInteger sequence)

inductive Decoder
  | time (kind : CursorKind)
  | sequence (kind : SequenceKind)
  | conversation
  | message
  deriving DecidableEq, Repr

inductive Position
  | time (cursor : TimeCursor)
  | conversation (cursor : ConversationCursor)
  | sequence (sequence : Int)
  deriving DecidableEq, Repr

def Cursor.encode (codec : Codec) : Cursor → String
  | .time kind timestamp id _ => encodeTimeCursor codec kind timestamp id
  | .sequence kind n _ _ => encodeSequenceCursor codec kind n
  | .conversation createdAt conversationId _ =>
    encodeConversationCursor codec ⟨createdAt.toISOString, conversationId⟩
  | .message n _ _ => encodeCursor codec n

def Cursor.decoder : Cursor → Decoder
  | .time kind _ _ _ => .time kind
  | .sequence kind _ _ _ => .sequence kind
  | .conversation _ _ _ => .conversation
  | .message _ _ _ => .message

def Cursor.position : Cursor → Position
  | .time _ timestamp id _ => .time ⟨timestamp.toISOString, id⟩
  | .sequence _ n _ _ | .message n _ _ => .sequence n
  | .conversation createdAt conversationId _ => .conversation ⟨createdAt.toISOString, conversationId⟩

def Decoder.decode (codec : Codec) (value : String) : Decoder → Option Position
  | .time kind => (decodeTimeCursor codec kind value).map .time
  | .sequence kind => (decodeSequenceCursor codec kind value).map .sequence
  | .conversation => (decodeConversationCursor codec value).map .conversation
  | .message => (decodeCursor codec value).map .sequence

section RoundTrips

def Json.plain : Json → Bool
  | .string _ => true
  | .integer value => decide (isSafeInteger value)
  | _ => false

/-- Base64url and the JSON of strings and integers give back what they were given, and `Date.parse` reads the
complete texts of the date-time string format. -/
structure Codec.RoundTrips (codec : Codec) : Prop where
  base64url : ∀ text, codec.fromBase64url (codec.toBase64url text) = text
  array : ∀ items, (∀ item ∈ items, item.plain = true) →
    codec.parse (codec.stringify (.array items)) = some (.array items)
  integer : ∀ n : Int, isSafeInteger n → codec.parse (toString n) = some (.integer n)
  date : ∀ text t, Codecs.readISO text = some t → codec.dateParse text = some t

variable {codec : Codec} {kind kind' : CursorKind}

lemma kind_text_injective (h : kind.text = kind'.text) : kind = kind' := by
  cases kind <;> cases kind' <;> first | rfl | exact absurd h (by decide)

lemma sequenceKind_text_injective {kind kind' : SequenceKind} (h : kind.text = kind'.text) : kind = kind' := by
  cases kind <;> cases kind' <;> first | rfl | exact absurd h (by decide)

lemma digit_char {c : Char} (h : c.isDigit = true) : ∃ d < 10, c = Nat.digitChar d := by
  have hdigit : ∀ n < 10, Char.ofNat (48 + n) = Nat.digitChar n := by decide
  simp only [Char.isDigit, Bool.and_eq_true, decide_eq_true_eq] at h
  have hlow : 48 ≤ c.toNat := h.1
  have hhigh : c.toNat ≤ 57 := h.2
  refine ⟨c.toNat - 48, by omega, ?_⟩
  rw [← hdigit _ (by omega), Nat.add_sub_cancel' hlow, Char.ofNat_toNat]

lemma isPositiveDecimal_front {cs : List Char} {c : Char} (h : isPositiveDecimal (cs ++ [c]) = true)
    (hcs : cs ≠ []) :
    isPositiveDecimal cs = true := by
  cases cs with
  | nil => exact absurd rfl hcs
  | cons d ds =>
    simp only [isPositiveDecimal, List.cons_append, List.all_append, Bool.and_eq_true] at h ⊢
    exact ⟨h.1, h.2.1⟩

lemma toDigits_ofDigitChars {cs : List Char} (h : isPositiveDecimal cs = true) :
    Nat.toDigits 10 (Nat.ofDigitChars 10 cs 0) = cs := by
  induction cs using List.reverseRecOn with
  | nil => cases h
  | append_singleton cs c ih =>
    have hlast : c.isDigit = true := by
      cases cs with
      | nil =>
        simp only [List.nil_append, isPositiveDecimal, Bool.and_eq_true] at h
        exact h.1.1
      | cons d ds =>
        simp only [isPositiveDecimal, List.cons_append, List.all_append, List.all_cons, Bool.and_eq_true] at h
        exact h.2.2.1
    obtain ⟨d, hd, rfl⟩ := digit_char hlast
    have hvalue : Nat.ofDigitChars 10 (cs ++ [Nat.digitChar d]) 0 = 10 * Nat.ofDigitChars 10 cs 0 + d := by
      rw [Nat.ofDigitChars_append, Nat.ofDigitChars_cons_digitChar_of_lt_ten hd, Nat.ofDigitChars_nil]
    rw [hvalue]
    by_cases hcs : cs = []
    · subst hcs
      rw [Nat.ofDigitChars_nil, Nat.mul_zero, Nat.zero_add, Nat.toDigits_of_lt_base hd, List.nil_append]
    · have hfront := isPositiveDecimal_front h hcs
      have hpositive : Nat.ofDigitChars 10 cs 0 ≠ 0 := by
        intro hzero
        have hdigits := ih hfront
        rw [hzero] at hdigits
        rw [← hdigits] at hfront
        exact absurd hfront (by decide)
      rw [Nat.toDigits_of_base_le (by decide) (by omega)]
      have hdiv : (10 * Nat.ofDigitChars 10 cs 0 + d) / 10 = Nat.ofDigitChars 10 cs 0 := by omega
      have hmod : (10 * Nat.ofDigitChars 10 cs 0 + d) % 10 = d := by omega
      rw [hdiv, hmod, ih hfront]

lemma decodeCursor_text {value : String} {n : Int} (h : decodeCursor codec value = some n) :
    codec.fromBase64url value = toString n ∧ isSafeInteger n := by
  unfold decodeCursor at h
  obtain ⟨hdecimal, h⟩ := Option.ite_none_right_eq_some.mp h
  obtain ⟨hsafe, h⟩ := Option.ite_none_right_eq_some.mp h
  rw [← Option.some.inj h]
  refine ⟨String.toList_injective ?_, hsafe⟩
  change _ = (Nat.repr _).toList
  rw [Nat.toList_repr, toDigits_ofDigitChars hdecimal]

lemma decodeCursor_encodeCursor (hcodec : codec.RoundTrips) {n : Int} (hpositive : 1 ≤ n)
    (hsafe : isSafeInteger n) :
    decodeCursor codec (encodeCursor codec n) = some n := by
  obtain ⟨m, rfl⟩ := Int.eq_ofNat_of_zero_le (Int.le_trans Int.one_nonneg hpositive)
  have htext : (codec.fromBase64url (encodeCursor codec m)).toList = Nat.toDigits 10 m := by
    rw [encodeCursor, hcodec.base64url]
    exact Nat.toList_repr
  unfold decodeCursor
  rw [htext]
  dsimp only
  rw [if_pos (isPositiveDecimal_toDigits (by omega)), Nat.ofDigitChars_ten_toDigits, if_pos hsafe]

lemma decode_encode (hcodec : codec.RoundTrips) {items : List Json} (h : ∀ item ∈ items, item.plain = true) :
    decode codec (encode codec (.array items)) = some (.array items) := by
  rw [decode, encode, hcodec.base64url, hcodec.array items h]

lemma decodeCursor_encode (hcodec : codec.RoundTrips) {items : List Json} (h : ∀ item ∈ items, item.plain = true) :
    decodeCursor codec (encode codec (.array items)) = none := by
  refine Option.eq_none_iff_forall_ne_some.mpr fun n hn => ?_
  obtain ⟨htext, hsafe⟩ := decodeCursor_text hn
  have hparse := hcodec.array items h
  rw [encode, hcodec.base64url] at htext
  rw [htext, hcodec.integer n hsafe] at hparse
  cases hparse

lemma decode_encodeCursor (hcodec : codec.RoundTrips) {n : Int} (h : isSafeInteger n) :
    decode codec (encodeCursor codec n) = some (.integer n) := by
  rw [decode, encodeCursor, hcodec.base64url, hcodec.integer n h]

lemma dateParse_toISOString (hcodec : codec.RoundTrips) (date : Date) :
    codec.dateParse date.toISOString = some date.time :=
  hcodec.date _ _ (Codecs.readISO_toISOString date.representable.1 date.representable.2)

variable (hcodec : codec.RoundTrips) (decoder : Decoder)

include hcodec

lemma decode_encodeTimeCursor (kind : CursorKind) (timestamp : Date) {id : String} (hid : id ≠ "") :
    decoder.decode codec (encodeTimeCursor codec kind timestamp id) =
      if decoder = .time kind then some (.time ⟨timestamp.toISOString, id⟩) else none := by
  have hplain : ∀ item ∈ [Json.string kind.text, .string timestamp.toISOString, .string id],
    item.plain = true := by
    simp [Json.plain]
  have hdecode := decode_encode hcodec hplain
  cases decoder with
  | time kind' =>
    have hsame : kind.text = kind'.text ↔ kind' = kind := ⟨fun h => (kind_text_injective h).symm, fun h => h ▸ rfl⟩
    simp only [Decoder.decode, decodeTimeCursor, encodeTimeCursor, hdecode, dateParse_toISOString hcodec, hsame,
      Decoder.time.injEq]
    split
    case isTrue h => rw [if_pos h.1, Option.map_some]
    case isFalse h => rw [if_neg fun hkind => h ⟨hkind, rfl, hid⟩, Option.map_none]
  | sequence kind' => simp only [Decoder.decode, decodeSequenceCursor, encodeTimeCursor, hdecode]; rfl
  | conversation => simp only [Decoder.decode, decodeConversationCursor, encodeTimeCursor, hdecode]; rfl
  | message => simp only [Decoder.decode, encodeTimeCursor, decodeCursor_encode hcodec hplain]; rfl

lemma decode_encodeSequenceCursor (kind : SequenceKind) {n : Int} (hpositive : 1 ≤ n) (hsafe : isSafeInteger n) :
    decoder.decode codec (encodeSequenceCursor codec kind n) =
      if decoder = .sequence kind then some (.sequence n) else none := by
  have hplain : ∀ item ∈ [Json.string kind.text, .integer n], item.plain = true := by simp [Json.plain, hsafe]
  have hdecode := decode_encode hcodec hplain
  cases decoder with
  | time kind' => simp only [Decoder.decode, decodeTimeCursor, encodeSequenceCursor, hdecode]; rfl
  | sequence kind' =>
    have hsame : kind.text = kind'.text ↔ kind' = kind :=
      ⟨fun h => (sequenceKind_text_injective h).symm, fun h => h ▸ rfl⟩
    simp only [Decoder.decode, decodeSequenceCursor, encodeSequenceCursor, hdecode, hsame, Decoder.sequence.injEq]
    split
    case isTrue h => rw [if_pos h.1, Option.map_some]
    case isFalse h => rw [if_neg fun hkind => h ⟨hkind, hsafe, hpositive⟩, Option.map_none]
  | conversation => simp only [Decoder.decode, decodeConversationCursor, encodeSequenceCursor, hdecode]; rfl
  | message => simp only [Decoder.decode, encodeSequenceCursor, decodeCursor_encode hcodec hplain]; rfl

lemma decode_encodeConversationCursor (createdAt : Date) (conversationId : String) :
    decoder.decode codec (encodeConversationCursor codec ⟨createdAt.toISOString, conversationId⟩) =
      if decoder = .conversation then some (.conversation ⟨createdAt.toISOString, conversationId⟩) else none := by
  have hplain : ∀ item ∈ [Json.string createdAt.toISOString, .string conversationId], item.plain = true := by
    simp [Json.plain]
  have hdecode := decode_encode hcodec hplain
  cases decoder with
  | time kind => simp only [Decoder.decode, decodeTimeCursor, encodeConversationCursor, hdecode]; rfl
  | sequence kind => simp only [Decoder.decode, decodeSequenceCursor, encodeConversationCursor, hdecode]; rfl
  | conversation =>
    simp only [Decoder.decode, decodeConversationCursor, encodeConversationCursor, hdecode,
      dateParse_toISOString hcodec]
    rfl
  | message => simp only [Decoder.decode, encodeConversationCursor, decodeCursor_encode hcodec hplain]; rfl

lemma decode_encodeMessageCursor {n : Int} (hpositive : 1 ≤ n) (hsafe : isSafeInteger n) :
    decoder.decode codec (encodeCursor codec n) = if decoder = .message then some (.sequence n) else none := by
  have hdecode := decode_encodeCursor hcodec hsafe
  cases decoder with
  | time kind => simp only [Decoder.decode, decodeTimeCursor, hdecode]; rfl
  | sequence kind => simp only [Decoder.decode, decodeSequenceCursor, hdecode]; rfl
  | conversation => simp only [Decoder.decode, decodeConversationCursor, hdecode]; rfl
  | message => simp only [Decoder.decode, decodeCursor_encodeCursor hcodec hpositive hsafe]; rfl

/-- A cursor is taken by its own decoder alone, which gives back its position; the date comes back from the text
in it. -/
theorem cursors_told_apart (cursor : Cursor) : decoder.decode codec (cursor.encode codec) =
    (if decoder = cursor.decoder then some cursor.position else none) ∧
      ∀ date : Date, codec.dateParse date.toISOString = some date.time := by
  refine ⟨?_, dateParse_toISOString hcodec⟩
  cases cursor with
  | time kind timestamp id hid => exact decode_encodeTimeCursor hcodec decoder kind timestamp hid
  | sequence kind n hpositive hsafe => exact decode_encodeSequenceCursor hcodec decoder kind hpositive hsafe
  | conversation createdAt conversationId =>
    exact decode_encodeConversationCursor hcodec decoder createdAt conversationId
  | message n hpositive hsafe => exact decode_encodeMessageCursor hcodec decoder hpositive hsafe

end RoundTrips

section Node

def Json.item : Json → JsonText.Item
  | .string text => .string text
  | .integer value => .integer value
  | _ => .null

def Json.value : Json → JsonText.Value
  | .array items => .array (items.map Json.item)
  | json => .item json.item

def ofItem : JsonText.Item → Json
  | .string text => .string text
  | .integer value => .integer value
  | .null => .other

def ofValue : JsonText.Value → Json
  | .item item => ofItem item
  | .array items => .array (items.map ofItem)

def node : Codec where
  toBase64url := Base64Url.encode
  fromBase64url := Base64Url.decode
  stringify json := json.value.text
  parse text := (JsonText.read text).map ofValue
  dateParse := readISO

lemma ofItem_item {json : Json} (h : json.plain = true) : ofItem json.item = json := by
  cases json with
  | string text => rfl
  | integer value => rfl
  | array items => cases h
  | other => cases h

lemma text_integer (n : Int) : (JsonText.Value.item (.integer n)).text = toString n := by
  refine String.toList_injective ?_
  rw [JsonText.Value.text, String.toList_ofList]
  cases n with
  | ofNat n => exact Nat.toList_repr.symm
  | negSucc n =>
    change '-' :: Nat.toDigits 10 (n + 1) = ("-" ++ Nat.repr (n + 1)).toList
    rw [String.toList_append, Nat.toList_repr]
    rfl

lemma node_roundTrips : node.RoundTrips where
  base64url := Base64Url.decode_encode
  array items h := by
    have hback : (items.map Json.item).map ofItem = items := by
      rw [List.map_map]
      exact (List.map_congr_left fun item hitem => ofItem_item (h item hitem)).trans (List.map_id items)
    change (JsonText.read (JsonText.Value.text (.array (items.map Json.item)))).map ofValue = _
    rw [JsonText.read_text, Option.map_some, ofValue, hback]
  integer n _ := by
    change (JsonText.read (toString n)).map ofValue = _
    rw [← text_integer, JsonText.read_text]
    rfl
  date _ _ h := h

lemma noon_representable : -maxTime ≤ 1784116800000 ∧ 1784116800000 ≤ maxTime := by decide

lemma conversationId_nonempty : "conversation-1" ≠ "" := by decide

def runCursor : Cursor := .time .run ⟨1784116800000, noon_representable⟩ "conversation-1" conversationId_nonempty

theorem run_cursor_told_apart :
    runCursor.encode node = "WyJydW4iLCIyMDI2LTA3LTE1VDEyOjAwOjAwLjAwMFoiLCJjb252ZXJzYXRpb24tMSJd" ∧
      runCursor.position = .time ⟨"2026-07-15T12:00:00.000Z", "conversation-1"⟩ ∧
      (Decoder.time .run).decode node (runCursor.encode node) = some runCursor.position ∧
      Decoder.conversation.decode node (runCursor.encode node) = none :=
  ⟨by decide +kernel, by decide +kernel,
    (cursors_told_apart node_roundTrips (.time .run) runCursor).1.trans (if_pos rfl),
    (cursors_told_apart node_roundTrips .conversation runCursor).1.trans (if_neg (by decide))⟩

end Node

section Lists

def Json.scalar : Json → Scalar
  | .string text => .text text
  | .integer value => .number value
  | _ => .other

def Json.items : Json → Option (List Scalar)
  | .array items => some (items.map Json.scalar)
  | _ => none

def ofScalar : Scalar → Json
  | .text text => .string text
  | .number value => .integer value
  | .other => .other

def Codec.encoding (codec : Codec) : Encoding where
  toBase64url := codec.toBase64url
  fromBase64url := codec.fromBase64url
  stringify items := codec.stringify (.array (items.map ofScalar))
  parse text := (codec.parse text).bind Json.items
  toISOString := Codecs.toISOString
  dateParse := codec.dateParse

def SequenceKind.cursorKind : SequenceKind → CursorKind
  | .message => .message
  | .event => .event

variable {codec : Codec} {value : String}

lemma encodeTimeCursor_eq (kind : CursorKind) (timestamp : Date) (id : String) :
    Protocol.encodeTimeCursor codec.encoding kind timestamp.time id = encodeTimeCursor codec kind timestamp id :=
  rfl

lemma encodeSequenceCursor_eq (kind : SequenceKind) (sequence : ℕ) :
    Protocol.encodeSequenceCursor codec.encoding kind.cursorKind sequence =
      encodeSequenceCursor codec kind sequence := by
  cases kind <;> rfl

lemma encodeConversationCursor_eq (createdAt : Date) (conversationId : String) :
    Protocol.encodeConversationCursor codec.encoding createdAt.time conversationId =
      encodeConversationCursor codec ⟨createdAt.toISOString, conversationId⟩ := rfl

lemma encodeMessageCursor_eq (sequence : ℕ) :
    encodeMessageCursor codec.encoding sequence = encodeCursor codec sequence := rfl

lemma decode_encoding : codec.encoding.decode value = (decode codec value).bind Json.items := rfl

lemma dateParse_encoding : codec.encoding.dateParse = codec.dateParse := rfl

lemma fromBase64url_encoding : codec.encoding.fromBase64url = codec.fromBase64url := rfl

theorem decodeTimeCursor_eq (kind : CursorKind) : Protocol.decodeTimeCursor codec.encoding kind value =
    (decodeTimeCursor codec kind value).bind fun cursor =>
      (codec.dateParse cursor.timestamp).map fun t => ⟨t, cursor.id⟩ := by
  rw [Protocol.decodeTimeCursor, decodeTimeCursor, decode_encoding, dateParse_encoding]
  rcases decode codec value with _ | (_ | _ | (_ | ⟨a, _ | ⟨b, _ | ⟨c, _ | ⟨d, rest⟩⟩⟩⟩) | _)
  case some.array.cons.cons.cons.nil =>
    cases a with
    | string k =>
      cases b with
      | string timestamp =>
        cases c with
        | string id =>
          change (if k = kind.text ∧ id ≠ "" then (codec.dateParse timestamp).map _ else none) =
            (if k = kind.text ∧ (codec.dateParse timestamp).isSome ∧ id ≠ "" then _ else none).bind _
          by_cases h : k = kind.text ∧ id ≠ ""
          · rw [if_pos h]
            cases hparsed : codec.dateParse timestamp with
            | none => rw [if_neg fun h => by cases h.2.1]; rfl
            | some t => rw [if_pos ⟨h.1, rfl, h.2⟩, Option.bind_some, hparsed]
          · rw [if_neg h, if_neg fun h' => h ⟨h'.1, h'.2.2⟩, Option.bind_none]
        | _ => rfl
      | _ => rfl
    | _ => rfl
  case some.array.cons.nil => cases a <;> rfl
  case some.array.cons.cons.nil => cases a <;> cases b <;> rfl
  case some.array.cons.cons.cons.cons => cases a <;> cases b <;> cases c <;> rfl
  all_goals rfl

theorem decodeSequenceCursor_eq (kind : SequenceKind) :
    Protocol.decodeSequenceCursor codec.encoding kind.cursorKind value =
      (decodeSequenceCursor codec kind value).map Int.toNat := by
  have htext : kind.cursorKind.text = kind.text := by cases kind <;> rfl
  rw [Protocol.decodeSequenceCursor, decodeSequenceCursor, decode_encoding, htext]
  rcases decode codec value with _ | (_ | _ | (_ | ⟨a, _ | ⟨b, _ | ⟨c, rest⟩⟩⟩) | _)
  case some.array.cons.cons.nil =>
    cases a with
    | string k =>
      cases b with
      | integer n =>
        change (if k = kind.text ∧ 1 ≤ n ∧ n ≤ maxSafeInteger then _ else none) =
          (if k = kind.text ∧ isSafeInteger n ∧ 1 ≤ n then some n else none).map _
        by_cases h : k = kind.text ∧ 1 ≤ n ∧ n ≤ maxSafeInteger
        · have hsafe : isSafeInteger n := ⟨Int.le_trans (by decide) h.2.1, h.2.2⟩
          rw [if_pos h, if_pos ⟨h.1, hsafe, h.2.1⟩, Option.map_some]
        · rw [if_neg h, if_neg fun h' => h ⟨h'.1, h'.2.2, h'.2.1.2⟩, Option.map_none]
      | _ => rfl
    | _ => rfl
  case some.array.cons.nil => cases a <;> rfl
  case some.array.cons.cons.cons => cases a <;> cases b <;> rfl
  all_goals rfl

theorem decodeConversationCursor_eq : Protocol.decodeConversationCursor codec.encoding value =
    (decodeConversationCursor codec value).bind fun cursor =>
      (codec.dateParse cursor.createdAt).map fun t => ⟨t, cursor.conversationId⟩ := by
  rw [Protocol.decodeConversationCursor, decodeConversationCursor, decode_encoding, dateParse_encoding]
  rcases decode codec value with _ | (_ | _ | (_ | ⟨a, _ | ⟨b, _ | ⟨c, rest⟩⟩⟩) | _)
  case some.array.cons.cons.nil =>
    cases a with
    | string createdAt =>
      cases b with
      | string conversationId =>
        change (codec.dateParse createdAt).map _ = (if (codec.dateParse createdAt).isSome then _ else none).bind _
        cases hparsed : codec.dateParse createdAt with
        | none => rfl
        | some t => rw [if_pos Option.isSome_some, Option.bind_some, hparsed]
      | _ => rfl
    | _ => rfl
  case some.array.cons.nil => cases a <;> rfl
  case some.array.cons.cons.cons => cases a <;> cases b <;> rfl
  all_goals rfl

theorem decodeMessageCursor_eq :
    decodeMessageCursor codec.encoding value = (decodeCursor codec value).map Int.toNat := by
  rw [decodeMessageCursor, decodeCursor, fromBase64url_encoding]
  dsimp only
  by_cases hdecimal : isPositiveDecimal (codec.fromBase64url value).toList = true
  · rw [if_pos hdecimal]
    by_cases hle : (Nat.ofDigitChars 10 (codec.fromBase64url value).toList 0 : Int) ≤ maxSafeInteger
    · have hsafe : isSafeInteger (Nat.ofDigitChars 10 (codec.fromBase64url value).toList 0) := by
        refine ⟨?_, hle⟩
        unfold maxSafeInteger
        omega
      rw [if_pos ⟨hdecimal, hle⟩, if_pos hsafe, Option.map_some, Int.toNat_natCast]
    · rw [if_neg fun h => hle h.2, if_neg fun h => hle h.2, Option.map_none]
  · rw [if_neg fun h => hdecimal h.1, if_neg hdecimal, Option.map_none]

end Lists

end ChatCore.Services.CursorCodecs
