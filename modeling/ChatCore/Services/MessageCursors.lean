import ChatCore.Relational.Alone
import ChatCore.Services.Listing

namespace ChatCore.Services

open Protocol Relational Database

def maxInteger : ℕ := 2147483647

/-- The database takes a parameter for an `integer` where it is compared with one. -/
def integerParameter (value : ℕ) : Query Unit :=
  if value ≤ maxInteger then .pure () else .throw (.error s!"value \"{value}\" is out of range for type integer")

variable (encoding : Encoding) (scope : Scope) (conversationId : Id) (request : ListRequest)

namespace MessageService

def listOverIntegers : Query (Page MessageResource) := do
  let _ ← requireConversation scope conversationId
  match decodeGiven (decodeMessageCursor encoding) request.cursor with
  | .error e => .throw e
  | .ok cursor =>
    cursor.forM integerParameter
    let matching ← messages.selectFrom fun m =>
      ofConversation scope conversationId m && cursor.all fun cursor => decide (cursor < m.sequence)
    let rows := (matching.mergeSort sequenceFirst).take (request.limit + 1)
    return ⟨(rows.take request.limit).map mapMessage,
      paginate request.limit (fun tail => encodeMessageCursor encoding tail.sequence) rows⟩

/-- The digits of a sequence that the decoder takes and the column cannot hold. -/
def Oversized (cursor : String) : Prop :=
  isPositiveDecimal (encoding.fromBase64url cursor).toList = true ∧
    maxInteger < Nat.ofDigitChars 10 (encoding.fromBase64url cursor).toList 0 ∧
    (Nat.ofDigitChars 10 (encoding.fromBase64url cursor).toList 0 : Int) ≤ maxSafeInteger

instance (cursor : String) : Decidable (Oversized encoding cursor) := inferInstanceAs (Decidable (_ ∧ _ ∧ _))

def FailsCleanly (result : Except ServerError (Page MessageResource)) : Prop :=
  (∃ page, result = .ok page) ∨ result = .error invalidCursor

variable {encoding scope conversationId request} {db : Tables} {text : String}

lemma oversized_iff : Oversized encoding text ↔
    ∃ sequence, decodeMessageCursor encoding text = some sequence ∧ maxInteger < sequence := by
  constructor
  · rintro ⟨hd, hlt, hs⟩
    exact ⟨_, if_pos ⟨hd, hs⟩, hlt⟩
  · rintro ⟨sequence, h, hlt⟩
    obtain ⟨⟨hd, hs⟩, he⟩ := Option.ite_none_right_eq_some.mp h
    have he : Nat.ofDigitChars 10 (encoding.fromBase64url text).toList 0 = sequence := Option.some.inj he
    exact ⟨hd, by rw [he]; exact hlt, hs⟩

lemma given_decoded {sequence : ℕ} {cursor : Option String}
    (h : decodeGiven (decodeMessageCursor encoding) cursor = .ok (some sequence)) :
    ∃ text, cursor.bind present = some text ∧ decodeMessageCursor encoding text = some sequence := by
  rw [decodeGiven] at h
  split at h
  · cases h
  · rename_i text hc
    split at h
    · cases h
    · rename_i found hd
      cases h
      exact ⟨text, hc, hd⟩

lemma exec_requireConversation_own (hc : ∃ c ∈ db.conversations, inConversation scope conversationId c = true) :
    ∃ conversation, (requireConversation scope conversationId).exec db db = (.ok conversation, db, db) := by
  obtain ⟨c, hc, hin⟩ := hc
  have hm : c ∈ conversations.matching (inConversation scope conversationId) db := List.mem_filter.mpr ⟨hc, hin⟩
  obtain ⟨first, hfirst⟩ :=
    Option.ne_none_iff_exists'.mp fun h => List.ne_nil_of_mem hm (List.head?_eq_none_iff.mp h)
  refine ⟨first, (Program.exec_bind_ok (conversations.exec_selectFirst _ db db)).trans ?_⟩
  rw [hfirst]
  rfl

lemma listOverIntegers_eq
    (h : ∀ cursor, request.cursor.bind present = some cursor → ¬ Oversized encoding cursor) :
    listOverIntegers encoding scope conversationId request = list encoding scope conversationId request := by
  refine congrArg (requireConversation scope conversationId >>= ·) (funext fun _ => ?_)
  cases hd : decodeGiven (decodeMessageCursor encoding) request.cursor with
  | error e => rfl
  | ok cursor =>
    cases cursor with
    | none => rfl
    | some sequence =>
      have hin : integerParameter sequence = .pure () := by
        refine if_pos (Nat.not_lt.mp fun hlt => ?_)
        obtain ⟨text, hc, hd⟩ := given_decoded hd
        exact h text hc (oversized_iff.mpr ⟨sequence, hd, hlt⟩)
      exact congrArg (· >>= fun _ => _) hin

section Owned

variable (hc : ∃ c ∈ db.conversations, inConversation scope conversationId c = true)

include hc

lemma list_refused {e : ServerError} (h : decodeGiven (decodeMessageCursor encoding) request.cursor = .error e) :
    ((listOverIntegers encoding scope conversationId request).run db).1 = .error e := by
  obtain ⟨_, hr⟩ := exec_requireConversation_own hc
  have hexec : (listOverIntegers encoding scope conversationId request).exec db db = (.error e, db, db) := by
    refine (Program.exec_bind_ok hr).trans ?_
    rw [h]
    rfl
  rw [Program.run_of_exec hexec]

lemma list_page {cursor : Option ℕ} (h : decodeGiven (decodeMessageCursor encoding) request.cursor = .ok cursor)
    (hr : ∀ sequence ∈ cursor, sequence ≤ maxInteger) :
    ∃ page, ((listOverIntegers encoding scope conversationId request).run db).1 = .ok page := by
  obtain ⟨_, hrequire⟩ := exec_requireConversation_own hc
  have hparameter : (cursor.forM integerParameter).exec db db = (.ok (), db, db) := by
    cases cursor with
    | none => rfl
    | some sequence => exact congrArg (fun p : Query Unit => p.exec db db) (if_pos (hr sequence rfl))
  obtain ⟨page, hpage⟩ : ∃ page, (listOverIntegers encoding scope conversationId request).exec db db =
      (.ok page, db, db) := by
    rw [listOverIntegers, Program.exec_bind_ok hrequire, h]
    exact ⟨_, (Program.exec_bind_ok hparameter).trans (Program.exec_bind_ok (messages.exec_selectFrom _ db db))⟩
  exact ⟨page, congrArg Prod.fst (Program.run_of_exec hpage)⟩

lemma list_crashes {sequence : ℕ}
    (h : decodeGiven (decodeMessageCursor encoding) request.cursor = .ok (some sequence))
    (hr : maxInteger < sequence) : ((listOverIntegers encoding scope conversationId request).run db).1 =
      .error (.error s!"value \"{sequence}\" is out of range for type integer") := by
  obtain ⟨_, hrequire⟩ := exec_requireConversation_own hc
  have hparameter : (integerParameter sequence).exec db db =
      (.error (.error s!"value \"{sequence}\" is out of range for type integer"), db, db) :=
    congrArg (fun p : Query Unit => p.exec db db) (if_neg (Nat.not_le.mpr hr))
  have hexec : (listOverIntegers encoding scope conversationId request).exec db db =
      (.error (.error s!"value \"{sequence}\" is out of range for type integer"), db, db) := by
    refine (Program.exec_bind_ok hrequire).trans ?_
    rw [h]
    exact Program.exec_bind_error hparameter
  rw [Program.run_of_exec hexec]

/-- What a cursor stands for decides how its list ends. -/
theorem list_clean_iff : FailsCleanly ((listOverIntegers encoding scope conversationId request).run db).1 ↔
    ∀ cursor, request.cursor.bind present = some cursor → ¬ Oversized encoding cursor := by
  cases hcursor : request.cursor.bind present with
  | none =>
    have h : decodeGiven (decodeMessageCursor encoding) request.cursor = .ok none := by rw [decodeGiven, hcursor]
    exact iff_of_true (Or.inl (list_page hc h fun _ hs => nomatch hs)) fun _ hn => nomatch hn
  | some text =>
    cases hdecode : decodeMessageCursor encoding text with
    | none =>
      have h : decodeGiven (decodeMessageCursor encoding) request.cursor = .error invalidCursor := by
        simp only [decodeGiven, hcursor, hdecode]
      refine iff_of_true (Or.inr (list_refused hc h)) fun cursor he ho => ?_
      obtain ⟨_, hs, -⟩ := oversized_iff.mp ho
      rw [← Option.some.inj he, hdecode] at hs
      cases hs
    | some sequence =>
      have h : decodeGiven (decodeMessageCursor encoding) request.cursor = .ok (some sequence) := by
        simp only [decodeGiven, hcursor, hdecode]
      have hover : Oversized encoding text ↔ maxInteger < sequence := by
        simp [oversized_iff, hdecode]
      constructor
      · rintro hclean cursor he ho
        rw [← Option.some.inj he] at ho
        have hcrash := list_crashes hc h (hover.mp ho)
        rcases hclean with ⟨page, hpage⟩ | hinvalid
        · exact absurd (hcrash.symm.trans hpage) (by simp)
        · exact absurd (hcrash.symm.trans hinvalid) (by simp [invalidCursor])
      · intro hin
        refine Or.inl (list_page hc h fun s hs => ?_)
        rw [← Option.some.inj hs]
        exact Nat.not_lt.mp fun hlt => hin text rfl (hover.mpr hlt)

end Owned

section Forged

def sextet (c : Char) : Option ℕ :=
  if 'A' ≤ c ∧ c ≤ 'Z' then some (c.toNat - 65)
  else if 'a' ≤ c ∧ c ≤ 'z' then some (c.toNat - 71)
  else if '0' ≤ c ∧ c ≤ '9' then some (c.toNat + 4)
  else if c = '-' ∨ c = '+' then some 62
  else if c = '_' ∨ c = '/' then some 63
  else none

def octets : List ℕ → List ℕ
  | a :: b :: c :: d :: rest => (4 * a + b / 16) :: (b % 16 * 16 + c / 4) :: (c % 4 * 64 + d) :: octets rest
  | [a, b, c] => [4 * a + b / 16, b % 16 * 16 + c / 4]
  | [a, b] => [4 * a + b / 16]
  | _ => []

def asciiDecoding : Encoding where
  toBase64url text := text
  fromBase64url text := String.ofList ((octets (text.toList.filterMap sextet)).map Char.ofNat)
  stringify _ := ""
  parse _ := none
  toISOString _ := ""
  dateParse _ := none

def visitor : Scope := ⟨"tenant", "site", "principal"⟩

def conversing : Tables := { unused ∅ ∅ ∅ with
  conversations := (∅ : Table Conversation.conversationId).insert
    (ConversationService.newConversation visitor "agent" "conversation" 1000) }

lemma conversing_own : ∃ c ∈ conversing.conversations, inConversation visitor "conversation" c = true :=
  ⟨ConversationService.newConversation visitor "agent" "conversation" 1000, List.mem_singleton_self _, by decide⟩

def forged : ListRequest := ⟨some "MjE0NzQ4MzY0OA", 20⟩

/-- The cursor holds the digits of 2147483648. -/
theorem forged_cursor_crashes : (∃ c ∈ conversing.conversations, inConversation visitor "conversation" c = true) ∧
    ((listOverIntegers asciiDecoding visitor "conversation" forged).run conversing).1 =
      .error (.error "value \"2147483648\" is out of range for type integer") ∧
    ¬ FailsCleanly ((listOverIntegers asciiDecoding visitor "conversation" forged).run conversing).1 := by
  have hdecode : decodeMessageCursor asciiDecoding "MjE0NzQ4MzY0OA" = some 2147483648 := by decide +kernel
  have hgiven : decodeGiven (decodeMessageCursor asciiDecoding) forged.cursor = .ok (some 2147483648) := by
    have hpresent : forged.cursor.bind present = some "MjE0NzQ4MzY0OA" := by decide
    simp only [decodeGiven, hpresent, hdecode]
  have hcrash := list_crashes conversing_own hgiven (by decide)
  have htext : toString (2147483648 : ℕ) = "2147483648" := by decide +kernel
  rw [htext] at hcrash
  refine ⟨conversing_own, hcrash, ?_⟩
  rw [hcrash]
  rintro (⟨_, h⟩ | h)
  · cases h
  · exact absurd (Except.error.inj h) (by simp [invalidCursor])

theorem real_cursor_clean :
    FailsCleanly ((listOverIntegers asciiDecoding visitor "conversation" ⟨some "MQ", 20⟩).run conversing).1 := by
  refine (list_clean_iff conversing_own).mpr fun cursor h => ?_
  rw [← Option.some.inj ((by decide : (some "MQ").bind present = some "MQ").symm.trans h)]
  decide +kernel

end Forged

end MessageService

end ChatCore.Services
