import Mathlib.Data.List.Infix
import Mathlib.Tactic.Lemma

/-! Text that arrives in pieces: UTF-8 decoded and split into lines as the pieces come. -/

namespace ChatCore.Streaming

section Utf8

def encode (text : List Char) : List UInt8 := text.flatMap String.utf8EncodeChar

def firstChar (bytes : List UInt8) : Option Char := bytes.toByteArray.utf8DecodeChar? 0

def decode (bytes : List UInt8) : List Char × List UInt8 := match bytes with
  | [] => ([], [])
  | b :: bs => match firstChar (b :: bs) with
    | none => ([], b :: bs)
    | some c => (c :: (decode ((b :: bs).drop c.utf8Size)).1, (decode ((b :: bs).drop c.utf8Size)).2)
termination_by bytes.length
decreasing_by
  all_goals
    have hpos := c.utf8Size_pos
    rw [List.length_drop, List.length_cons]
    omega

variable {bytes rest : List UInt8} {text : List Char} {c : Char}

@[simp] lemma encode_nil : encode [] = [] := rfl

lemma encode_cons : encode (c :: text) = String.utf8EncodeChar c ++ encode text := List.flatMap_cons ..

lemma encode_append (text text' : List Char) : encode (text ++ text') = encode text ++ encode text' :=
  List.flatMap_append ..

lemma firstChar_append (c : Char) (rest : List UInt8) : firstChar (String.utf8EncodeChar c ++ rest) = some c := by
  rw [firstChar, List.toByteArray_append, ByteArray.utf8DecodeChar?_utf8EncodeChar_append]

lemma firstChar_some (h : firstChar bytes = some c) : ∃ rest, bytes = String.utf8EncodeChar c ++ rest := by
  obtain ⟨l, hl⟩ := ByteArray.exists_of_utf8DecodeChar?_eq_some h
  refine ⟨l.data.toList, ?_⟩
  have hdata := congrArg (fun b => b.data.toList) hl
  simpa using hdata

lemma decode_of_none (h : firstChar bytes = none) : decode bytes = ([], bytes) := by
  cases bytes with
  | nil => rw [decode]
  | cons b bs =>
    rw [decode]
    simp only [h]

lemma decode_char (c : Char) (rest : List UInt8) : decode (String.utf8EncodeChar c ++ rest) =
    (c :: (decode rest).1, (decode rest).2) := by
  have hfirst := firstChar_append c rest
  have hdrop : (String.utf8EncodeChar c ++ rest).drop c.utf8Size = rest := by
    rw [← String.length_utf8EncodeChar, List.drop_left]
  cases hb : String.utf8EncodeChar c ++ rest with
  | nil => exact absurd (List.append_eq_nil_iff.mp hb).1 String.utf8EncodeChar_ne_nil
  | cons b bs =>
    rw [hb] at hfirst hdrop
    rw [decode]
    simp only [hfirst, hdrop]

lemma decode_encode_append (text : List Char) (rest : List UInt8) : decode (encode text ++ rest) =
    (text ++ (decode rest).1, (decode rest).2) := by
  induction text with
  | nil => rfl
  | cons c text ih => rw [encode_cons, List.append_assoc, decode_char, ih, List.cons_append]

lemma encode_decode (bytes : List UInt8) : bytes = encode (decode bytes).1 ++ (decode bytes).2 := by
  induction hn : bytes.length using Nat.strongRecOn generalizing bytes with
  | ind n ih =>
    cases hc : firstChar bytes with
    | none =>
      rw [decode_of_none hc]
      rfl
    | some c =>
      obtain ⟨rest, rfl⟩ := firstChar_some hc
      have hlt : rest.length < n := by
        have hpos := List.length_pos_of_ne_nil (String.utf8EncodeChar_ne_nil (c := c))
        rw [List.length_append] at hn
        omega
      rw [decode_char, encode_cons, List.append_assoc]
      exact congrArg _ (ih rest.length hlt rest rfl)

theorem decode_append (bytes more : List UInt8) : decode (bytes ++ more) =
    ((decode bytes).1 ++ (decode ((decode bytes).2 ++ more)).1, (decode ((decode bytes).2 ++ more)).2) := by
  conv_lhs => rw [encode_decode bytes, List.append_assoc]
  exact decode_encode_append _ _

lemma decode_encode (text : List Char) : decode (encode text) = (text, []) := by
  have h := decode_encode_append text []
  rw [List.append_nil] at h
  rw [h, decode_of_none rfl, List.append_nil]

lemma decode_front (h : bytes <+: encode text) : (decode bytes).1 <+: text := by
  obtain ⟨more, hmore⟩ := h
  have happend := decode_append bytes more
  rw [hmore, decode_encode] at happend
  exact ⟨_, (congrArg Prod.fst happend).symm⟩

lemma decode_waiting (bytes : List UInt8) : decode (decode bytes).2 = ([], (decode bytes).2) := by
  have h := decode_append bytes []
  rw [List.append_nil, List.append_nil] at h
  exact Prod.ext (List.self_eq_append_right.mp (congrArg Prod.fst h)) (congrArg Prod.snd h).symm

lemma waiting_nil (h : decode bytes = ([], bytes)) (hb : bytes = encode text) : text = [] := by
  rw [hb, decode_encode] at h
  exact congrArg Prod.fst h

end Utf8

section Lines

def lines : List Char → List (List Char) × List Char
  | [] => ([], [])
  | c :: cs =>
      if c = '\n' then ([] :: (lines cs).1, (lines cs).2)
      else match (lines cs).1 with
        | [] => ([], c :: (lines cs).2)
        | line :: more => ((c :: line) :: more, (lines cs).2)

variable {text line : List Char}

lemma lines_of_unbroken (h : '\n' ∉ text) : lines text = ([], text) := by
  induction text with
  | nil => rfl
  | cons c cs ih =>
    have hc : c ≠ '\n' := fun he => h (he ▸ List.mem_cons_self)
    rw [lines, if_neg hc, ih fun hm => h (List.mem_cons_of_mem _ hm)]

lemma lines_line (h : '\n' ∉ line) (text : List Char) : lines (line ++ '\n' :: text) =
    (line :: (lines text).1, (lines text).2) := by
  induction line with
  | nil => rw [List.nil_append, lines, if_pos rfl]
  | cons c cs ih =>
    have hc : c ≠ '\n' := fun he => h (he ▸ List.mem_cons_self)
    rw [List.cons_append, lines, if_neg hc, ih fun hm => h (List.mem_cons_of_mem _ hm)]

lemma rest_unbroken (text : List Char) : '\n' ∉ (lines text).2 := by
  induction text with
  | nil => simp [lines]
  | cons c cs ih =>
    rw [lines]
    split
    · exact ih
    · next hc =>
      split
      · simp only [List.mem_cons, not_or]
        exact ⟨Ne.symm hc, ih⟩
      · exact ih

theorem lines_append (text more : List Char) : lines (text ++ more) =
    ((lines text).1 ++ (lines ((lines text).2 ++ more)).1, (lines ((lines text).2 ++ more)).2) := by
  induction text with
  | nil => rfl
  | cons c cs ih =>
    rw [List.cons_append, lines, ih]
    by_cases hc : c = '\n'
    · rw [if_pos hc, lines, if_pos hc]
      rfl
    · rw [if_neg hc, lines, if_neg hc]
      cases hcs : (lines cs).1 with
      | nil =>
        simp only [List.nil_append, List.cons_append]
        rw [lines, if_neg hc]
      | cons line ls => rfl

lemma lines_none (h : (lines text).1 = []) : (lines text).2 = text := by
  induction text with
  | nil => rfl
  | cons c cs ih =>
    rw [lines] at h ⊢
    by_cases hc : c = '\n'
    · rw [if_pos hc] at h
      cases h
    · rw [if_neg hc] at h ⊢
      cases hcs : (lines cs).1 with
      | nil => exact congrArg (c :: ·) (ih hcs)
      | cons line more =>
        rw [hcs] at h
        cases h

lemma prefix_of_lines {more : List Char} {rest : List (List Char)} (h : '\n' ∉ text)
    (hl : (lines (text ++ more)).1 = line :: rest) : text <+: line := by
  induction text generalizing line rest with
  | nil => exact List.nil_prefix
  | cons c cs ih =>
    have hc : c ≠ '\n' := fun he => h (he ▸ List.mem_cons_self)
    rw [List.cons_append, lines, if_neg hc] at hl
    cases hcs : (lines (cs ++ more)).1 with
    | nil =>
      rw [hcs] at hl
      cases hl
    | cons first more' =>
      rw [hcs] at hl
      cases hl
      exact List.cons_prefix_cons.mpr ⟨rfl, ih (fun hm => h (List.mem_cons_of_mem _ hm)) hcs⟩

end Lines

end ChatCore.Streaming
