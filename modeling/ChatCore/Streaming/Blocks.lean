import ChatCore.Streaming.LineReader
import Mathlib.Algebra.GroupWithZero.Nat

namespace ChatCore.Streaming

def isBlank (line : List Char) : Bool := decide (dropReturn line = [])

def IsBlock (text : List Char) : Prop :=
  ∃ filled last, lines text = (filled ++ [last], []) ∧ ∀ line ∈ filled, isBlank line = false

def size (block : List Char) : ℕ := (encode block).length

def completed : List (List Char) → ℕ → List (List Char)
  | [], _ => []
  | block :: blocks, bytes => if size block ≤ bytes then block :: completed blocks (bytes - size block) else []

/-- A byte order mark at the beginning of a stream is in its first block. -/
def unmarked : List (List Char) → List (List Char)
  | [] => []
  | block :: blocks => dropMark block :: blocks

variable {block : List Char} {blocks : List (List Char)} {bytes : List UInt8}

lemma encode_flatten (blocks : List (List Char)) : encode blocks.flatten = (blocks.map encode).flatten := by
  induction blocks with
  | nil => rfl
  | cons block blocks ih => rw [List.flatten_cons, encode_append, ih, List.map_cons, List.flatten_cons]

lemma length_encode_flatten (blocks : List (List Char)) :
    (encode blocks.flatten).length = (blocks.map size).sum := by
  rw [encode_flatten, List.length_flatten, List.map_map]
  rfl

lemma completed_front (blocks : List (List Char)) (n : ℕ) : completed blocks n <+: blocks := by
  induction blocks generalizing n with
  | nil => exact List.nil_prefix
  | cons block blocks ih =>
    rw [completed]
    split
    · exact List.cons_prefix_cons.mpr ⟨rfl, ih _⟩
    · exact List.nil_prefix

lemma completed_mono (blocks : List (List Char)) {n m : ℕ} (h : n ≤ m) :
    completed blocks n <+: completed blocks m := by
  induction blocks generalizing n m with
  | nil => exact List.prefix_rfl
  | cons block blocks ih =>
    rw [completed, completed]
    split
    · rw [if_pos (by omega)]
      exact List.cons_prefix_cons.mpr ⟨rfl, ih (by omega)⟩
    · exact List.nil_prefix

lemma completed_all (blocks : List (List Char)) : completed blocks (encode blocks.flatten).length = blocks := by
  induction blocks with
  | nil => rfl
  | cons block blocks ih =>
    rw [completed, List.flatten_cons, encode_append, List.length_append, size, if_pos (Nat.le_add_right _ _),
      Nat.add_sub_cancel_left, ih]

lemma unmarked_front {blocks' : List (List Char)} (h : blocks <+: blocks') :
    unmarked blocks <+: unmarked blocks' := by
  obtain ⟨rest, rfl⟩ := h
  cases blocks with
  | nil => exact List.nil_prefix
  | cons block blocks => exact ⟨rest, rfl⟩

lemma length_unmarked (blocks : List (List Char)) : (unmarked blocks).length = blocks.length := by
  cases blocks <;> rfl

lemma IsBlock.ne_nil (h : IsBlock block) : block ≠ [] := by
  rintro rfl
  obtain ⟨filled, last, hlines, -⟩ := h
  simp [lines] at hlines

lemma ne_nil_of_dropMark (h : dropMark block ≠ []) : block ≠ [] := by
  rintro rfl
  exact h rfl

lemma dropMark_flatten (h : ∀ block ∈ unmarked blocks, IsBlock block) :
    dropMark blocks.flatten = (unmarked blocks).flatten := by
  cases blocks with
  | nil => rfl
  | cons block blocks =>
    rw [List.flatten_cons, dropMark_append (ne_nil_of_dropMark (h _ List.mem_cons_self).ne_nil)]
    rfl

lemma size_pos (h : block ≠ []) : 0 < size block := by
  refine List.length_pos_of_ne_nil fun hnil => ?_
  cases block with
  | nil => exact h rfl
  | cons c text =>
    rw [encode_cons, List.append_eq_nil_iff] at hnil
    exact String.utf8EncodeChar_ne_nil hnil.1

lemma lines_block (h : IsBlock block) (more : List Char) :
    lines (block ++ more) = ((lines block).1 ++ (lines more).1, (lines more).2) := by
  obtain ⟨filled, last, hlines, -⟩ := h
  rw [lines_append, hlines, List.nil_append]

lemma lines_blocks (h : ∀ block ∈ blocks, IsBlock block) (more : List Char) : lines (blocks.flatten ++ more) =
    (blocks.flatMap (fun block => (lines block).1) ++ (lines more).1, (lines more).2) := by
  induction blocks with
  | nil => rfl
  | cons block blocks ih =>
    obtain ⟨hblock, hblocks⟩ := List.forall_mem_cons.mp h
    rw [List.flatten_cons, List.append_assoc, lines_block hblock, ih hblocks, List.flatMap_cons, List.append_assoc]

lemma filled_of_cut (h : IsBlock block) {text : List Char} (hp : text <+: block) (hne : text ≠ block) :
    ∀ line ∈ (lines text).1, isBlank line = false := by
  obtain ⟨filled, last, hlines, hfilled⟩ := h
  obtain ⟨more, rfl⟩ := hp
  rw [lines_append] at hlines
  obtain ⟨hfront, hrest⟩ := Prod.mk.inj hlines
  intro line hline
  rcases List.eq_nil_or_concat (lines ((lines text).2 ++ more)).1 with hnil | ⟨ls, l, hlast⟩
  · have hwhole := lines_none hnil
    rw [hrest] at hwhole
    have hmore := (List.append_eq_nil_iff.mp hwhole.symm).2
    exact absurd (by rw [hmore, List.append_nil]) hne
  · rw [hlast, List.concat_eq_append, ← List.append_assoc] at hfront
    have hsame := List.append_inj_left' hfront rfl
    exact hfilled line (hsame ▸ List.mem_append_left _ hline)

lemma decode_completed (h : ∀ block ∈ blocks, IsBlock block) (hp : bytes <+: encode blocks.flatten) :
    ∃ tail, (decode bytes).1 = (completed blocks bytes.length).flatten ++ tail ∧
      ∀ line ∈ (lines tail).1, isBlank line = false := by
  induction blocks generalizing bytes with
  | nil =>
    refine ⟨[], ?_, fun line hline => absurd hline List.not_mem_nil⟩
    rw [List.prefix_nil.mp hp, decode_of_none rfl]
    rfl
  | cons block blocks ih =>
    obtain ⟨hblock, hblocks⟩ := List.forall_mem_cons.mp h
    rw [List.flatten_cons, encode_append] at hp
    rw [completed]
    by_cases hsize : size block ≤ bytes.length
    · rw [if_pos hsize]
      obtain ⟨rest, rfl⟩ := List.prefix_of_prefix_length_le (List.prefix_append _ _) hp hsize
      obtain ⟨tail, hdecode, htail⟩ := ih hblocks ((List.prefix_append_right_inj _).mp hp)
      refine ⟨tail, ?_, htail⟩
      rw [decode_encode_append, hdecode, List.length_append, size, Nat.add_sub_cancel_left, List.flatten_cons,
        List.append_assoc]
    · rw [if_neg hsize]
      have hcut : bytes <+: encode block := List.prefix_of_prefix_length_le hp (List.prefix_append _ _) (by
        rw [size] at hsize
        omega)
      refine ⟨(decode bytes).1, rfl, filled_of_cut hblock (decode_front hcut) fun he => hsize ?_⟩
      rw [size, ← he]
      conv_rhs => rw [encode_decode bytes]
      rw [List.length_append]
      exact Nat.le_add_right _ _

lemma textOf_completed (h : ∀ block ∈ unmarked blocks, IsBlock block) (hp : bytes <+: encode blocks.flatten) :
    ∃ tail, textOf bytes = (unmarked (completed blocks bytes.length)).flatten ++ tail ∧
      ∀ line ∈ (lines tail).1, isBlank line = false := by
  cases blocks with
  | nil =>
    refine ⟨[], ?_, fun line hline => absurd hline List.not_mem_nil⟩
    rw [List.prefix_nil.mp hp, textOf_nil]
    rfl
  | cons block blocks =>
    obtain ⟨hblock, hblocks⟩ := List.forall_mem_cons.mp h
    rw [List.flatten_cons, encode_append] at hp
    rw [completed]
    by_cases hsize : size block ≤ bytes.length
    · rw [if_pos hsize]
      obtain ⟨rest, rfl⟩ := List.prefix_of_prefix_length_le (List.prefix_append _ _) hp hsize
      obtain ⟨tail, hdecode, htail⟩ := decode_completed hblocks ((List.prefix_append_right_inj _).mp hp)
      refine ⟨tail, ?_, htail⟩
      rw [textOf, decode_encode_append, hdecode, List.length_append, size, Nat.add_sub_cancel_left,
        dropMark_append (ne_nil_of_dropMark hblock.ne_nil), unmarked, List.flatten_cons, List.append_assoc]
    · rw [if_neg hsize]
      have hcut : bytes <+: encode block := List.prefix_of_prefix_length_le hp (List.prefix_append _ _) (by
        rw [size] at hsize
        omega)
      refine ⟨textOf bytes, rfl, filled_of_cut hblock (dropMark_front (decode_front hcut)) fun he => hsize ?_⟩
      obtain ⟨more, hmore⟩ := decode_front hcut
      have hsome : (decode bytes).1 ≠ [] := by
        refine ne_nil_of_dropMark fun hnil => hblock.ne_nil ?_
        rw [← he, textOf, hnil]
      rw [← hmore, dropMark_append hsome, textOf, List.self_eq_append_right] at he
      rw [he, List.append_nil] at hmore
      rw [size, ← hmore]
      conv_rhs => rw [encode_decode bytes]
      rw [List.length_append]
      exact Nat.le_add_right _ _

lemma linesOf_completed (h : ∀ block ∈ unmarked blocks, IsBlock block) (hp : bytes <+: encode blocks.flatten) :
    ∃ tail, LineReader.linesOf bytes =
      (unmarked (completed blocks bytes.length)).flatMap (fun block => (lines block).1) ++ tail ∧
        ∀ line ∈ tail, isBlank line = false := by
  obtain ⟨tail, htext, htail⟩ := textOf_completed h hp
  have hsub := (unmarked_front (completed_front blocks bytes.length)).subset
  refine ⟨(lines tail).1, ?_, htail⟩
  rw [LineReader.linesOf, htext]
  exact congrArg Prod.fst (lines_blocks (fun block hblock => h block (hsub hblock)) tail)

lemma lines_whole (h : ∀ block ∈ unmarked blocks, IsBlock block) : lines (textOf (encode blocks.flatten)) =
    ((unmarked blocks).flatMap (fun block => (lines block).1), []) := by
  have hlines := lines_blocks h []
  rw [List.append_nil] at hlines
  rw [textOf_encode, dropMark_flatten h, hlines]
  exact congrArg (·, []) (List.append_nil _)

end ChatCore.Streaming
