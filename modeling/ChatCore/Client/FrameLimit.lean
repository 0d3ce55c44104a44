import ChatCore.Client.EventStream

namespace ChatCore.Client.FrameLimit

open Protocol Services Streaming EventStore EventStream

/-- Lines of which the last is blank, and no other. -/
def IsFrame (frame : List Char) : Prop :=
  ∃ filled blank, lines frame = (filled ++ [blank], []) ∧ isBlank blank = true ∧ ∀ line ∈ filled,
    isBlank line = false

def isData (line : List Char) : Bool := decide ((dropReturn line).takeWhile (· ≠ ':') = "data".toList)

def isQuiet (frame : List Char) : Bool := (lines frame).1.all fun line => !isData line

lemma IsFrame.isBlock {frame : List Char} (h : IsFrame frame) : IsBlock frame := by
  obtain ⟨filled, blank, hlines, -, hfilled⟩ := h
  exact ⟨filled, blank, hlines, hfilled⟩

section Consuming

variable (platform : Platform) (json : EventJson) (maxFrameBytes : ℕ) {f g : Frame} {line frame : List Char}
  {ls : List (List Char)} {frames : List (List Char)} {out : List PublicConversationEvent}

variable {platform json} in
lemma dispatch_reset (h : dispatch platform json f = (out, .ok g)) : g = .reset ∧
    (f.dataLines ≠ [] → out ≠ []) := by
  unfold dispatch at h
  split at h
  · next hnone =>
    cases h
    exact ⟨rfl, absurd hnone⟩
  · split at h
    · cases h
    · cases h
    · split at h
      · cases h
      · split at h
        · cases h
        · cases h
          exact ⟨rfl, fun _ => List.cons_ne_nil _ _⟩

lemma consumeLine_filled (f : Frame) (h : isBlank line = false) :
    ∃ g, consumeLine platform json f (dropReturn line) = ([], .ok g) ∧
      (g.dataLines = [] ↔ f.dataLines = [] ∧ isData line = false) := by
  have hne : dropReturn line ≠ [] := of_decide_eq_false h
  cases hdata : isData line with
  | true =>
    have hd : (dropReturn line).takeWhile (· ≠ ':') = "data".toList := of_decide_eq_true hdata
    have hcolon : (dropReturn line).head? ≠ some ':' := by
      intro hhead
      cases hl : dropReturn line with
      | nil => exact hne hl
      | cons c rest =>
        rw [hl] at hhead hd
        obtain rfl := Option.some.inj hhead
        cases hd
    have hline : consumeLine platform json f (dropReturn line) =
        ([], .ok { f with dataLines := f.dataLines ++ [fieldValue (dropReturn line)] }) := by
      rw [consumeLine, if_neg hne, if_neg hcolon]
      simp only [hd]
      rfl
    exact ⟨_, hline, by simp⟩
  | false =>
    obtain ⟨g, hg, hsame⟩ := consumeLine_quiet platform json f hne (of_decide_eq_false hdata)
    exact ⟨g, hg, by simp [hsame]⟩

lemma consume_filled (f : Frame) (h : ∀ line ∈ ls, isBlank line = false) :
    ∃ g, (parser platform json maxFrameBytes).consumeLines f ls = ([], .ok g) ∧
      (parser platform json maxFrameBytes).resetCount f ls = 0 ∧
      (g.dataLines = [] ↔ f.dataLines = [] ∧ ∀ line ∈ ls, isData line = false) := by
  induction ls generalizing f with
  | nil => exact ⟨f, rfl, rfl, by simp⟩
  | cons line ls ih =>
    obtain ⟨hline, hrest⟩ := List.forall_mem_cons.mp h
    obtain ⟨g, hg, hdata⟩ := consumeLine_filled platform json f hline
    obtain ⟨g', hg', hcount, hdata'⟩ := ih g hrest
    have hconsume : (parser platform json maxFrameBytes).consumeLine f (dropReturn line) = ([], .ok g) := hg
    have hkept : (parser platform json maxFrameBytes).resets f (dropReturn line) = false := hline
    refine ⟨g', ?_, ?_, ?_⟩
    · rw [LineReader.consumeLines, andThen_ok hconsume, hg']
      rfl
    · rw [LineReader.resetCount, hconsume, hkept]
      exact (Nat.zero_add _).trans hcount
    · rw [hdata', hdata, List.forall_mem_cons, and_assoc]

lemma consume_blank (h : isBlank line = true) :
    (parser platform json maxFrameBytes).consumeLines f [line] = dispatch platform json f ∧
      (parser platform json maxFrameBytes).resetCount f [line] = 1 := by
  have hblank : dropReturn line = [] := of_decide_eq_true h
  rw [LineReader.consumeLines, LineReader.resetCount, hblank]
  constructor
  · exact andThen_pure (dispatch platform json f)
  · change 1 + _ = 1
    cases ((parser platform json maxFrameBytes).consumeLine f []).2 <;> rfl

lemma consume_frame (h : IsFrame frame) :
    (isQuiet frame = true → (parser platform json maxFrameBytes).consumeLines .reset (lines frame).1 =
      ([], .ok .reset) ∧
      (parser platform json maxFrameBytes).resetCount .reset (lines frame).1 = 1) ∧
    ∀ out g, (parser platform json maxFrameBytes).consumeLines .reset (lines frame).1 = (out, .ok g) →
      g = .reset ∧ (isQuiet frame = false → out ≠ []) := by
  obtain ⟨filled, blank, hlines, hblank, hfilled⟩ := h
  obtain ⟨f, hf, hnone, hdata⟩ := consume_filled platform json maxFrameBytes .reset hfilled
  obtain ⟨hdispatch, hone⟩ := @consume_blank platform json maxFrameBytes f blank hblank
  have hconsume : (parser platform json maxFrameBytes).consumeLines .reset (lines frame).1 =
    dispatch platform json f := by
    rw [hlines, LineReader.consumeLines_append, andThen_ok hf, hdispatch, List.nil_append]
  have hcount : (parser platform json maxFrameBytes).resetCount .reset (lines frame).1 = 1 := by
    rw [hlines, LineReader.resetCount_append hf, hnone, hone]
  have hquiet : isQuiet frame = true ↔ f.dataLines = [] := by
    have hlast : isData blank = false := by
      rw [isData, of_decide_eq_true hblank]
      rfl
    rw [hdata, isQuiet, hlines]
    simp [hlast, Frame.reset]
  refine ⟨fun hq => ⟨hconsume.trans (if_pos (hquiet.mp hq)), hcount⟩, fun out g hg => ?_⟩
  obtain ⟨hreset, hsome⟩ := dispatch_reset (hconsume.symm.trans hg)
  exact ⟨hreset, fun hq => hsome fun he => by rw [hquiet.mpr he] at hq; cases hq⟩

variable (hf : ∀ frame ∈ frames, IsFrame frame)

include hf

lemma consume_quiet (hq : ∀ frame ∈ frames, isQuiet frame = true) :
    (parser platform json maxFrameBytes).consumeLines .reset (frames.flatMap fun frame => (lines frame).1) =
      ([], .ok .reset) ∧
    (parser platform json maxFrameBytes).resetCount .reset (frames.flatMap fun frame => (lines frame).1) =
      frames.length := by
  induction frames with
  | nil => exact ⟨rfl, rfl⟩
  | cons frame frames ih =>
    obtain ⟨hframe, hframes⟩ := List.forall_mem_cons.mp hf
    obtain ⟨hfirst, hrest⟩ := List.forall_mem_cons.mp hq
    obtain ⟨hconsume, hone⟩ := (consume_frame platform json maxFrameBytes hframe).1 hfirst
    obtain ⟨hmore, hcount⟩ := ih hframes hrest
    rw [List.flatMap_cons, LineReader.consumeLines_append, LineReader.resetCount_append hconsume,
      andThen_ok hconsume,
      hmore, hcount, hone, List.length_cons, Nat.add_comm]
    exact ⟨rfl, rfl⟩

lemma quiet_of_consume (h : (parser platform json maxFrameBytes).consumeLines .reset
    (frames.flatMap (fun frame => (lines frame).1) ++ ls) = ([], .ok g)) : ∀ frame ∈ frames,
      isQuiet frame = true := by
  induction frames with
  | nil => exact fun frame hframe => absurd hframe List.not_mem_nil
  | cons frame frames ih =>
    obtain ⟨hframe, hframes⟩ := List.forall_mem_cons.mp hf
    rw [List.flatMap_cons, List.append_assoc, LineReader.consumeLines_append] at h
    rcases hfirst : (parser platform json maxFrameBytes).consumeLines .reset (lines frame).1 with ⟨out, e | g'⟩
    · rw [andThen_error hfirst] at h
      cases h
    · rw [andThen_ok hfirst] at h
      obtain ⟨hout, hrest⟩ := Prod.mk.inj h
      obtain ⟨rfl, hnone⟩ := List.append_eq_nil_iff.mp hout
      obtain ⟨rfl, hsome⟩ := (consume_frame platform json maxFrameBytes hframe).2 _ _ hfirst
      refine List.forall_mem_cons.mpr ⟨?_, ih hframes (Prod.ext hnone hrest)⟩
      by_contra hq
      exact hsome (Bool.eq_false_iff.mpr hq) rfl

lemma consume_end (h : (parser platform json maxFrameBytes).consumeLines .reset
    (frames.flatMap fun frame => (lines frame).1) = (out, .ok g)) : g = .reset := by
  induction frames generalizing out with
  | nil =>
    cases h
    rfl
  | cons frame frames ih =>
    obtain ⟨hframe, hframes⟩ := List.forall_mem_cons.mp hf
    rw [List.flatMap_cons, LineReader.consumeLines_append] at h
    rcases hfirst : (parser platform json maxFrameBytes).consumeLines .reset (lines frame).1 with ⟨out', e | g'⟩
    · rw [andThen_error hfirst] at h
      cases h
    · rw [andThen_ok hfirst] at h
      obtain ⟨rfl, -⟩ := (consume_frame platform json maxFrameBytes hframe).2 _ _ hfirst
      exact ih hframes (Prod.ext rfl (Prod.mk.inj h).2)

end Consuming

section Positions

variable (maxFrameBytes : ℕ) (frames : List (List Char))

def ending (k : ℕ) : ℕ := ((frames.take k).map size).sum

def reached (n : ℕ) : ℕ := (completed frames n).length

def farthest : ℕ → ℕ
  | 0 => 0
  | k + 1 => min (farthest k + maxFrameBytes) (ending frames (k + 2) - 1)

/-- Some frame is too large wherever the chunks end, and the frames in front of it have no data. -/
def Unavoidable : Prop := ∃ k < frames.length, farthest maxFrameBytes frames k + maxFrameBytes <
  ending frames (k + 1) ∧
  ∀ frame ∈ (unmarked frames).take k, isQuiet frame = true

def Oversized : Prop := ∃ frame ∈ frames, maxFrameBytes < size frame

variable {maxFrameBytes frames} {k n : ℕ}

lemma ending_succ (hk : k < frames.length) : ending frames (k + 1) = ending frames k + size frames[k] := by
  rw [ending, ending, List.take_succ_eq_append_getElem hk, List.map_append, List.sum_append]
  rfl

lemma ending_mono {k' : ℕ} (h : k ≤ k') : ending frames k ≤ ending frames k' := by
  obtain ⟨more, hmore⟩ := List.take_prefix_take_left (l := frames) h
  rw [ending, ending, ← hmore, List.map_append, List.sum_append]
  exact Nat.le_add_right _ _

lemma ending_length : ending frames frames.length = (encode frames.flatten).length := by
  rw [ending, List.take_length, length_encode_flatten]

lemma completed_eq_take (n : ℕ) : completed frames n = frames.take (reached frames n) :=
  List.prefix_iff_eq_take.mp (completed_front frames n)

lemma reached_le (n : ℕ) : reached frames n ≤ frames.length := (completed_front frames n).length_le

lemma reached_mono {n' : ℕ} (h : n ≤ n') : reached frames n ≤ reached frames n' :=
  (completed_mono frames h).length_le

lemma ending_reached (n : ℕ) : ending frames (reached frames n) ≤ n := by
  induction frames generalizing n with
  | nil => exact Nat.zero_le _
  | cons frame frames ih =>
    rw [reached, completed]
    split
    · next hle =>
      have hrest := ih (n - size frame)
      rw [ending, List.length_cons, List.take_succ_cons, List.map_cons, List.sum_cons]
      rw [ending, reached] at hrest
      omega
    · exact Nat.zero_le _

lemma lt_ending_reached (h : reached frames n < frames.length) : n < ending frames (reached frames n + 1) := by
  induction frames generalizing n with
  | nil => exact absurd h (Nat.not_lt_zero _)
  | cons frame frames ih =>
    rw [reached, completed] at h ⊢
    split at h
    · next hle =>
      have hrest := ih (n := n - size frame) (Nat.lt_of_succ_lt_succ h)
      rw [if_pos hle, ending, List.length_cons, List.take_succ_cons, List.map_cons, List.sum_cons]
      rw [ending, reached] at hrest
      omega
    · next hlt =>
      rw [if_neg hlt]
      simp only [ending, List.length_nil, Nat.zero_add, List.take_succ_cons, List.take_zero,
        List.map_cons, List.map_nil,
        List.sum_cons, List.sum_nil]
      omega

lemma reached_eq (h : ending frames k ≤ n) (h' : n < ending frames (k + 1)) : reached frames n = k := by
  have hk : k < frames.length := by
    by_contra hk
    have hsame : ending frames (k + 1) = ending frames k := by
      rw [ending, ending, List.take_of_length_le (by omega), List.take_of_length_le (by omega)]
    omega
  have hbelow := @ending_reached frames n
  rcases Nat.lt_trichotomy (reached frames n) k with hlt | heq | hlt
  · have habove := @lt_ending_reached frames n (by omega)
    have hmono := @ending_mono frames (reached frames n + 1) k (by omega)
    omega
  · exact heq
  · have hmono := @ending_mono frames (k + 1) (reached frames n) (by omega)
    omega

lemma reached_ending (hpos : ∀ frame ∈ frames, 0 < size frame) (hk : k ≤ frames.length) :
    reached frames (ending frames k) = k := by
  rcases Nat.lt_or_eq_of_le hk with hlt | rfl
  · refine reached_eq (Nat.le_refl _) ?_
    have hsize := hpos _ (List.getElem_mem hlt)
    rw [ending_succ hlt]
    omega
  · rw [ending_length, reached, completed_all]

variable (hpos : ∀ frame ∈ frames, 0 < size frame)

include hpos

lemma ending_lt (hk : k < frames.length) : ending frames k < ending frames (k + 1) := by
  have hsize := hpos _ (List.getElem_mem hk)
  rw [ending_succ hk]
  omega

lemma farthest_lt (hk : k < frames.length) : farthest maxFrameBytes frames k < ending frames (k + 1) := by
  cases k with
  | zero => exact Nat.lt_of_le_of_lt (Nat.zero_le _) (ending_lt hpos hk)
  | succ k =>
    have hlt : ending frames (k + 1) < ending frames (k + 2) := ending_lt hpos hk
    change farthest maxFrameBytes frames (k + 1) < ending frames (k + 2)
    rw [farthest]
    omega

lemma farthest_le_succ (hk : k + 1 < frames.length) :
    farthest maxFrameBytes frames k ≤ farthest maxFrameBytes frames (k + 1) := by
  have hbefore := @farthest_lt maxFrameBytes frames k hpos (by omega)
  have hlt : ending frames (k + 1) < ending frames (k + 2) := ending_lt hpos hk
  rw [farthest]
  omega

variable (maxFrameBytes) in
lemma farthest_mono {k' : ℕ} (h : k ≤ k') (hk : k' < frames.length) :
    farthest maxFrameBytes frames k ≤ farthest maxFrameBytes frames k' := by
  induction k' with
  | zero => rw [Nat.le_zero.mp h]
  | succ k' ih =>
    rcases Nat.lt_or_eq_of_le h with hlt | rfl
    · exact (ih (Nat.le_of_lt_succ hlt) (by omega)).trans (farthest_le_succ hpos hk)
    · exact Nat.le_refl _

lemma ending_le_farthest (hk : k < frames.length)
    (hpass : ∀ k' < k, ending frames (k' + 1) ≤ farthest maxFrameBytes frames k' + maxFrameBytes) :
    ending frames k ≤ farthest maxFrameBytes frames k := by
  cases k with
  | zero => exact Nat.zero_le _
  | succ k =>
    have hbefore := hpass k (Nat.lt_succ_self k)
    have hlt : ending frames (k + 1) < ending frames (k + 2) := ending_lt hpos hk
    rw [farthest]
    omega

lemma Unavoidable.oversized (h : Unavoidable maxFrameBytes frames) : Oversized maxFrameBytes frames := by
  obtain ⟨k, hk, hlarge, -⟩ := h
  induction k using Nat.strong_induction_on with
  | _ k ih =>
    by_cases hpass : ∀ k' < k, ending frames (k' + 1) ≤ farthest maxFrameBytes frames k' + maxFrameBytes
    · have hbegin := ending_le_farthest hpos hk hpass
      rw [ending_succ hk] at hlarge
      exact ⟨_, List.getElem_mem hk, by omega⟩
    · simp only [not_forall, Nat.not_le] at hpass
      obtain ⟨k', hlt, hlarge'⟩ := hpass
      exact ih k' hlt (by omega) hlarge'

end Positions

section Streams

variable {platform : Platform} {json : EventJson} {maxFrameBytes : ℕ} {frames : List (List Char)}
  {bytes : List UInt8}
  {chunks : List (List UInt8)} {i j k : ℕ} (hf : ∀ frame ∈ unmarked frames, IsFrame frame)

lemma unmarked_take (frames : List (List Char)) (k : ℕ) : unmarked (frames.take k) = (unmarked frames).take k := by
  cases frames with
  | nil => rw [List.take_nil, unmarked, List.take_nil]
  | cons frame frames =>
    cases k with
    | zero => rfl
    | succ k => rfl

include hf

lemma frame_blocks : ∀ frame ∈ unmarked frames, IsBlock frame := fun frame hframe => (hf frame hframe).isBlock

lemma sizes_pos : ∀ frame ∈ frames, 0 < size frame := by
  cases frames with
  | nil => exact fun frame hframe => absurd hframe List.not_mem_nil
  | cons frame frames =>
    obtain ⟨hfirst, hrest⟩ := List.forall_mem_cons.mp hf
    exact List.forall_mem_cons.mpr ⟨size_pos (ne_nil_of_dropMark hfirst.isBlock.ne_nil),
      fun frame hframe => size_pos (hrest frame hframe).isBlock.ne_nil⟩

variable (platform json maxFrameBytes) in
lemma consume_cut (hcut : bytes <+: encode frames.flatten)
    (hq : ∀ frame ∈ (unmarked frames).take (reached frames bytes.length), isQuiet frame = true) :
    (∃ g, (parser platform json maxFrameBytes).consumeLines .reset (LineReader.linesOf bytes) = ([], .ok g)) ∧
      (parser platform json maxFrameBytes).resetCount .reset (LineReader.linesOf bytes) =
      reached frames bytes.length := by
  obtain ⟨tail, hlines, htail⟩ := linesOf_completed (frame_blocks hf) hcut
  rw [completed_eq_take, unmarked_take] at hlines
  have htake : ∀ frame ∈ (unmarked frames).take (reached frames bytes.length), IsFrame frame := fun frame hframe =>
    hf frame (List.mem_of_mem_take hframe)
  obtain ⟨hconsume, hcount⟩ := consume_quiet platform json maxFrameBytes htake hq
  obtain ⟨g, hg, hnone, -⟩ := consume_filled platform json maxFrameBytes .reset htail
  rw [hlines, LineReader.consumeLines_append, LineReader.resetCount_append hconsume, andThen_ok hconsume, hg,
    hnone, hcount,
    List.length_take, length_unmarked, Nat.min_eq_left (reached_le _)]
  exact ⟨⟨g, rfl⟩, rfl⟩

variable (platform json maxFrameBytes) in
lemma quiet_cut {g : Frame} (hcut : bytes <+: encode frames.flatten)
    (h : (parser platform json maxFrameBytes).consumeLines .reset (LineReader.linesOf bytes) = ([], .ok g)) :
    ∀ frame ∈ (unmarked frames).take (reached frames bytes.length), isQuiet frame = true := by
  obtain ⟨tail, hlines, -⟩ := linesOf_completed (frame_blocks hf) hcut
  rw [completed_eq_take, unmarked_take] at hlines
  rw [hlines] at h
  exact quiet_of_consume platform json maxFrameBytes (fun frame hframe => hf frame (List.mem_of_mem_take hframe)) h

variable (hchunks : chunks.flatten = encode frames.flatten)

include hchunks

omit hf in
lemma chunks_front (i : ℕ) : (chunks.take i).flatten <+: encode frames.flatten := by
  rw [← hchunks]
  exact ⟨(chunks.drop i).flatten, by rw [← List.flatten_append, List.take_append_drop]⟩

lemma parse_spec :
    (∃ stop < chunks.length, (parser platform json maxFrameBytes).Exceeds chunks stop ∧
      (∀ j < stop, ¬ (parser platform json maxFrameBytes).Exceeds chunks j) ∧
      parseEventStream platform json maxFrameBytes chunks =
        (((parser platform json maxFrameBytes).consumed chunks stop).1, .error .tooLarge)) ∨
    ((∀ j < chunks.length, ¬ (parser platform json maxFrameBytes).Exceeds chunks j) ∧
      parseEventStream platform json maxFrameBytes chunks =
        andThen ((parser platform json maxFrameBytes).consumeLines .reset
          (LineReader.linesOf (encode frames.flatten))) fun _ => ([], .ok ())) := by
  have hend : (parser platform json maxFrameBytes).consumed chunks chunks.length =
      (parser platform json maxFrameBytes).consumeLines .reset (LineReader.linesOf (encode frames.flatten)) := by
    rw [LineReader.consumed, List.take_length, hchunks]
    rfl
  have hwhole := lines_whole (frame_blocks hf)
  rcases (@parser_lawful platform json maxFrameBytes).readChunks chunks with
    ⟨stop, hstop, hexceeds, hfirst, hread⟩ | ⟨hfits, ⟨r, hread, hat⟩ | ⟨e, hread, herror⟩⟩
  · exact Or.inl ⟨stop, hstop, hexceeds, hfirst, by rw [parseEventStream, hread]; rfl⟩
  · refine Or.inr ⟨hfits, ?_⟩
    obtain ⟨g, hg, hcurrent⟩ := hat.current
    have hbuffer := hat.buffer
    have hpending := congrArg Decoder.pending hat.decoder
    rw [List.take_length, hchunks, hwhole] at hbuffer
    rw [List.take_length, hchunks, after_encode] at hpending
    have hall : (parser platform json maxFrameBytes).consumed chunks chunks.length =
        (((parser platform json maxFrameBytes).consumed chunks chunks.length).1, .ok g) := Prod.ext rfl hg
    have hlast := hall
    rw [hend, LineReader.linesOf, hwhole] at hlast
    obtain rfl := consume_end platform json maxFrameBytes hf hlast
    have hrest : r.buffer ++ flush r.decoder = [] := by rw [hbuffer, flush, if_pos hpending, List.append_nil]
    have hnone : r.current.dataLines = [] := by
      rw [hcurrent]
      rfl
    have hfinish : finish platform json r = ([], .ok ()) := by
      rw [finish, if_pos hrest, andThen_ok rfl, if_pos hnone]
      rfl
    rw [parseEventStream, andThen_ok hread, hfinish, ← hend, andThen_ok hall]
  · refine Or.inr ⟨hfits, ?_⟩
    have hall : (parser platform json maxFrameBytes).consumed chunks chunks.length =
        (((parser platform json maxFrameBytes).consumed chunks chunks.length).1, .error e) := Prod.ext rfl herror
    rw [parseEventStream, andThen_error hread, ← hend, andThen_error hall]

lemma kept_back (hk : k < frames.length)
    (hlarge : farthest maxFrameBytes frames k + maxFrameBytes < ending frames (k + 1))
    (hq : ∀ frame ∈ (unmarked frames).take k, isQuiet frame = true) (hi : i ≤ chunks.length)
    (hfits : ∀ j < i, ¬ (parser platform json maxFrameBytes).Exceeds chunks j) :
    reached frames (LineReader.offset chunks i) ≤ k ∧ ∃ j ≤ i,
      reached frames (LineReader.offset chunks j) = reached frames (LineReader.offset chunks i) ∧
        LineReader.offset chunks j ≤ farthest maxFrameBytes frames
        (reached frames (LineReader.offset chunks i)) := by
  have hpos := sizes_pos hf
  induction i with
  | zero =>
    have hnone : reached frames (LineReader.offset chunks 0) = 0 :=
      reached_eq (Nat.le_refl 0) (ending_lt hpos (Nat.zero_lt_of_lt hk))
    exact ⟨by omega, 0, Nat.le_refl _, rfl, Nat.zero_le _⟩
  | succ i ih =>
    obtain ⟨hle, j, hj, hsame, hfar⟩ := ih (Nat.le_of_succ_le hi) fun j hj => hfits j (Nat.lt_succ_of_lt hj)
    have hquiet : ∀ n, reached frames n ≤ k → ∀ frame ∈ (unmarked frames).take (reached frames n),
      isQuiet frame = true :=
      fun n hn frame hframe => hq frame ((List.take_prefix_take_left hn).subset hframe)
    obtain ⟨⟨g, hg⟩, hcount⟩ := consume_cut platform json maxFrameBytes hf
      (chunks_front hchunks i) (hquiet _ hle)
    obtain ⟨-, hcount'⟩ := consume_cut platform json maxFrameBytes hf
      (chunks_front hchunks j) (hquiet _ (hsame ▸ hle))
    have hsize : LineReader.offset chunks (i + 1) ≤ LineReader.offset chunks j + maxFrameBytes := by
      by_contra hsize
      exact hfits i (Nat.lt_succ_self i) ⟨⟨g, congrArg Prod.snd hg⟩, j, hj,
        hcount'.trans (hsame.trans hcount.symm), Nat.not_le.mp hsize⟩
    have hfar' := farthest_mono maxFrameBytes hpos hle hk
    have hle' : reached frames (LineReader.offset chunks (i + 1)) ≤ k := by
      by_contra hlt
      have hend := @ending_mono frames (k + 1) (reached frames (LineReader.offset chunks (i + 1))) (by omega)
      have hbelow := @ending_reached frames (LineReader.offset chunks (i + 1))
      omega
    have hmono := @reached_mono frames _ _ (@LineReader.offset_mono chunks _ _ (Nat.le_add_right i 1))
    refine ⟨hle', ?_⟩
    rcases Nat.lt_or_eq_of_le hmono with hlt | heq
    · refine ⟨i + 1, Nat.le_refl _, rfl, ?_⟩
      obtain ⟨m, hm⟩ : ∃ m, reached frames (LineReader.offset chunks (i + 1)) = m + 1 :=
        Nat.exists_eq_succ_of_ne_zero (Nat.ne_of_gt (Nat.zero_lt_of_lt hlt))
      have hbefore := @farthest_mono maxFrameBytes frames (reached frames (LineReader.offset chunks i))
        hpos m (by omega)
        (by omega)
      have habove : LineReader.offset chunks (i + 1) < ending frames (m + 2) := by
        have hlt := @lt_ending_reached frames (LineReader.offset chunks (i + 1)) (by omega)
        rw [hm] at hlt
        exact hlt
      rw [hm, farthest]
      omega
    · rw [← heq]
      exact ⟨j, Nat.le_succ_of_le hj, hsame, hfar⟩

lemma Unavoidable.stops (h : Unavoidable maxFrameBytes frames) :
    parseEventStream platform json maxFrameBytes chunks = ([], .error .tooLarge) := by
  obtain ⟨k, hk, hlarge, hq⟩ := h
  rcases @parse_spec platform json maxFrameBytes _ _ hf hchunks with
    ⟨stop, hstop, -, hfirst, hparse⟩ | ⟨hfits, -⟩
  · obtain ⟨hle, -⟩ := kept_back hf hchunks hk hlarge hq (Nat.le_of_lt hstop) hfirst
    obtain ⟨⟨g, hg⟩, -⟩ := consume_cut platform json maxFrameBytes hf
      (chunks_front hchunks stop) fun frame hframe => hq frame ((List.take_prefix_take_left hle).subset hframe)
    rw [hparse]
    exact congrArg (·, _) (congrArg Prod.fst hg)
  · obtain ⟨hle, -⟩ := kept_back hf hchunks hk hlarge hq (Nat.le_refl _) hfits
    rw [LineReader.offset, List.take_length, hchunks, reached, completed_all] at hle
    omega

omit hchunks

variable (platform json) in
lemma escape (hsize : maxFrameBytes < (encode frames.flatten).length) (h : ¬ Unavoidable maxFrameBytes frames) :
    ∃ chunks : List (List UInt8), chunks.flatten = encode frames.flatten ∧
      parseEventStream platform json maxFrameBytes chunks ≠ ([], .error .tooLarge) := by
  have hpos := sizes_pos hf
  have hsome : 0 < frames.length := by
    refine List.length_pos_of_ne_nil ?_
    rintro rfl
    exact absurd hsize (Nat.not_lt_zero _)
  -- the first frame with data, or the last frame
  obtain ⟨m, hm, hq, hlast⟩ : ∃ m < frames.length, (∀ frame ∈ (unmarked frames).take m, isQuiet frame = true) ∧
      ((∀ frame ∈ (unmarked frames).take (m + 1), isQuiet frame = true) → m + 1 = frames.length) := by
    by_cases hall : ∀ k < frames.length, ∀ frame ∈ (unmarked frames).take (k + 1), isQuiet frame = true
    · refine ⟨frames.length - 1, by omega, fun frame hframe => ?_, fun _ => by omega⟩
      exact hall _ (by omega) frame ((List.take_prefix_take_left (Nat.le_add_right _ 1)).subset hframe)
    · have hfirst : ∃ k, k < frames.length ∧ ¬ ∀ frame ∈ (unmarked frames).take (k + 1), isQuiet frame = true := by
        simpa only [not_forall, exists_prop] using hall
      classical
      obtain ⟨hm, hdata⟩ := Nat.find_spec hfirst
      refine ⟨Nat.find hfirst, hm, fun frame hframe => ?_, fun hquiet => absurd hquiet hdata⟩
      cases hk : Nat.find hfirst with
      | zero =>
        rw [hk] at hframe
        exact absurd hframe List.not_mem_nil
      | succ k =>
        rw [hk] at hframe hm
        have hmin := Nat.find_min hfirst (m := k) (by omega)
        exact not_not.mp (fun hne => hmin ⟨by omega, fun hquiet => hne (hquiet frame hframe)⟩)
  have hpass : ∀ k ≤ m, ending frames (k + 1) ≤ farthest maxFrameBytes frames k + maxFrameBytes := by
    intro k hk
    by_contra hlarge
    exact h ⟨k, by omega, Nat.not_le.mp hlarge,
      fun frame hframe => hq frame ((List.take_prefix_take_left hk).subset hframe)⟩
  -- the chunks end as far as they can, up to the end of that frame
  obtain ⟨position, hfar, hend, hall⟩ : ∃ position : ℕ → ℕ,
      (∀ k ≤ m, position k = farthest maxFrameBytes frames k) ∧ position (m + 1) = ending frames (m + 1) ∧
        position (m + 2) = (encode frames.flatten).length :=
    ⟨fun k => if k ≤ m then farthest maxFrameBytes frames k else if k = m + 1 then ending frames (m + 1)
      else (encode frames.flatten).length, fun k hk => if_pos hk, by simp, by simp⟩
  have hwhole : ending frames (m + 1) ≤ (encode frames.flatten).length := by
    rw [← ending_length]
    exact ending_mono hm
  have hmono : ∀ i < m + 2, position i ≤ position (i + 1) := by
    intro i hi
    rcases Nat.lt_trichotomy i m with hlt | rfl | hlt
    · rw [hfar i (by omega), hfar (i + 1) (by omega)]
      exact farthest_le_succ hpos (by omega)
    · rw [hfar i (Nat.le_refl i), hend]
      exact Nat.le_of_lt (farthest_lt hpos hm)
    · obtain rfl : i = m + 1 := by omega
      rw [hend]
      exact hall ▸ hwhole
  have hzero : position 0 = 0 := hfar 0 (Nat.zero_le _)
  have hchunks : (LineReader.pieces (encode frames.flatten) position (m + 2)).flatten = encode frames.flatten := by
    rw [LineReader.pieces_flatten _ hzero hmono, hall, List.take_length]
  have hlength : (LineReader.pieces (encode frames.flatten) position (m + 2)).length = m + 2 := by
    rw [LineReader.pieces, List.length_map, List.length_range]
  have hoffset : ∀ i ≤ m + 2, LineReader.offset (LineReader.pieces (encode frames.flatten) position (m + 2)) i =
    position i := by
    intro i hi
    have hle : position i ≤ (encode frames.flatten).length := by
      rcases Nat.lt_trichotomy i (m + 1) with hlt | rfl | hlt
      · have hbelow := @farthest_lt maxFrameBytes frames i hpos (by omega)
        have habove := @ending_mono frames (i + 1) (m + 1) (by omega)
        rw [hfar i (by omega)]
        omega
      · exact hend ▸ hwhole
      · obtain rfl : i = m + 2 := by omega
        exact Nat.le_of_eq hall
    rw [LineReader.offset, LineReader.pieces_take _ _ hi,
      LineReader.pieces_flatten _ hzero fun j hj => hmono j (Nat.lt_of_lt_of_le hj hi), List.length_take,
        Nat.min_eq_left hle]
  generalize LineReader.pieces (encode frames.flatten) position (m + 2) = chunks at hchunks hlength hoffset
  have hreached : ∀ i ≤ m, reached frames (LineReader.offset chunks i) = i := by
    intro i hi
    rw [hoffset i (by omega), hfar i hi]
    exact reached_eq (ending_le_farthest hpos (by omega) fun k hk => hpass k (by omega))
      (farthest_lt hpos (by omega))
  have hresets : ∀ i ≤ m, (parser platform json maxFrameBytes).resetsBy chunks i = i := by
    intro i hi
    have hcount := (consume_cut platform json maxFrameBytes hf
      (chunks_front hchunks i) fun frame hframe => hq frame ?_).2
    · exact hcount.trans (hreached i hi)
    · exact (List.take_prefix_take_left ((hreached i hi).le.trans hi)).subset hframe
  have hfits : ∀ i ≤ m, ¬ (parser platform json maxFrameBytes).Exceeds chunks i := by
    rintro i hi ⟨-, j, hj, hsame, hlarge⟩
    rw [hresets i hi, hresets j (hj.trans hi)] at hsame
    subst hsame
    change LineReader.offset chunks j + maxFrameBytes < _ at hlarge
    rw [hoffset j (by omega), hoffset (j + 1) (by omega), hfar j hi] at hlarge
    rcases Nat.lt_or_eq_of_le hi with hlt | rfl
    · rw [hfar (j + 1) hlt, farthest] at hlarge
      omega
    · rw [hend] at hlarge
      have hle := hpass j (Nat.le_refl j)
      omega
  refine ⟨chunks, hchunks, fun hparse => ?_⟩
  rcases @parse_spec platform json maxFrameBytes _ _ hf hchunks with
    ⟨stop, hstop, hexceeds, -, hparse'⟩ | ⟨hnone, -⟩
  · have hnothing : ((parser platform json maxFrameBytes).consumed chunks stop).1 = [] :=
      (Prod.mk.inj (hparse'.symm.trans hparse)).1
    obtain rfl : stop = m + 1 := by
      have hlt : ¬ stop ≤ m := fun hle => hfits stop hle hexceeds
      omega
    obtain ⟨⟨g, hg⟩, j, hj, hsame, hlarge⟩ := hexceeds
    have hreached' : reached frames (LineReader.offset chunks (m + 1)) = m + 1 := by
      rw [hoffset (m + 1) (by omega), hend, reached_ending hpos hm]
    have hquiet := quiet_cut platform json maxFrameBytes hf
      (chunks_front hchunks (m + 1)) (Prod.ext hnothing hg)
    have hresets' : (parser platform json maxFrameBytes).resetsBy chunks (m + 1) = m + 1 :=
      (consume_cut platform json maxFrameBytes hf (chunks_front hchunks (m + 1)) hquiet).2.trans hreached'
    have hlength' : m + 1 = frames.length := hlast (hreached' ▸ hquiet)
    change LineReader.offset chunks j + maxFrameBytes < _ at hlarge
    rcases Nat.lt_or_eq_of_le hj with hlt | rfl
    · rw [hresets j (Nat.le_of_lt_succ hlt), hresets'] at hsame
      omega
    · rw [hoffset (m + 1) (by omega), hoffset (m + 1 + 1) (Nat.le_refl _), hend, hall, hlength', ending_length]
        at hlarge
      omega
  · obtain ⟨i, hi, hexceeds⟩ := (raises_iff_exceeds maxFrameBytes chunks).mp (congrArg Prod.snd hparse)
    exact hnone i hi hexceeds

end Streams

section Limit

variable (platform : Platform) (json : EventJson) (maxFrameBytes : ℕ) (frames : List (List Char))

def Raises (chunks : List (List UInt8)) : Prop :=
  (parseEventStream platform json maxFrameBytes chunks).2 = .error .tooLarge

/-- However the stream is cut, the size error is that of its frames, and the outcome is the same. -/
def LimitsFrames : Prop := ∀ chunks chunks' : List (List UInt8),
  chunks.flatten = encode frames.flatten → chunks'.flatten = encode frames.flatten →
    (Raises platform json maxFrameBytes chunks ↔ Oversized maxFrameBytes frames) ∧
      parseEventStream platform json maxFrameBytes chunks = parseEventStream platform json maxFrameBytes chunks'

/-- That is so if and only if the stream is small as a whole, or too large wherever it is cut. -/
theorem frame_limit_iff (platform : Platform) (json : EventJson) (maxFrameBytes : ℕ) (frames : List (List Char))
    (hf : ∀ frame ∈ unmarked frames, IsFrame frame) :
    LimitsFrames platform json maxFrameBytes frames ↔
      (encode frames.flatten).length ≤ maxFrameBytes ∨ Unavoidable maxFrameBytes frames := by
  have hpos := sizes_pos hf
  constructor
  · intro h
    by_contra hne
    obtain ⟨hsize, hescape⟩ := not_or.mp hne
    obtain ⟨chunks, hchunks, hparse⟩ := escape platform json hf (Nat.not_le.mp hsize) hescape
    refine hparse ((h chunks [encode frames.flatten] hchunks (List.flatten_singleton ..)).2.trans ?_)
    -- in one chunk, the stream is too large
    rw [parseEventStream, LineReader.readChunks, LineReader.readChunk, if_pos]
    · rfl
    · exact Nat.lt_of_lt_of_le (Nat.not_le.mp hsize) (Nat.le_add_left _ _)
  · rintro (hsmall | hstop) chunks chunks' hchunks hchunks'
    · have hfits : ∀ {chunks : List (List UInt8)}, chunks.flatten = encode frames.flatten →
          ∀ i, ¬ (parser platform json maxFrameBytes).Exceeds chunks i := fun hchunks i =>
        LineReader.not_exceeds_of_small (hchunks ▸ hsmall) i
      have hall : ∀ {chunks : List (List UInt8)}, chunks.flatten = encode frames.flatten →
          parseEventStream platform json maxFrameBytes chunks =
            andThen ((parser platform json maxFrameBytes).consumeLines .reset
              (LineReader.linesOf (encode frames.flatten))) fun _ => ([], .ok ()) := by
        intro chunks hchunks
        rcases @parse_spec platform json maxFrameBytes _ _ hf hchunks with ⟨stop, -, hexceeds, -⟩ | ⟨-, hparse⟩
        · exact absurd hexceeds (hfits hchunks stop)
        · exact hparse
      refine ⟨iff_of_false (fun hraises => ?_) ?_, (hall hchunks).trans (hall hchunks').symm⟩
      · obtain ⟨i, -, hexceeds⟩ := (raises_iff_exceeds maxFrameBytes chunks).mp hraises
        exact hfits hchunks i hexceeds
      · rintro ⟨frame, hframe, hlarge⟩
        obtain ⟨front, back, rfl⟩ := List.append_of_mem hframe
        rw [length_encode_flatten, List.map_append, List.sum_append, List.map_cons, List.sum_cons] at hsmall
        omega
    · rw [Raises, hstop.stops hf hchunks, hstop.stops hf hchunks']
      exact ⟨iff_of_true rfl (hstop.oversized hpos), rfl⟩

def ping : List Char := ": ping\n\n".toList

def longPing : List Char := ": ping, ping\n\n".toList

lemma isFrame_ping : IsFrame ping := ⟨[": ping".toList], [], by decide, by decide, by decide⟩

lemma isFrame_longPing : IsFrame longPing := ⟨[": ping, ping".toList], [], by decide, by decide, by decide⟩

theorem long_frame_stopped : LimitsFrames EventStream.quiet runJson 9 [ping, longPing] := by
  refine (frame_limit_iff EventStream.quiet runJson 9 [ping, longPing] ?_).mpr
    (Or.inr ⟨1, by decide, by decide, by decide⟩)
  intro frame hframe
  rcases List.mem_cons.mp hframe with rfl | hframe
  · exact isFrame_ping
  · rw [List.mem_singleton.mp hframe]
    exact isFrame_longPing

/-- In one chunk, two frames of 8 bytes exceed a limit of 8 bytes; in a chunk each they do not. -/
theorem joined_frames_rejected :
    [encode (ping ++ ping)].flatten = [encode ping, encode ping].flatten ∧
      Raises EventStream.quiet runJson 8 [encode (ping ++ ping)] ∧
      ¬ Raises EventStream.quiet runJson 8 [encode ping, encode ping] ∧
      ¬ Oversized 8 [ping, ping] := by
  refine ⟨by decide, rfl, fun hraises => ?_, ?_⟩
  · have hparse : (parseEventStream EventStream.quiet runJson 8 [encode ping, encode ping]).2.isOk = true :=
      by decide +kernel
    rw [Raises] at hraises
    rw [hraises] at hparse
    cases hparse
  · rintro ⟨frame, hframe, hlarge⟩
    have hall : ∀ frame ∈ [ping, ping], size frame ≤ 8 := by decide
    exact absurd hlarge (Nat.not_lt.mpr (hall frame hframe))

end Limit

end ChatCore.Client.FrameLimit
