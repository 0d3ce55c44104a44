import ChatCore.Streaming.Text

namespace ChatCore.Streaming

section Decoder

def dropMark : List Char → List Char
  | [] => []
  | c :: text => if c = '\uFEFF' then text else c :: text

/-- A decoder of UTF-8 in stream mode: the bytes of an unfinished character, and whether there has been a
character. -/
structure Decoder where
  pending : List UInt8
  started : Bool

def Decoder.start : Decoder := ⟨[], false⟩

def Decoder.read (d : Decoder) (value : List UInt8) : List Char × Decoder :=
  let decoded := decode (d.pending ++ value)
  (if d.started then decoded.1 else dropMark decoded.1, ⟨decoded.2, d.started || !decoded.1.isEmpty⟩)

def flush (d : Decoder) : List Char := if d.pending = [] then [] else ['\uFFFD']

def Decoder.after (bytes : List UInt8) : Decoder := ⟨(decode bytes).2, !(decode bytes).1.isEmpty⟩

def textOf (bytes : List UInt8) : List Char := dropMark (decode bytes).1

lemma dropMark_append {text : List Char} (h : text ≠ []) (more : List Char) :
    dropMark (text ++ more) = dropMark text ++ more := by
  cases text with
  | nil => exact absurd rfl h
  | cons c text =>
    rw [List.cons_append, dropMark, dropMark]
    split <;> rfl

lemma dropMark_eq {text : List Char} (h : text.head? ≠ some '\uFEFF') : dropMark text = text := by
  cases text with
  | nil => rfl
  | cons c text => exact if_neg fun hc => h (congrArg some hc)

lemma dropMark_front {text more : List Char} (h : text <+: more) : dropMark text <+: dropMark more := by
  obtain ⟨rest, rfl⟩ := h
  cases text with
  | nil => exact List.nil_prefix
  | cons c text => exact ⟨rest, (dropMark_append (List.cons_ne_nil _ _) _).symm⟩

lemma after_nil : Decoder.after [] = .start := by
  rw [Decoder.after, decode_of_none rfl]
  rfl

lemma textOf_nil : textOf [] = [] := by
  rw [textOf, decode_of_none rfl]
  rfl

lemma textOf_encode (text : List Char) : textOf (encode text) = dropMark text := by rw [textOf, decode_encode]

lemma after_encode (text : List Char) : (Decoder.after (encode text)).pending = [] := by
  rw [Decoder.after, decode_encode]

lemma read_after (bytes more : List UInt8) :
    ((Decoder.after bytes).read more).2 = .after (bytes ++ more) ∧
      textOf (bytes ++ more) = textOf bytes ++ ((Decoder.after bytes).read more).1 := by
  have hdecode := decode_append bytes more
  constructor
  · rw [Decoder.after, Decoder.after, hdecode]
    cases hfirst : (decode bytes).1 <;> simp [Decoder.read]
  · rw [textOf, textOf, hdecode]
    by_cases hnone : (decode bytes).1 = []
    · simp [Decoder.read, Decoder.after, hnone, dropMark]
    · have hstarted : (!(decode bytes).1.isEmpty) = true := by simpa using hnone
      rw [dropMark_append hnone]
      simp only [Decoder.read, Decoder.after, hstarted, if_true]

end Decoder

abbrev Output (ε E α : Type) := List E × Except ε α

section Output

variable {ε E α β γ : Type}

def andThen (output : Output ε E α) (next : α → Output ε E β) : Output ε E β := match output.2 with
  | .error e => (output.1, .error e)
  | .ok a => (output.1 ++ (next a).1, (next a).2)

lemma andThen_ok {output : Output ε E α} {out : List E} {a : α} (h : output = (out, .ok a))
    {next : α → Output ε E β} :
    andThen output next = (out ++ (next a).1, (next a).2) := by
  rw [h]
  rfl

lemma andThen_error {output : Output ε E α} {out : List E} {e : ε} (h : output = (out, .error e))
    {next : α → Output ε E β} : andThen output next = (out, .error e) := by
  rw [h]
  rfl

lemma andThen_assoc (output : Output ε E α) (next : α → Output ε E β) (next' : β → Output ε E γ) :
    andThen (andThen output next) next' = andThen output fun a => andThen (next a) next' := by
  rcases output with ⟨out, e | a⟩
  · rfl
  · rcases hn : next a with ⟨out', e | b⟩ <;> simp [andThen, hn]

lemma andThen_pure (output : Output ε E α) : andThen output (fun a => ([], .ok a)) = output := by
  rcases output with ⟨out, e | a⟩
  · rfl
  · simp [andThen]

lemma andThen_unit (output : Output ε E α) (next : α → β) :
    (andThen output fun a => ([], .ok (next a))).1 = output.1 := by
  rcases output with ⟨out, e | a⟩
  · rfl
  · exact List.append_nil _

end Output

def dropReturn (line : List Char) : List Char := if line.getLast? = some '\r' then line.dropLast else line

/-- What consumes lines, and counts bytes against a limit: some lines set the count back. -/
structure LineReader (F E ε : Type) where
  start : F
  consumeLine : F → List Char → Output ε E F
  frameBytes : F → ℕ
  count : ℕ → F → F
  resets : F → List Char → Bool
  limit : ℕ
  tooLarge : ε

structure LineReader.Lawful {F E ε : Type} (P : LineReader F E ε) : Prop where
  start : P.count 0 P.start = P.start
  frameBytes : ∀ n f, P.frameBytes (P.count n f) = n
  count : ∀ n m f, P.count n (P.count m f) = P.count n f
  counted : ∀ f n line, P.consumeLine (P.count n f) line = andThen (P.consumeLine (P.count 0 f) line) fun g =>
    ([], .ok (P.count (if P.resets (P.count 0 f) line then 0 else n) g))

structure Reader (F : Type) where
  decoder : Decoder
  buffer : List Char
  current : F

namespace LineReader

variable {F E ε : Type} (P : LineReader F E ε)

def consumeLines (f : F) : List (List Char) → Output ε E F
  | [] => ([], .ok f)
  | line :: more => andThen (P.consumeLine f (dropReturn line)) fun f' => consumeLines f' more

def reader : Reader F := ⟨.start, [], P.start⟩

def readChunk (r : Reader F) (value : List UInt8) : Output ε E (Reader F) :=
  let frameBytes := P.frameBytes r.current + value.length
  if P.limit < frameBytes then ([], .error P.tooLarge)
  else
    let decoded := r.decoder.read value
    let split := lines (r.buffer ++ decoded.1)
    andThen (P.consumeLines (P.count frameBytes r.current) split.1) fun f => ([], .ok ⟨decoded.2, split.2, f⟩)

def readChunks (r : Reader F) : List (List UInt8) → Output ε E (Reader F)
  | [] => ([], .ok r)
  | value :: more => andThen (P.readChunk r value) fun r' => readChunks r' more

def resetCount (f : F) : List (List Char) → ℕ
  | [] => 0
  | line :: more => (P.resets f (dropReturn line)).toNat + match (P.consumeLine f (dropReturn line)).2 with
      | .ok g => resetCount g more
      | .error _ => 0

variable {P} {f : F} {ls ls' : List (List Char)}

lemma consumeLines_append : P.consumeLines f (ls ++ ls') =
    andThen (P.consumeLines f ls) fun f' => P.consumeLines f' ls' := by
  induction ls generalizing f with
  | nil => simp [consumeLines, andThen]
  | cons line ls ih =>
    rw [List.cons_append, consumeLines, consumeLines, andThen_assoc]
    exact congrArg _ (funext fun f' => ih)

lemma resetCount_append {out : List E} {g : F} (h : P.consumeLines f ls = (out, .ok g)) :
    P.resetCount f (ls ++ ls') = P.resetCount f ls + P.resetCount g ls' := by
  induction ls generalizing f out with
  | nil =>
    cases h
    exact (Nat.zero_add _).symm
  | cons line ls ih =>
    rw [consumeLines] at h
    rcases hline : P.consumeLine f (dropReturn line) with ⟨out', e | f'⟩
    · rw [andThen_error hline] at h
      cases h
    · rw [andThen_ok hline] at h
      have hrest := ih (Prod.ext rfl (Prod.mk.inj h).2)
      rw [List.cons_append, resetCount, resetCount, hline]
      simp only [hrest, Nat.add_assoc]

lemma resetCount_mono : P.resetCount f ls ≤ P.resetCount f (ls ++ ls') := by
  induction ls generalizing f with
  | nil => exact Nat.zero_le _
  | cons line ls ih =>
    rw [List.cons_append, resetCount, resetCount]
    refine Nat.add_le_add_left ?_ _
    cases (P.consumeLine f (dropReturn line)).2 with
    | error e => exact Nat.le_refl _
    | ok g => exact ih

lemma consumeLines_error {e : ε} (h : ∀ f line, (P.consumeLine f line).2 ≠ .error e) :
    (P.consumeLines f ls).2 ≠ .error e := by
  induction ls generalizing f with
  | nil => exact fun he => by cases he
  | cons line ls ih =>
    rw [consumeLines]
    rcases hline : P.consumeLine f (dropReturn line) with ⟨out, e' | g⟩
    · have hfirst := h f (dropReturn line)
      rw [hline] at hfirst
      exact hfirst
    · rw [andThen_ok rfl]
      exact ih

section Counting

variable (hP : P.Lawful)

include hP

lemma Lawful.consumeLine_uncounted {line : List Char} {out : List E} {g : F} (hf : P.count 0 f = f)
    (h : P.consumeLine f line = (out, .ok g)) : P.count 0 g = g := by
  have hcounted := hP.counted f 0 line
  rw [hf, h, ite_self] at hcounted
  exact (Except.ok.inj (Prod.mk.inj hcounted).2).symm

lemma Lawful.consumeLines_uncounted {out : List E} {g : F} (hf : P.count 0 f = f)
    (h : P.consumeLines f ls = (out, .ok g)) : P.count 0 g = g := by
  induction ls generalizing f out with
  | nil =>
    cases h
    exact hf
  | cons line ls ih =>
    rw [consumeLines] at h
    rcases hline : P.consumeLine f (dropReturn line) with ⟨out', e | f'⟩
    · rw [andThen_error hline] at h
      cases h
    · rw [andThen_ok hline] at h
      exact ih (hP.consumeLine_uncounted hf hline) (Prod.ext rfl (Prod.mk.inj h).2)

lemma Lawful.consumeLines_counted (hf : P.count 0 f = f) (n : ℕ) (ls : List (List Char)) :
    P.consumeLines (P.count n f) ls = andThen (P.consumeLines f ls) fun g =>
      ([], .ok (P.count (if P.resetCount f ls = 0 then n else 0) g)) := by
  induction ls generalizing f n with
  | nil =>
    have hnone : P.resetCount f [] = 0 := rfl
    rw [if_pos hnone]
    rfl
  | cons line ls ih =>
    have hline := hP.counted f n (dropReturn line)
    rw [hf] at hline
    rw [consumeLines, consumeLines, hline, andThen_assoc, andThen_assoc]
    rcases hg : P.consumeLine f (dropReturn line) with ⟨out, e | g⟩
    · rfl
    · rw [andThen_ok rfl, andThen_ok rfl, andThen_ok rfl, ih (hP.consumeLine_uncounted hf hg), resetCount, hg]
      cases P.resets f (dropReturn line) <;> simp

end Counting

section Chunks

def offset (chunks : List (List UInt8)) (i : ℕ) : ℕ := (chunks.take i).flatten.length

def linesOf (bytes : List UInt8) : List (List Char) := (lines (textOf bytes)).1

def pieces (bytes : List UInt8) (position : ℕ → ℕ) (n : ℕ) : List (List UInt8) :=
  (List.range n).map fun i => (bytes.drop (position i)).take (position (i + 1) - position i)

lemma pieces_flatten (bytes : List UInt8) {position : ℕ → ℕ} (hzero : position 0 = 0) {n : ℕ}
    (hmono : ∀ i < n, position i ≤ position (i + 1)) :
    (pieces bytes position n).flatten = bytes.take (position n) := by
  induction n with
  | zero =>
    rw [hzero]
    rfl
  | succ n ih =>
    have hlast : position (n + 1) = position n + (position (n + 1) - position n) := by
      have hle := hmono n (Nat.lt_succ_self n)
      omega
    rw [pieces, List.range_succ, List.map_append, List.flatten_append, List.map_singleton, List.flatten_singleton]
    change (pieces bytes position n).flatten ++ _ = _
    rw [ih fun i hi => hmono i (Nat.lt_succ_of_lt hi)]
    conv_rhs => rw [hlast, List.take_add]

lemma pieces_take (bytes : List UInt8) (position : ℕ → ℕ) {n i : ℕ} (h : i ≤ n) :
    (pieces bytes position n).take i = pieces bytes position i := by
  rw [pieces, ← List.map_take, List.take_range, Nat.min_eq_left h, pieces]

variable (P) (chunks : List (List UInt8))

def consumed (i : ℕ) : Output ε E F := P.consumeLines P.start (linesOf (chunks.take i).flatten)

def resetsBy (i : ℕ) : ℕ := P.resetCount P.start (linesOf (chunks.take i).flatten)

/-- The chunks from some chunk to the chunk `i` are too large together, and before the last of them nothing sets
the count back; what was consumed before is accepted. -/
def Exceeds (i : ℕ) : Prop := (∃ g, (P.consumed chunks i).2 = .ok g) ∧
  ∃ j ≤ i, P.resetsBy chunks j = P.resetsBy chunks i ∧ offset chunks j + P.limit < offset chunks (i + 1)

structure At (i : ℕ) (r : Reader F) : Prop where
  decoder : r.decoder = .after (chunks.take i).flatten
  buffer : r.buffer = (lines (textOf (chunks.take i).flatten)).2
  current : ∃ g, (P.consumed chunks i).2 = .ok g ∧ r.current = P.count (P.frameBytes r.current) g
  counted : ∃ j ≤ i, P.resetsBy chunks j = P.resetsBy chunks i ∧
    (∀ j' < j, P.resetsBy chunks j' ≠ P.resetsBy chunks i) ∧ offset chunks j + P.frameBytes r.current =
      offset chunks i

variable {P chunks} {chunk : List UInt8} {i j : ℕ} {r : Reader F}

lemma take_flatten (hi : chunks[i]? = some chunk) :
    (chunks.take (i + 1)).flatten = (chunks.take i).flatten ++ chunk := by
  rw [List.take_add_one, hi, List.flatten_append]
  simp

lemma offset_succ (hi : chunks[i]? = some chunk) : offset chunks (i + 1) = offset chunks i + chunk.length := by
  rw [offset, take_flatten hi, List.length_append]
  rfl

lemma take_front (h : i ≤ j) : (chunks.take i).flatten <+: (chunks.take j).flatten := by
  obtain ⟨more, hmore⟩ := List.take_prefix_take_left (l := chunks) h
  exact ⟨more.flatten, by rw [← List.flatten_append, hmore]⟩

lemma offset_mono (h : i ≤ j) : offset chunks i ≤ offset chunks j := (take_front h).length_le

lemma linesOf_append (bytes more : List UInt8) : ∃ new, linesOf (bytes ++ more) = linesOf bytes ++ new := by
  rw [linesOf, (read_after bytes more).2, lines_append]
  exact ⟨_, rfl⟩

lemma resetsBy_mono (h : i ≤ j) : P.resetsBy chunks i ≤ P.resetsBy chunks j := by
  obtain ⟨more, hmore⟩ := @take_front chunks _ _ h
  obtain ⟨new, hnew⟩ := linesOf_append (chunks.take i).flatten more
  rw [resetsBy, resetsBy, ← hmore, hnew]
  exact resetCount_mono

lemma consumed_error (h : i ≤ j) {out : List E} {e : ε} (he : P.consumed chunks i = (out, .error e)) :
    P.consumed chunks j = (out, .error e) := by
  obtain ⟨more, hmore⟩ := @take_front chunks _ _ h
  obtain ⟨new, hnew⟩ := linesOf_append (chunks.take i).flatten more
  rw [consumed, ← hmore, hnew, consumeLines_append]
  exact andThen_error he

lemma At.exceeds_iff (h : P.At chunks i r) (hi : chunks[i]? = some chunk) :
    P.Exceeds chunks i ↔ P.limit < P.frameBytes r.current + chunk.length := by
  obtain ⟨j, hj, hsame, hfirst, hcount⟩ := h.counted
  rw [Exceeds, offset_succ hi]
  constructor
  · rintro ⟨-, j', -, hsame', hlarge⟩
    have hle : j ≤ j' := Nat.le_of_not_lt fun hlt => hfirst j' hlt hsame'
    have hoffset := @offset_mono chunks _ _ hle
    omega
  · intro hlarge
    obtain ⟨g, hg, -⟩ := h.current
    exact ⟨⟨g, hg⟩, j, hj, hsame, by omega⟩

lemma not_exceeds_of_small (h : chunks.flatten.length ≤ P.limit) (i : ℕ) : ¬ P.Exceeds chunks i := by
  rintro ⟨-, j, -, -, hlarge⟩
  have hwhole := congrArg (fun l => l.flatten.length) (List.take_append_drop (i + 1) chunks)
  simp only [List.flatten_append, List.length_append] at hwhole
  rw [offset, offset] at hlarge
  omega

section Steps

variable (hP : P.Lawful)

include hP

lemma Lawful.at_start : P.At chunks 0 P.reader where
  decoder := by
    rw [List.take_zero, List.flatten_nil, after_nil]
    rfl
  buffer := by
    rw [List.take_zero, List.flatten_nil, textOf_nil]
    rfl
  current := by
    refine ⟨P.start, ?_, ?_⟩
    · rw [consumed, List.take_zero, List.flatten_nil, linesOf, textOf_nil]
      rfl
    · change P.start = P.count (P.frameBytes P.start) P.start
      have hzero := hP.frameBytes 0 P.start
      rw [hP.start] at hzero
      rw [hzero, hP.start]
  counted := by
    refine ⟨0, Nat.le_refl _, rfl, fun j hj => absurd hj (Nat.not_lt_zero j), ?_⟩
    have hzero := hP.frameBytes 0 P.start
    rw [hP.start] at hzero
    exact (congrArg _ hzero).trans (Nat.add_zero _)

lemma Lawful.step (h : P.At chunks i r) (hi : chunks[i]? = some chunk) (hsize : ¬ P.Exceeds chunks i) :
    ∃ out, (P.consumed chunks (i + 1)).1 = (P.consumed chunks i).1 ++ out ∧
      ((∃ r', P.readChunk r chunk = (out, .ok r') ∧ P.At chunks (i + 1) r') ∨
        ∃ e, P.readChunk r chunk = (out, .error e) ∧ (P.consumed chunks (i + 1)).2 = .error e) := by
  obtain ⟨hdecoder, htext⟩ := read_after (chunks.take i).flatten chunk
  rw [← take_flatten hi, ← h.decoder] at hdecoder htext
  have hsplit := lines_append (textOf (chunks.take i).flatten) (r.decoder.read chunk).1
  rw [← htext, ← h.buffer] at hsplit
  have hlines : linesOf (chunks.take (i + 1)).flatten = linesOf (chunks.take i).flatten ++
      (lines (r.buffer ++ (r.decoder.read chunk).1)).1 := congrArg Prod.fst hsplit
  obtain ⟨g, hg, hcurrent⟩ := h.current
  have hbefore : P.consumed chunks i = ((P.consumed chunks i).1, .ok g) := Prod.ext rfl hg
  have hzero : P.count 0 g = g := hP.consumeLines_uncounted hP.start hbefore
  have hafter : P.consumed chunks (i + 1) = andThen (P.consumed chunks i) fun g => P.consumeLines g
      (lines (r.buffer ++ (r.decoder.read chunk).1)).1 := by
    rw [consumed, hlines, consumeLines_append]
    rfl
  rw [andThen_ok hbefore] at hafter
  have hread : P.readChunk r chunk = andThen (P.consumeLines g (lines (r.buffer ++ (r.decoder.read chunk).1)).1)
      fun g' => ([], .ok ⟨(r.decoder.read chunk).2, (lines (r.buffer ++ (r.decoder.read chunk).1)).2,
        P.count (if P.resetCount g (lines (r.buffer ++ (r.decoder.read chunk).1)).1 = 0 then
          P.frameBytes r.current + chunk.length else 0) g'⟩) := by
    rw [h.exceeds_iff hi] at hsize
    have hcount : P.count (P.frameBytes r.current + chunk.length) r.current =
        P.count (P.frameBytes r.current + chunk.length) g := by
      conv_lhs => rw [hcurrent]
      rw [hP.count, hP.frameBytes]
    rw [readChunk]
    simp only [if_neg hsize]
    rw [hcount, hP.consumeLines_counted hzero, andThen_assoc]
    rfl
  refine ⟨_, congrArg Prod.fst hafter, ?_⟩
  rcases hnew : P.consumeLines g (lines (r.buffer ++ (r.decoder.read chunk).1)).1 with ⟨out, e | g'⟩
  · rw [hnew] at hread hafter
    exact Or.inr ⟨e, hread, congrArg Prod.snd hafter⟩
  · rw [hnew] at hread hafter
    refine Or.inl ⟨_, hread.trans (by rw [andThen_ok rfl, List.append_nil]), ?_⟩
    refine ⟨hdecoder, (congrArg Prod.snd hsplit).symm, ⟨g', congrArg Prod.snd hafter, ?_⟩, ?_⟩
    · rw [hP.frameBytes]
    · have hresets : P.resetsBy chunks (i + 1) = P.resetsBy chunks i +
          P.resetCount g (lines (r.buffer ++ (r.decoder.read chunk).1)).1 := by
        rw [resetsBy, hlines]
        exact resetCount_append hbefore
      rw [hP.frameBytes]
      split
      · next hnone =>
        obtain ⟨j, hj, hsame, hfirst, hcount⟩ := h.counted
        rw [hresets, hnone, Nat.add_zero, offset_succ hi]
        exact ⟨j, Nat.le_succ_of_le hj, hsame, hfirst, by omega⟩
      · next hsome =>
        refine ⟨i + 1, Nat.le_refl _, rfl, fun j' hj' hsame => hsome ?_, rfl⟩
        have hle := @resetsBy_mono _ _ _ P chunks _ _ (Nat.le_of_lt_succ hj')
        omega

lemma Lawful.readChunks_at {left : List (List UInt8)} (h : P.At chunks i r) (hleft : chunks.drop i = left)
    (hlength : i ≤ chunks.length) (hbefore : ∀ j < i, ¬ P.Exceeds chunks j) :
    (∃ stop < chunks.length, P.Exceeds chunks stop ∧ (∀ j < stop, ¬ P.Exceeds chunks j) ∧
      ∃ out, P.readChunks r left = (out, .error P.tooLarge) ∧
        (P.consumed chunks stop).1 = (P.consumed chunks i).1 ++ out) ∨
    ((∀ j < chunks.length, ¬ P.Exceeds chunks j) ∧ ∃ out,
      (P.consumed chunks chunks.length).1 = (P.consumed chunks i).1 ++ out ∧
      ((∃ r', P.readChunks r left = (out, .ok r') ∧ P.At chunks chunks.length r') ∨
        ∃ e, P.readChunks r left = (out, .error e) ∧ (P.consumed chunks chunks.length).2 = .error e)) := by
  induction left generalizing i r with
  | nil =>
    obtain rfl : i = chunks.length := Nat.le_antisymm hlength (List.drop_eq_nil_iff.mp hleft)
    exact Or.inr ⟨hbefore, [], (List.append_nil _).symm, Or.inl ⟨r, rfl, h⟩⟩
  | cons chunk left ih =>
    have hi : chunks[i]? = some chunk := by
      have hfirst := congrArg (fun l => l[0]?) hleft
      simpa using hfirst
    have hrest : chunks.drop (i + 1) = left := by rw [← List.tail_drop, hleft, List.tail_cons]
    obtain ⟨hlt, -⟩ := List.getElem?_eq_some_iff.mp hi
    by_cases hsize : P.Exceeds chunks i
    · refine Or.inl ⟨i, hlt, hsize, hbefore, [], ?_, (List.append_nil _).symm⟩
      rw [readChunks, readChunk, if_pos ((h.exceeds_iff hi).mp hsize)]
      rfl
    · have hbefore' : ∀ j < i + 1, ¬ P.Exceeds chunks j := by
        intro j hj
        rcases Nat.lt_succ_iff_lt_or_eq.mp hj with hj | rfl
        · exact hbefore j hj
        · exact hsize
      obtain ⟨out, hout, ⟨r', hread, hat⟩ | ⟨e, hread, herror⟩⟩ := hP.step h hi hsize
      · rcases ih hat hrest hlt hbefore' with ⟨stop, hstop, hexceeds, hfirst, out', hreads, hout'⟩ |
          ⟨hnone, out', hout', hreads⟩
        · refine Or.inl ⟨stop, hstop, hexceeds, hfirst, out ++ out', ?_, ?_⟩
          · rw [readChunks, andThen_ok hread, hreads]
          · rw [hout', hout, List.append_assoc]
        · refine Or.inr ⟨hnone, out ++ out', by rw [hout', hout, List.append_assoc], ?_⟩
          rcases hreads with ⟨r'', hreads, hend⟩ | ⟨e, hreads, herror⟩
          · exact Or.inl ⟨r'', by rw [readChunks, andThen_ok hread, hreads], hend⟩
          · exact Or.inr ⟨e, by rw [readChunks, andThen_ok hread, hreads], herror⟩
      · have hrejected : P.consumed chunks (i + 1) = ((P.consumed chunks i).1 ++ out, .error e) :=
          Prod.ext hout herror
        have hend : P.consumed chunks chunks.length = _ := consumed_error hlt hrejected
        refine Or.inr ⟨fun j _ hexceeds => ?_, out, congrArg Prod.fst hend, Or.inr ⟨e, ?_, congrArg Prod.snd hend⟩⟩
        · rcases Nat.lt_or_ge j (i + 1) with hj | hj
          · exact hbefore' j hj hexceeds
          · obtain ⟨g, hg⟩ := hexceeds.1
            rw [consumed_error hj hrejected] at hg
            cases hg
        · rw [readChunks, hread]
          rfl

theorem Lawful.readChunks (chunks : List (List UInt8)) :
    (∃ stop < chunks.length, P.Exceeds chunks stop ∧ (∀ j < stop, ¬ P.Exceeds chunks j) ∧
      P.readChunks P.reader chunks = ((P.consumed chunks stop).1, .error P.tooLarge)) ∨
    ((∀ j < chunks.length, ¬ P.Exceeds chunks j) ∧
      ((∃ r, P.readChunks P.reader chunks = ((P.consumed chunks chunks.length).1, .ok r) ∧
        P.At chunks chunks.length r) ∨
      ∃ e, P.readChunks P.reader chunks = ((P.consumed chunks chunks.length).1, .error e) ∧
        (P.consumed chunks chunks.length).2 = .error e)) := by
  have hnone : (P.consumed chunks 0).1 = [] := by
    rw [consumed, List.take_zero, List.flatten_nil, linesOf, textOf_nil]
    rfl
  rcases hP.readChunks_at hP.at_start List.drop_zero (Nat.zero_le _)
    (fun j hj => absurd hj (Nat.not_lt_zero j)) with
    ⟨stop, hstop, hexceeds, hfirst, out, hreads, hout⟩ | ⟨hfits, out, hout, hreads⟩
  · rw [hnone, List.nil_append] at hout
    exact Or.inl ⟨stop, hstop, hexceeds, hfirst, hout ▸ hreads⟩
  · rw [hnone, List.nil_append] at hout
    rw [hout]
    exact Or.inr ⟨hfits, hreads⟩

end Steps

end Chunks

end LineReader

end ChatCore.Streaming
