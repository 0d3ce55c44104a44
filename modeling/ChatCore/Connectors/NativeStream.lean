import ChatCore.Streaming.Blocks
import ChatCore.Connectors.Schemas

namespace ChatCore.Connectors.NativeStream

open Streaming

section Parser

def responseLimitBytes : ℕ := 1048576

inductive StreamError
  | tooLarge
  | invalidJson
  | invalidEvent
  deriving DecidableEq, Repr

def StreamError.message : StreamError → String
  | .tooLarge => "Connector event frame is too large."
  | .invalidJson => "Invalid connector event JSON."
  | .invalidEvent => "Invalid connector event."

structure Frame where
  dataLines : List (List Char)
  frameBytes : ℕ

abbrev Output (α : Type) := Streaming.Output StreamError ConnectorEvent α

inductive StreamValue
  | event (event : ConnectorEvent)
  | other

-- `parse` is `JSON.parse`: `none` where it throws
variable (web : Web) (parse : String → Option StreamValue)

def dispatch (f : Frame) : Output Frame :=
  if f.dataLines = [] then ([], .ok f)
  else match parse (String.ofList (['\n'].intercalate f.dataLines)) with
    | none => ([], .error .invalidJson)
    | some .other => ([], .error .invalidEvent)
    | some (.event event) =>
        if isConnectorEvent web event then ([event], .ok ⟨[], 0⟩) else ([], .error .invalidEvent)

def fieldValue (line : List Char) : List Char := match (line.dropWhile (· ≠ ':')).tail with
  | ' ' :: value => value
  | value => value

def isData (line : List Char) : Bool := decide (line.takeWhile (· ≠ ':') = "data".toList)

def consumeLine (f : Frame) (line : List Char) : Output Frame :=
  if line = [] then dispatch web parse f
  else if line.head? = some ':' then ([], .ok f)
  else if isData line then ([], .ok { f with dataLines := f.dataLines ++ [fieldValue line] })
  else ([], .ok f)

-- a blank line resets what is counted only where there are data
def parser : LineReader Frame ConnectorEvent StreamError where
  start := ⟨[], 0⟩
  consumeLine := consumeLine web parse
  frameBytes := Frame.frameBytes
  count n f := { f with frameBytes := n }
  resets f line := decide (line = [] ∧ f.dataLines ≠ [])
  limit := responseLimitBytes
  tooLarge := .tooLarge

def finish (r : Reader Frame) : Output Unit :=
  let buffer := r.buffer ++ flush r.decoder
  andThen
    (if buffer = [] then ([], .ok r.current) else consumeLine web parse r.current (dropReturn buffer)) fun f =>
    andThen (dispatch web parse f) fun _ => ([], .ok ())

def parseConnectorEventStream (chunks : List (List UInt8)) : Output Unit :=
  andThen ((parser web parse).readChunks (parser web parse).reader chunks) (finish web parse)

end Parser

section Items

/-- A part of a stream, with the event that it carries. -/
structure Item where
  text : List Char
  event : Option ConnectorEvent

def dataOf (filled : List (List Char)) : List (List Char) := ((filled.map dropReturn).filter isData).map fieldValue

variable (web : Web) (parse : String → Option StreamValue)

/-- An event frame, a comment or a blank line; every line may end in a carriage return. -/
inductive IsItem : Item → Prop
  | frame (text : List Char) (event : ConnectorEvent) (filled : List (List Char)) (blank : List Char)
      (hlines : lines text = (filled ++ [blank], [])) (hblank : isBlank blank = true)
      (hfilled : ∀ line ∈ filled, isBlank line = false) (hdata : dataOf filled ≠ [])
      (hparse : parse (String.ofList (['\n'].intercalate (dataOf filled))) = some (.event event))
      (hevent : isConnectorEvent web event = true) : IsItem ⟨text, some event⟩
  | comment (text line : List Char) (hlines : lines text = ([line], []))
      (hcolon : (dropReturn line).head? = some ':') : IsItem ⟨text, none⟩
  | blank (text line : List Char) (hlines : lines text = ([line], [])) (hblank : isBlank line = true) :
      IsItem ⟨text, none⟩

def streamText (items : List Item) : List Char := (items.map Item.text).flatten

def eventsOf (items : List Item) : List ConnectorEvent := items.filterMap Item.event

def eventsIn (items : List Item) (bytes : ℕ) : List ConnectorEvent :=
  eventsOf (items.take (completed (items.map Item.text) bytes).length)

/-- A byte order mark at the beginning of a stream is in its first part. -/
def unmarkedItems : List Item → List Item
  | [] => []
  | item :: items => { item with text := dropMark item.text } :: items

variable {web parse} {item : Item} {items : List Item} {f : Frame} {ls ls' : List (List Char)}

lemma IsItem.isBlock (h : IsItem web parse item) : IsBlock item.text := by
  cases h with
  | frame text event filled blank hlines hblank hfilled => exact ⟨filled, blank, hlines, hfilled⟩
  | comment text line hlines => exact ⟨[], line, hlines, fun l hl => absurd hl List.not_mem_nil⟩
  | blank text line hlines => exact ⟨[], line, hlines, fun l hl => absurd hl List.not_mem_nil⟩

lemma texts_unmarked (items : List Item) :
    (unmarkedItems items).map Item.text = unmarked (items.map Item.text) := by
  cases items <;> rfl

lemma eventsOf_unmarked (items : List Item) : eventsOf (unmarkedItems items) = eventsOf items := by
  cases items <;> rfl

lemma unmarked_take (items : List Item) (n : ℕ) : unmarkedItems (items.take n) = (unmarkedItems items).take n := by
  cases items with
  | nil => rw [List.take_nil, unmarkedItems, List.take_nil]
  | cons item items => cases n <;> rfl

lemma consumeLine_filled {line : List Char} (hne : line ≠ []) : consumeLine web parse f line =
    ([], .ok { f with dataLines := f.dataLines ++ (if isData line then [fieldValue line] else []) }) := by
  rw [consumeLine, if_neg hne]
  by_cases hcolon : line.head? = some ':'
  · have hdata : isData line = false := by
      obtain ⟨rest, rfl⟩ : ∃ rest, line = ':' :: rest := by
        cases line with
        | nil => cases hcolon
        | cons c rest =>
          obtain rfl := Option.some.inj hcolon
          exact ⟨rest, rfl⟩
      rfl
    rw [if_pos hcolon, hdata, if_neg (by decide), List.append_nil]
  · rw [if_neg hcolon]
    cases hdata : isData line with
    | true => rfl
    | false =>
      simp only [Bool.false_eq_true, if_false]
      rw [List.append_nil]

lemma dispatch_counted (f : Frame) (n : ℕ) : dispatch web parse { f with frameBytes := n } =
    andThen (dispatch web parse { f with frameBytes := 0 }) fun g =>
      ([], .ok { g with frameBytes := if f.dataLines = [] then n else 0 }) := by
  rw [dispatch, dispatch]
  split
  · rfl
  · dsimp only
    split
    · rfl
    · rfl
    · split <;> rfl

lemma parser_lawful : (parser web parse).Lawful where
  start := rfl
  frameBytes _ _ := rfl
  count _ _ _ := rfl
  counted f n line := by
    by_cases hline : line = []
    · subst hline
      refine (dispatch_counted f n).trans (congrArg _ (funext fun g => ?_))
      by_cases hnone : f.dataLines = [] <;> simp [parser, hnone]
    · have hkept : (parser web parse).resets ((parser web parse).count 0 f) line = false := by simp [parser, hline]
      rw [hkept]
      refine (consumeLine_filled hline).trans (Eq.symm ?_)
      exact (congrArg (andThen · _) (consumeLine_filled hline)).trans rfl

lemma consume_filled (h : ∀ line ∈ ls, isBlank line = false) :
    (parser web parse).consumeLines f ls = ([], .ok { f with dataLines := f.dataLines ++ dataOf ls }) ∧
      (parser web parse).resetCount f ls = 0 := by
  induction ls generalizing f with
  | nil =>
    change ([], Except.ok f) = ([], Except.ok { f with dataLines := f.dataLines ++ [] }) ∧ 0 = 0
    rw [List.append_nil]
    exact ⟨rfl, rfl⟩
  | cons line ls ih =>
    obtain ⟨hline, hrest⟩ := List.forall_mem_cons.mp h
    have hne : dropReturn line ≠ [] := of_decide_eq_false hline
    have hconsume : (parser web parse).consumeLine f (dropReturn line) = _ := consumeLine_filled hne
    have hkept : (parser web parse).resets f (dropReturn line) = false := by simp [parser, hne]
    obtain ⟨hmore, hcount⟩ := @ih { f with
      dataLines := f.dataLines ++ if isData (dropReturn line) then [fieldValue (dropReturn line)] else [] } hrest
    have hdata : dataOf (line :: ls) =
        (if isData (dropReturn line) then [fieldValue (dropReturn line)] else []) ++ dataOf ls := by
      rw [dataOf, List.map_cons, List.filter_cons]
      split <;> rfl
    rw [LineReader.consumeLines, LineReader.resetCount, hkept, andThen_ok hconsume, hmore, hconsume, hdata,
      ← List.append_assoc]
    exact ⟨rfl, (Nat.zero_add _).trans hcount⟩

lemma IsItem.consume (h : IsItem web parse item) :
    (parser web parse).consumeLines ⟨[], 0⟩ (lines item.text).1 = (item.event.toList, .ok ⟨[], 0⟩) ∧
      (parser web parse).resetCount ⟨[], 0⟩ (lines item.text).1 = item.event.toList.length := by
  cases h with
  | frame text event filled blank hlines hblank hfilled hdata hparse hevent =>
    obtain ⟨hconsume, hcount⟩ := @consume_filled web parse ⟨[], 0⟩ _ hfilled
    have hdispatch : (parser web parse).consumeLine ⟨dataOf filled, 0⟩ [] = ([event], .ok ⟨[], 0⟩) := by
      change dispatch web parse ⟨dataOf filled, 0⟩ = _
      rw [dispatch, if_neg hdata]
      dsimp only
      rw [hparse]
      exact if_pos hevent
    have hresets : (parser web parse).resets ⟨dataOf filled, 0⟩ [] = true := by simp [parser, hdata]
    rw [hlines, LineReader.consumeLines_append, LineReader.resetCount_append hconsume, andThen_ok hconsume, hcount,
      LineReader.consumeLines, LineReader.resetCount, of_decide_eq_true hblank]
    dsimp only [List.nil_append]
    rw [hdispatch, hresets]
    exact ⟨rfl, rfl⟩
  | comment text line hlines hcolon =>
    have hdata : isData (dropReturn line) = false := by
      cases hd : dropReturn line with
      | nil => rfl
      | cons c rest =>
        rw [hd] at hcolon
        obtain rfl := Option.some.inj hcolon
        rfl
    have hline : ∀ l ∈ [line], isBlank l = false := by
      intro l hl
      rw [List.mem_singleton.mp hl]
      refine decide_eq_false fun hnil => ?_
      rw [hnil] at hcolon
      cases hcolon
    obtain ⟨hconsume, hcount⟩ := @consume_filled web parse ⟨[], 0⟩ _ hline
    have hnone : dataOf [line] = [] := by simp [dataOf, hdata]
    rw [hnone] at hconsume
    rw [hlines]
    exact ⟨hconsume, hcount⟩
  | blank text line hlines hblank =>
    rw [hlines, LineReader.consumeLines, LineReader.resetCount, of_decide_eq_true hblank]
    exact ⟨rfl, rfl⟩

lemma consume_items (h : ∀ item ∈ items, IsItem web parse item) :
    (parser web parse).consumeLines ⟨[], 0⟩ (items.flatMap fun item => (lines item.text).1) =
      (eventsOf items, .ok ⟨[], 0⟩) ∧
    (parser web parse).resetCount ⟨[], 0⟩ (items.flatMap fun item => (lines item.text).1) =
      (eventsOf items).length := by
  induction items with
  | nil => exact ⟨rfl, rfl⟩
  | cons item items ih =>
    obtain ⟨hitem, hitems⟩ := List.forall_mem_cons.mp h
    obtain ⟨hconsume, hcount⟩ := hitem.consume
    obtain ⟨hmore, hcount'⟩ := ih hitems
    have hevents : eventsOf (item :: items) = item.event.toList ++ eventsOf items := by
      rw [eventsOf, List.filterMap_cons]
      cases item.event <;> rfl
    rw [List.flatMap_cons, LineReader.consumeLines_append, LineReader.resetCount_append hconsume,
      andThen_ok hconsume,
      hmore, hcount, hcount', hevents, List.length_append]
    exact ⟨rfl, rfl⟩

end Items

section Chunks

variable {web : Web} {parse : String → Option StreamValue} {items : List Item} {bytes : List UInt8}
  {chunks : List (List UInt8)} {i : ℕ}

variable (items chunks) in
def Exceeds (i : ℕ) : Prop := ∃ j ≤ i,
  eventsIn items (LineReader.offset chunks j) = eventsIn items (LineReader.offset chunks i) ∧
    LineReader.offset chunks j + responseLimitBytes < LineReader.offset chunks (i + 1)

lemma completed_items (items : List Item) (n : ℕ) : completed (items.map Item.text) n =
    (items.take (completed (items.map Item.text) n).length).map Item.text := by
  rw [List.map_take]
  exact List.prefix_iff_eq_take.mp (completed_front _ n)

lemma eventsIn_mono {n m : ℕ} (h : n ≤ m) : eventsIn items n <+: eventsIn items m := by
  refine List.IsPrefix.filterMap _ ?_
  exact List.take_prefix_take_left (completed_mono (items.map Item.text) h).length_le

variable (hitems : ∀ item ∈ unmarkedItems items, IsItem web parse item)

include hitems

lemma blocks : ∀ t ∈ unmarked (items.map Item.text), IsBlock t := by
  rw [← texts_unmarked]
  intro t ht
  obtain ⟨item, hitem, rfl⟩ := List.mem_map.mp ht
  exact (hitems item hitem).isBlock

lemma consume_cut (hcut : bytes <+: encode (streamText items)) :
    (∃ d, (parser web parse).consumeLines ⟨[], 0⟩ (LineReader.linesOf bytes) =
      (eventsIn items bytes.length, .ok ⟨d, 0⟩)) ∧
    (parser web parse).resetCount ⟨[], 0⟩ (LineReader.linesOf bytes) = (eventsIn items bytes.length).length := by
  obtain ⟨tail, hlines, htail⟩ := linesOf_completed (blocks hitems) hcut
  rw [completed_items, ← texts_unmarked, unmarked_take, List.flatMap_map] at hlines
  have hsome : ∀ item ∈ (unmarkedItems items).take (completed (items.map Item.text) bytes.length).length,
      IsItem web parse item := fun item hitem => hitems item (List.mem_of_mem_take hitem)
  obtain ⟨hconsume, hcount⟩ := consume_items hsome
  obtain ⟨hrest, hnone⟩ := @consume_filled web parse ⟨[], 0⟩ _ htail
  rw [← unmarked_take, eventsOf_unmarked, unmarked_take, ← eventsIn] at hconsume hcount
  rw [hlines, LineReader.consumeLines_append, LineReader.resetCount_append hconsume, andThen_ok hconsume,
    hrest, hcount,
    hnone, List.append_nil]
  exact ⟨⟨_, rfl⟩, rfl⟩

variable (hchunks : chunks.flatten = encode (streamText items))

include hchunks

lemma consume_take (i : ℕ) : (∃ d, (parser web parse).consumed chunks i =
      (eventsIn items (LineReader.offset chunks i), .ok ⟨d, 0⟩)) ∧
    (parser web parse).resetsBy chunks i = (eventsIn items (LineReader.offset chunks i)).length := by
  refine consume_cut hitems ?_
  rw [← hchunks]
  exact ⟨(chunks.drop i).flatten, by rw [← List.flatten_append, List.take_append_drop]⟩

lemma exceeds_iff (i : ℕ) : (parser web parse).Exceeds chunks i ↔ Exceeds items chunks i := by
  obtain ⟨⟨d, hd⟩, hcount⟩ := consume_take hitems hchunks i
  constructor
  · rintro ⟨-, j, hj, hsame, hlarge⟩
    rw [(consume_take hitems hchunks j).2, hcount] at hsame
    exact ⟨j, hj, (eventsIn_mono (LineReader.offset_mono hj)).eq_of_length hsame, hlarge⟩
  · rintro ⟨j, hj, hsame, hlarge⟩
    refine ⟨⟨_, congrArg Prod.snd hd⟩, j, hj, ?_, hlarge⟩
    rw [(consume_take hitems hchunks j).2, hcount, hsame]

lemma parse_spec :
    ((∃ i < chunks.length, Exceeds items chunks i) ∧
      ∃ out, parseConnectorEventStream web parse chunks = (out, .error .tooLarge)) ∨
    ((∀ i < chunks.length, ¬ Exceeds items chunks i) ∧
      parseConnectorEventStream web parse chunks = (eventsOf items, .ok ())) := by
  simp only [← exceeds_iff hitems hchunks]
  obtain ⟨⟨d, hd⟩, -⟩ := consume_take hitems hchunks chunks.length
  rcases (@parser_lawful web parse).readChunks chunks with
    ⟨stop, hstop, hexceeds, -, hread⟩ | ⟨hfits, ⟨r, hread, hat⟩ | ⟨e, -, herror⟩⟩
  · refine Or.inl ⟨⟨stop, hstop, hexceeds⟩, ((parser web parse).consumed chunks stop).1, ?_⟩
    rw [parseConnectorEventStream, andThen_error hread]
    rfl
  · refine Or.inr ⟨hfits, ?_⟩
    have hwhole := lines_whole (blocks hitems)
    rw [← texts_unmarked, List.flatMap_map, ← streamText] at hwhole
    have hbuffer := hat.buffer
    have hpending := congrArg Decoder.pending hat.decoder
    rw [List.take_length, hchunks, hwhole] at hbuffer
    rw [List.take_length, hchunks, after_encode] at hpending
    have hrest : r.buffer ++ flush r.decoder = [] := by rw [hbuffer, flush, if_pos hpending, List.append_nil]
    have hend : (parser web parse).consumed chunks chunks.length = (eventsOf items, .ok ⟨[], 0⟩) := by
      rw [LineReader.consumed, List.take_length, hchunks, LineReader.linesOf, hwhole, ← eventsOf_unmarked]
      exact (consume_items hitems).1
    obtain ⟨g, hg, hcurrent⟩ := hat.current
    rw [hend] at hg hread
    obtain rfl := Except.ok.inj hg
    have hnone : r.current.dataLines = [] := by
      rw [hcurrent]
      rfl
    have hfinish : finish web parse r = ([], .ok ()) := by
      rw [finish, if_pos hrest, andThen_ok rfl, dispatch, if_pos hnone]
      rfl
    rw [parseConnectorEventStream, andThen_ok hread, hfinish, List.append_nil]
  · rw [hd] at herror
    cases herror

end Chunks

section Faithful

variable (web : Web) (parse : String → Option StreamValue) (items : List Item)
  (chunks : List (List UInt8))

def Oversized : Prop := ∃ item ∈ items, item.event.isSome = true ∧ responseLimitBytes < size item.text

/-- The parser yields the events of the frames, or throws where a frame is too large. -/
def Faithful : Prop := parseConnectorEventStream web parse chunks = (eventsOf items, .ok ()) ∨
  (∃ e, (parseConnectorEventStream web parse chunks).2 = .error e) ∧ Oversized items

/-- The stream is read faithfully if and only if a frame is too large, or no chunks between two events are. -/
theorem stream_faithful_iff (web : Web) (parse : String → Option StreamValue) (items : List Item)
    (hitems : ∀ item ∈ unmarkedItems items, IsItem web parse item) (chunks : List (List UInt8))
    (hchunks : chunks.flatten = encode (streamText items)) :
    Faithful web parse items chunks ↔ Oversized items ∨ ∀ i < chunks.length, ¬ Exceeds items chunks i := by
  rcases parse_spec hitems hchunks with ⟨⟨i, hi, hexceeds⟩, out, hparse⟩ | ⟨hnone, hparse⟩
  · rw [Faithful, hparse]
    constructor
    · rintro (hf | ⟨-, hover⟩)
      · cases hf
      · exact Or.inl hover
    · rintro (hover | hnone)
      · exact Or.inr ⟨⟨.tooLarge, rfl⟩, hover⟩
      · exact absurd hexceeds (hnone i hi)
  · exact iff_of_true (Or.inl hparse) (Or.inr hnone)

variable {web parse items chunks}

lemma not_exceeds_of_small (hitems : ∀ item ∈ unmarkedItems items, IsItem web parse item)
    (hchunks : chunks.flatten = encode (streamText items))
    (h : chunks.flatten.length ≤ responseLimitBytes) (i : ℕ) :
    ¬ Exceeds items chunks i := by
  rw [← exceeds_iff hitems hchunks]
  exact LineReader.not_exceeds_of_small h i

lemma unmarkedItems_eq (h : ∀ item ∈ items, item.text.head? ≠ some '\uFEFF') : unmarkedItems items = items := by
  cases items with
  | nil => rfl
  | cons item items => rw [unmarkedItems, dropMark_eq (h item List.mem_cons_self)]

lemma percentEncoded_ne_nil (u : UInt16) : [u] ≠ [] := List.cons_ne_nil u []

def plainWeb : Web := ⟨fun _ => none, fun u => [u], percentEncoded_ne_nil⟩

def done : ConnectorEvent := ⟨.public, text "c", text "r", none, .runCompleted⟩

def doneText : String := "\x7b\"type\":\"run.completed\",\"visibility\":\"public\"," ++
  "\"conversationId\":\"c\",\"runId\":\"r\",\"data\":\x7b\x7d\x7d"

def doneParse (value : String) : Option StreamValue := if value = doneText then some (.event done) else none

def doneLine : List Char := "data: ".toList ++ doneText.toList ++ ['\r']

def keepAlive : Item := ⟨": ping\n".toList, none⟩

def doneItems : List Item :=
  [⟨'\uFEFF' :: keepAlive.text, none⟩, ⟨doneLine ++ "\n\r\n".toList, some done⟩, keepAlive]

def donePieces : List (List UInt8) :=
  [(encode (streamText doneItems)).take 2, ((encode (streamText doneItems)).drop 2).take 50,
    ((encode (streamText doneItems)).drop 2).drop 50]

lemma isItem_keepAlive : IsItem web parse keepAlive :=
  .comment _ ": ping".toList (by decide) (by decide)

lemma isItem_done : ∀ item ∈ unmarkedItems doneItems, IsItem plainWeb doneParse item := by
  intro item hitem
  rcases List.mem_cons.mp hitem with rfl | hitem
  · exact isItem_keepAlive
  · rcases List.mem_cons.mp hitem with rfl | hitem
    · refine .frame _ done [doneLine] ['\r'] (by decide +kernel) (by decide) ?_ (by decide +kernel) ?_ (by decide)
      · decide +kernel
      · exact if_pos (by decide +kernel)
    · rw [List.mem_singleton.mp hitem]
      exact isItem_keepAlive

lemma donePieces_flatten : donePieces.flatten = encode (streamText doneItems) := by
  simp only [donePieces, List.flatten_cons, List.flatten_nil, List.append_nil]
  rw [List.take_append_drop, List.take_append_drop]

theorem done_in_pieces : Faithful plainWeb doneParse doneItems donePieces := by
  refine (stream_faithful_iff plainWeb doneParse doneItems isItem_done donePieces donePieces_flatten).mpr
    (Or.inr fun i _ => not_exceeds_of_small isItem_done donePieces_flatten ?_ i)
  decide +kernel

def keepAlives : List Item := List.replicate 149797 keepAlive

theorem kept_alive_fails : (∀ item ∈ unmarkedItems keepAlives, IsItem plainWeb doneParse item) ∧
    (List.replicate 149797 (encode keepAlive.text)).flatten = encode (streamText keepAlives) ∧
    ¬ Faithful plainWeb doneParse keepAlives (List.replicate 149797 (encode keepAlive.text)) := by
  have hitems : ∀ item ∈ unmarkedItems keepAlives, IsItem plainWeb doneParse item := by
    rw [unmarkedItems_eq fun item hitem => by rw [List.eq_of_mem_replicate hitem]; decide]
    intro item hitem
    rw [List.eq_of_mem_replicate hitem]
    exact isItem_keepAlive
  have hchunks : (List.replicate 149797 (encode keepAlive.text)).flatten = encode (streamText keepAlives) := by
    rw [streamText, encode_flatten, keepAlives, List.map_replicate, List.map_replicate]
  have hnone : ∀ n, eventsIn keepAlives n = [] := by
    intro n
    refine List.filterMap_eq_nil_iff.mpr fun item hitem => ?_
    rw [List.eq_of_mem_replicate (List.mem_of_mem_take hitem)]
    rfl
  have hover : ¬ Oversized keepAlives := by
    rintro ⟨item, hitem, hevent, -⟩
    rw [List.eq_of_mem_replicate hitem] at hevent
    cases hevent
  have hexceeds : Exceeds keepAlives (List.replicate 149797 (encode keepAlive.text)) 149796 := by
    refine ⟨0, Nat.zero_le _, (hnone _).trans (hnone _).symm, ?_⟩
    have hlength : (encode keepAlive.text).length = 7 := by decide
    have hzero : LineReader.offset (List.replicate 149797 (encode keepAlive.text)) 0 = 0 := rfl
    rw [hzero, LineReader.offset, List.take_replicate, List.length_flatten, List.map_replicate, hlength,
      List.sum_replicate_nat]
    decide
  refine ⟨hitems, hchunks, ?_⟩
  rcases parse_spec hitems hchunks with ⟨-, out, hparse⟩ | ⟨hfits, -⟩
  · rintro (hf | ⟨-, h⟩)
    · have herror := congrArg Prod.snd (hparse.symm.trans hf)
      cases herror
    · exact hover h
  · exact absurd hexceeds (hfits 149796 (by rw [List.length_replicate]; decide))

end Faithful

end ChatCore.Connectors.NativeStream
