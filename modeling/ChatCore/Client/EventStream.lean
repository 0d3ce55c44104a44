import ChatCore.Protocol.Cursors
import ChatCore.Services.EventStore
import ChatCore.Streaming.Blocks

namespace ChatCore.Client.EventStream

open Protocol Services Streaming EventStore

section Schema

def eventType (event : PublicConversationEvent) : String := match event.body with
  | .event body => body.type
  | .syncRequired => "sync.required"

/-- A date whose ISO string parses: `format: 'date-time'`. -/
def isDate (milliseconds : Int) : Bool :=
  decide (-8640000000000000 ≤ milliseconds) && decide (milliseconds ≤ 8640000000000000)

def isPublicConversationEvent (platform : Platform) (event : PublicConversationEvent) : Bool :=
  isOpaqueId event.eventId && decide (1 ≤ event.sequence) && decide ((event.sequence : Int) ≤ maxSafeInteger) &&
    isDate event.occurredAt && isOpaqueId event.conversationId && match event.body with
  | .event body => event.runId.any isOpaqueId && (match event.messageId with
      | some messageId => isOpaqueId messageId
      | none => !body.requiresMessageId) && isEventData platform body
  | .syncRequired => event.runId.all isOpaqueId && event.messageId.all isOpaqueId

end Schema

/-- What `JSON.parse` returns: of the shape of an event, or anything else. -/
inductive StreamValue
  | event (event : PublicConversationEvent)
  | other

structure EventJson where
  stringify : PublicConversationEvent → String
  parse : String → Option StreamValue

section Write

def frame (json : EventJson) (event : PublicConversationEvent) : String :=
  s!"id: {event.eventId}\nevent: {eventType event}\ndata: {json.stringify event}\n\n"

def stream (json : EventJson) (events : List PublicConversationEvent) : List Char :=
  events.flatMap fun event => (frame json event).toList

end Write

section Read

inductive StreamError
  | tooLarge
  | invalidJson
  | invalidEvent
  | mismatch
  deriving DecidableEq, Repr

def StreamError.message : StreamError → String
  | .tooLarge => "Event stream frame exceeds the maximum size."
  | .invalidJson => "Event stream contains invalid JSON."
  | .invalidEvent => "Invalid event stream response."
  | .mismatch => "Event stream framing does not match its event envelope."

structure Frame where
  eventId : List Char
  eventType : List Char
  dataLines : List (List Char)
  frameBytes : ℕ

def Frame.reset : Frame := ⟨[], [], [], 0⟩

abbrev Output (α : Type) := Streaming.Output StreamError PublicConversationEvent α

variable (platform : Platform) (json : EventJson)

def dispatch (f : Frame) : Output Frame :=
  if f.dataLines = [] then ([], .ok .reset)
  else match json.parse (String.ofList (['\n'].intercalate f.dataLines)) with
    | none => ([], .error .invalidJson)
    | some .other => ([], .error .invalidEvent)
    | some (.event event) =>
        if isPublicConversationEvent platform event = false then ([], .error .invalidEvent)
        else if f.eventId = [] ∨ f.eventType = [] ∨ event.eventId.toList ≠ f.eventId ∨
            (eventType event).toList ≠ f.eventType then ([], .error .mismatch)
        else ([event], .ok .reset)

def fieldValue (line : List Char) : List Char := match (line.dropWhile (· ≠ ':')).tail with
  | ' ' :: value => value
  | value => value

def consumeLine (f : Frame) (line : List Char) : Output Frame :=
  if line = [] then dispatch platform json f
  else if line.head? = some ':' then ([], .ok f)
  else
    let field := line.takeWhile (· ≠ ':')
    if field = "id".toList then ([], .ok { f with eventId := fieldValue line })
    else if field = "event".toList then ([], .ok { f with eventType := fieldValue line })
    else if field = "data".toList then ([], .ok { f with dataLines := f.dataLines ++ [fieldValue line] })
    else ([], .ok f)

-- a blank line dispatches the frame, and resets what is counted even where there are no data
def parser (maxFrameBytes : ℕ) : LineReader Frame PublicConversationEvent StreamError where
  start := .reset
  consumeLine := consumeLine platform json
  frameBytes := Frame.frameBytes
  count n f := { f with frameBytes := n }
  resets _ line := decide (line = [])
  limit := maxFrameBytes
  tooLarge := .tooLarge

def finish (r : Reader Frame) : Output Unit :=
  let buffer := r.buffer ++ flush r.decoder
  andThen
    (if buffer = [] then ([], .ok r.current) else consumeLine platform json r.current (dropReturn buffer)) fun f =>
    andThen (if f.dataLines = [] then ([], .ok f) else dispatch platform json f) fun _ => ([], .ok ())

def parseEventStream (maxFrameBytes : ℕ) (chunks : List (List UInt8)) : Output Unit :=
  andThen ((parser platform json maxFrameBytes).readChunks (parser platform json maxFrameBytes).reader chunks)
    (finish platform json)

end Read

section Sent

variable (platform : Platform)

/-- The events that are sent: published by the worker, read back from their rows, or asking to synchronize. -/
inductive Sent : PublicConversationEvent → Prop
  | live (value : ConnectorValue) (expected : ConnectorEventContext) (event : ConnectorEvent)
      (h : acceptedEvent platform value expected = some event) (hv : event.visibility = .public) (eventId : Id)
      (hid : isOpaqueId eventId = true) (sequence : ℕ) (hs : 1 ≤ sequence ∧ (sequence : Int) ≤ maxSafeInteger)
        (occurredAt : Int)
      (hd : isDate occurredAt = true) : Sent (PersistedEvent.toPublic ⟨event, eventId, sequence, occurredAt⟩)
  | stored (value : ConnectorValue) (expected : ConnectorEventContext) (event : ConnectorEvent)
      (h : acceptedEvent platform value expected = some event) (scope : Scope) (eventId : Id)
      (hid : isOpaqueId eventId = true) (sequence : ℕ) (hs : 1 ≤ sequence ∧ (sequence : Int) ≤ maxSafeInteger)
      (occurredAt : Timestamp) (hd : isDate (toISOString occurredAt) = true) :
      Sent (toConversationEvent (newEvent scope event sequence eventId occurredAt))
  | syncRequired (conversationId : Id) (hc : isOpaqueId conversationId = true)
      (conversation : Database.Conversation)
      (hs : (conversation.nextEventSequence : Int) ≤ maxSafeInteger) (stamp : SyncStamp)
      (hid : isOpaqueId stamp.eventId = true) (hd : isDate (toISOString stamp.occurredAt) = true) :
      Sent (syncRequiredEvent conversationId conversation stamp)

variable {platform} {event : PublicConversationEvent}

lemma accepted_isConnectorEvent {value : ConnectorValue} {expected : ConnectorEventContext}
    {event : ConnectorEvent}
    (h : acceptedEvent platform value expected = some event) : isConnectorEvent platform event = true := by
  cases value with
  | other => cases h
  | event e =>
    simp only [acceptedEvent, Option.ite_none_right_eq_some, Option.some.injEq, Bool.and_eq_true] at h
    obtain ⟨⟨hs, -⟩, rfl⟩ := h
    exact hs

lemma present_of_isOpaqueId {id : Id} (h : isOpaqueId id = true) : present id = some id := by
  refine if_neg ?_
  rintro rfl
  cases h

lemma present_messageId {event : ConnectorEvent} (h : isConnectorEvent platform event = true) :
    event.messageId.bind present = event.messageId := by
  cases hm : event.messageId with
  | none => rfl
  | some messageId =>
    simp only [isConnectorEvent, hm, Bool.and_eq_true] at h
    exact present_of_isOpaqueId h.1.2.2

lemma toConversationEvent_newEvent {event : ConnectorEvent} (h : isConnectorEvent platform event = true)
    (scope : Scope) (sequence : ℕ) (eventId : Id) (occurredAt : Timestamp) :
    toConversationEvent (newEvent scope event sequence eventId occurredAt) =
      PersistedEvent.toPublic ⟨event, eventId, sequence, toISOString occurredAt⟩ := by
  have hr : isOpaqueId event.runId = true := by
    simp only [isConnectorEvent, Bool.and_eq_true] at h
    exact h.1.1.2
  simp only [toConversationEvent, newEvent, PersistedEvent.toPublic, present_of_isOpaqueId hr, present_messageId h]

lemma isPublicConversationEvent_toPublic {event : ConnectorEvent} (h : isConnectorEvent platform event = true)
    {eventId : Id} (hid : isOpaqueId eventId = true) {sequence : ℕ}
    (hs : 1 ≤ sequence ∧ (sequence : Int) ≤ maxSafeInteger) {occurredAt : Int} (hd : isDate occurredAt = true) :
    isPublicConversationEvent platform (PersistedEvent.toPublic ⟨event, eventId, sequence, occurredAt⟩) = true := by
  simp only [isConnectorEvent, Bool.and_eq_true] at h
  obtain ⟨⟨⟨hc, hr⟩, hm⟩, hb⟩ := h
  simp only [isPublicConversationEvent, PersistedEvent.toPublic, hid, hs.1, hs.2, hd, hc, hb, hr, Option.any_some,
    decide_true, Bool.and_true, Bool.true_and]
  cases hmessage : event.messageId with
  | none =>
    rw [hmessage] at hm
    exact hm
  | some messageId =>
    rw [hmessage] at hm
    exact (Bool.and_eq_true_iff.mp hm).2

lemma Sent.checked (h : Sent platform event) : isPublicConversationEvent platform event = true := by
  cases h with
  | live value expected event h hv eventId hid sequence hs occurredAt hd =>
    exact isPublicConversationEvent_toPublic (accepted_isConnectorEvent h) hid hs hd
  | stored value expected event h scope eventId hid sequence hs occurredAt hd =>
    rw [toConversationEvent_newEvent (accepted_isConnectorEvent h)]
    exact isPublicConversationEvent_toPublic (accepted_isConnectorEvent h) hid hs hd
  | syncRequired conversationId hc conversation hs stamp hid hd =>
    have hmax : 1 ≤ maxSafeInteger ∧ ((conversation.nextEventSequence - 1 : ℕ) : Int) ≤ maxSafeInteger := by
      simp only [maxSafeInteger] at hs ⊢
      omega
    simpa [isPublicConversationEvent, syncRequiredEvent, hid, hd, hc] using hmax

lemma isOpaqueIdCharacter_printable {c : Char} (h : isOpaqueIdCharacter c = true) : c ≠ '\n' ∧ c ≠ '\r' := by
  constructor
  · rintro rfl
    exact absurd h (by decide)
  · rintro rfl
    exact absurd h (by decide)

lemma opaqueId_line {id : Id} (h : isOpaqueId id = true) :
    id.toList ≠ [] ∧ ∀ c ∈ id.toList, c ≠ '\n' ∧ c ≠ '\r' := by
  rw [isOpaqueId] at h
  cases hid : id.toList with
  | nil =>
    rw [hid] at h
    cases h
  | cons c cs =>
    rw [hid] at h
    simp only [Bool.and_eq_true, List.all_eq_true] at h
    refine ⟨List.cons_ne_nil _ _, fun d hd => isOpaqueIdCharacter_printable ?_⟩
    rcases List.mem_cons.mp hd with rfl | hd
    · simp only [isOpaqueIdCharacter, h.1.1, Bool.true_or]
    · exact h.1.2 d hd

lemma eventType_line (event : PublicConversationEvent) :
    (eventType event).toList ≠ [] ∧ ∀ c ∈ (eventType event).toList, c ≠ '\n' ∧ c ≠ '\r' := by
  have hall : (eventType event).toList ≠ [] ∧
    ((eventType event).toList.all fun c => c ≠ '\n' && c ≠ '\r') = true := by
    rw [eventType]
    cases event.body with
    | syncRequired => decide
    | event body => cases body <;> simp only [EventBody.type] <;> decide
  refine ⟨hall.1, fun c hc => ?_⟩
  simpa using List.all_eq_true.mp hall.2 c hc

lemma Sent.eventId_line (h : Sent platform event) :
    event.eventId.toList ≠ [] ∧ ∀ c ∈ event.eventId.toList, c ≠ '\n' ∧ c ≠ '\r' := by
  have hchecked := h.checked
  simp only [isPublicConversationEvent, Bool.and_eq_true] at hchecked
  exact opaqueId_line hchecked.1.1.1.1.1

end Sent

section Frames

variable {platform : Platform} {json : EventJson} {event : PublicConversationEvent} {f : Frame}

/-- `JSON.parse` inverts `JSON.stringify`, whose text has no raw line break; nothing that stops before its end
parses, and nothing that ends in what the decoder puts for half a character. -/
structure EventJson.Carries (json : EventJson) (event : PublicConversationEvent) : Prop where
  inverse : json.parse (json.stringify event) = some (.event event)
  unbroken : ∀ c ∈ (json.stringify event).toList, c ≠ '\n' ∧ c ≠ '\r'
  unfinished : ∀ text, text <+: (json.stringify event).toList → text ≠ (json.stringify event).toList →
    json.parse (String.ofList text) = none
  broken : ∀ text, text <+: (json.stringify event).toList → json.parse (String.ofList (text ++ ['\uFFFD'])) = none

def idLine (event : PublicConversationEvent) : List Char := 'i' :: 'd' :: ':' :: ' ' :: event.eventId.toList

def eventLine (event : PublicConversationEvent) : List Char :=
  'e' :: 'v' :: 'e' :: 'n' :: 't' :: ':' :: ' ' :: (eventType event).toList

def dataLine (json : EventJson) (event : PublicConversationEvent) : List Char :=
  'd' :: 'a' :: 't' :: 'a' :: ':' :: ' ' :: (json.stringify event).toList

def frameLines (json : EventJson) (event : PublicConversationEvent) : List (List Char) :=
  [idLine event, eventLine event, dataLine json event, []]

lemma frame_toList : (frame json event).toList =
    idLine event ++ '\n' :: (eventLine event ++ '\n' :: (dataLine json event ++ '\n' :: ['\n'])) := by
  simp only [frame, idLine, eventLine, dataLine, String.toList_append, List.append_assoc, List.cons_append]
  rfl

lemma stream_cons (events : List PublicConversationEvent) :
    stream json (event :: events) = (frame json event).toList ++ stream json events := List.flatMap_cons ..

structure Streamable (platform : Platform) (json : EventJson) (event : PublicConversationEvent) : Prop where
  sent : Sent platform event
  carried : json.Carries event

variable (h : Streamable platform json event)

include h

lemma Streamable.unbroken {line : List Char} (hl : line ∈ frameLines json event) :
    ∀ c ∈ line, c ≠ '\n' ∧ c ≠ '\r' := by
  intro c hc
  simp only [frameLines, List.mem_cons, List.not_mem_nil, or_false] at hl
  rcases hl with rfl | rfl | rfl | rfl
  · rw [idLine] at hc
    simp only [List.mem_cons] at hc
    rcases hc with rfl | rfl | rfl | rfl | hc
    any_goals decide
    exact h.sent.eventId_line.2 c hc
  · rw [eventLine] at hc
    simp only [List.mem_cons] at hc
    rcases hc with rfl | rfl | rfl | rfl | rfl | rfl | rfl | hc
    any_goals decide
    exact (eventType_line event).2 c hc
  · rw [dataLine] at hc
    simp only [List.mem_cons] at hc
    rcases hc with rfl | rfl | rfl | rfl | rfl | rfl | hc
    any_goals decide
    exact h.carried.unbroken c hc
  · cases hc

lemma Streamable.newline {line : List Char} (hl : line ∈ frameLines json event) : '\n' ∉ line :=
  fun hm => (h.unbroken hl _ hm).1 rfl

lemma Streamable.lines_frame (text : List Char) : lines ((frame json event).toList ++ text) =
    (frameLines json event ++ (lines text).1, (lines text).2) := by
  have hid : '\n' ∉ idLine event := h.newline (by simp [frameLines])
  have htype : '\n' ∉ eventLine event := h.newline (by simp [frameLines])
  have hdata : '\n' ∉ dataLine json event := h.newline (by simp [frameLines])
  simp only [frame_toList, List.append_assoc, List.cons_append, List.nil_append]
  rw [lines_line hid, lines_line htype, lines_line hdata]
  rfl

omit h

lemma lines_stream {events : List PublicConversationEvent} (h : ∀ event ∈ events, Streamable platform json event) :
    lines (stream json events) = (events.flatMap (frameLines json), []) := by
  induction events with
  | nil => rfl
  | cons event events ih =>
    rw [stream_cons, (h event List.mem_cons_self).lines_frame, ih fun e he => h e (List.mem_cons_of_mem _ he)]
    rfl

def Reached (json : EventJson) (event : PublicConversationEvent) (line : ℕ) (f : Frame) : Prop :=
  f.eventId = (if 1 ≤ line then event.eventId.toList else []) ∧
    f.eventType = (if 2 ≤ line then (eventType event).toList else []) ∧
    f.dataLines = if 3 ≤ line then [(json.stringify event).toList] else []

def Ready (json : EventJson) (f : Frame) (events : List PublicConversationEvent)
    (rest : List (List Char)) : Prop :=
  match events with
  | [] => rest = [] ∧ f.eventId = [] ∧ f.eventType = [] ∧ f.dataLines = []
  | event :: events => ∃ line, line < 4 ∧ Reached json event line f ∧
      rest = (frameLines json event).drop line ++ events.flatMap (frameLines json)

lemma Ready.of_fresh {events : List PublicConversationEvent}
    (h : f.eventId = [] ∧ f.eventType = [] ∧ f.dataLines = []) :
    Ready json f events (events.flatMap (frameLines json)) := by
  cases events with
  | nil => exact ⟨rfl, h⟩
  | cons event events => exact ⟨0, by decide, h, rfl⟩

lemma Ready.frameBytes {events : List PublicConversationEvent} {rest : List (List Char)}
    (h : Ready json f events rest) (n : ℕ) : Ready json { f with frameBytes := n } events rest := by
  cases events with
  | nil => exact h
  | cons event events => exact h

lemma dropReturn_eq {line : List Char} (h : '\r' ∉ line) : dropReturn line = line := by
  refine if_neg fun hl => h ?_
  exact List.mem_of_getLast? hl

lemma consumeLine_id (value : List Char) : consumeLine platform json f ('i' :: 'd' :: ':' :: ' ' :: value) =
    ([], .ok { f with eventId := value }) := rfl

lemma consumeLine_event (value : List Char) : consumeLine platform json f
    ('e' :: 'v' :: 'e' :: 'n' :: 't' :: ':' :: ' ' :: value) = ([], .ok { f with eventType := value }) := rfl

lemma consumeLine_data (value : List Char) : consumeLine platform json f
    ('d' :: 'a' :: 't' :: 'a' :: ':' :: ' ' :: value) =
      ([], .ok { f with dataLines := f.dataLines ++ [value] }) := rfl

lemma Streamable.dispatch (h : Streamable platform json event) (hr : Reached json event 3 f) :
    dispatch platform json f = ([event], .ok .reset) := by
  obtain ⟨hid, htype, hdata⟩ := hr
  have hmatch : ¬ (f.eventId = [] ∨ f.eventType = [] ∨ event.eventId.toList ≠ f.eventId ∨
      (eventType event).toList ≠ f.eventType) := by
    rw [hid, htype]
    simp [h.sent.eventId_line.1, (eventType_line event).1]
  have hparse : json.parse (String.ofList (['\n'].intercalate f.dataLines)) = some (.event event) := by
    rw [hdata]
    simpa [List.intercalate] using h.carried.inverse
  rw [EventStream.dispatch, if_neg (by rw [hdata]; simp), hparse]
  simp only [h.sent.checked, Bool.true_eq_false, if_false, if_neg hmatch]

lemma Ready.step {events : List PublicConversationEvent} {line : List Char} {rest : List (List Char)}
    (hs : ∀ event ∈ events, Streamable platform json event) (h : Ready json f events (line :: rest)) :
    ∃ out f' left, consumeLine platform json f (dropReturn line) = (out, .ok f') ∧ events = out ++ left ∧
      Ready json f' left rest := by
  cases events with
  | nil => cases h.1
  | cons event events =>
    obtain ⟨n, hn, hr, heq⟩ := h
    have hevent := hs event List.mem_cons_self
    have hmem : line ∈ frameLines json event := by
      interval_cases n <;> cases heq <;> simp [frameLines]
    rw [dropReturn_eq fun hm => (hevent.unbroken hmem _ hm).2 rfl]
    interval_cases n
    · cases heq
      exact ⟨[], _, event :: events, consumeLine_id _, rfl, 1, by decide, ⟨rfl, hr.2.1, hr.2.2⟩, rfl⟩
    · cases heq
      exact ⟨[], _, event :: events, consumeLine_event _, rfl, 2, by decide, ⟨hr.1, rfl, hr.2.2⟩, rfl⟩
    · cases heq
      refine ⟨[], _, event :: events, consumeLine_data _, rfl, 3, by decide, ⟨hr.1, hr.2.1, ?_⟩, rfl⟩
      change f.dataLines ++ [_] = _
      rw [hr.2.2]
      rfl
    · cases heq
      exact ⟨[event], _, events, hevent.dispatch hr, rfl, .of_fresh ⟨rfl, rfl, rfl⟩⟩

variable (maxFrameBytes : ℕ) in
lemma Ready.consumeLines {events : List PublicConversationEvent} {complete rest : List (List Char)}
    (hs : ∀ event ∈ events, Streamable platform json event) (h : Ready json f events (complete ++ rest)) :
    ∃ out f' left, (parser platform json maxFrameBytes).consumeLines f complete = (out, .ok f') ∧
      events = out ++ left ∧
      Ready json f' left rest := by
  induction complete generalizing f events with
  | nil => exact ⟨[], f, events, rfl, rfl, h⟩
  | cons line complete ih =>
    obtain ⟨out, f', left, hline, rfl, hready⟩ := h.step hs
    obtain ⟨out', f'', left', hlines, rfl, hready'⟩ :=
      ih (fun event he => hs event (List.mem_append_right _ he)) hready
    refine ⟨out ++ out', f'', left', ?_, (List.append_assoc ..).symm, hready'⟩
    have hconsume : (parser platform json maxFrameBytes).consumeLine f (dropReturn line) = (out, .ok f') := hline
    rw [LineReader.consumeLines, andThen_ok hconsume, hlines]

variable (platform json f) in
lemma consumeLine_quiet {line : List Char} (hne : line ≠ []) (hd : line.takeWhile (· ≠ ':') ≠ "data".toList) :
    ∃ f', consumeLine platform json f line = ([], .ok f') ∧ f'.dataLines = f.dataLines := by
  by_cases hc : line.head? = some ':'
  · exact ⟨f, (if_neg hne).trans (if_pos hc), rfl⟩
  · by_cases hid : line.takeWhile (· ≠ ':') = "id".toList
    · exact ⟨_, (if_neg hne).trans ((if_neg hc).trans (if_pos hid)), rfl⟩
    · by_cases he : line.takeWhile (· ≠ ':') = "event".toList
      · exact ⟨_, (if_neg hne).trans ((if_neg hc).trans ((if_neg hid).trans (if_pos he))), rfl⟩
      · exact ⟨f, (if_neg hne).trans ((if_neg hc).trans ((if_neg hid).trans ((if_neg he).trans (if_neg hd)))), rfl⟩

lemma Streamable.dispatch_cut (h : Streamable platform json event) (hr : Reached json event 2 f) {data : List Char}
    (hd : data <+: (json.stringify event).toList ∨
      ∃ text, text <+: (json.stringify event).toList ∧ data = text ++ ['\uFFFD']) :
    (EventStream.dispatch platform json { f with dataLines := f.dataLines ++ [data] }).1 <+: [event] := by
  have hlines : f.dataLines ++ [data] = [data] := by
    rw [hr.2.2]
    rfl
  by_cases hwhole : data = (json.stringify event).toList
  · have hreached : Reached json event 3 { f with dataLines := f.dataLines ++ [data] } := by
      refine ⟨hr.1, hr.2.1, ?_⟩
      change f.dataLines ++ [data] = _
      rw [hlines, hwhole]
      rfl
    rw [h.dispatch hreached]
  · have hparse : json.parse (String.ofList data) = none := by
      rcases hd with hd | ⟨text, ht, rfl⟩
      · exact h.carried.unfinished data hd hwhole
      · exact h.carried.broken text ht
    have hdispatch : EventStream.dispatch platform json { f with dataLines := f.dataLines ++ [data] } =
        ([], .error .invalidJson) := by
      rw [EventStream.dispatch, hlines]
      simp [List.intercalate, hparse]
    rw [hdispatch]
    exact List.nil_prefix

def Rest (line buffer : List Char) : Prop :=
  ∃ text, text <+: line ∧ (buffer = text ∨ buffer = text ++ ['\uFFFD'])

lemma Rest.cons {c : Char} {line buffer : List Char} (h : Rest (c :: line) buffer) :
    buffer = [] ∨ buffer = ['\uFFFD'] ∨ ∃ rest, buffer = c :: rest ∧ Rest line rest := by
  obtain ⟨text, ht, hb⟩ := h
  cases text with
  | nil =>
    rcases hb with rfl | rfl
    · exact Or.inl rfl
    · exact Or.inr (Or.inl rfl)
  | cons d text =>
    obtain ⟨rfl, htail⟩ := List.cons_prefix_cons.mp ht
    rcases hb with rfl | rfl
    · exact Or.inr (Or.inr ⟨text, rfl, text, htail, Or.inl rfl⟩)
    · exact Or.inr (Or.inr ⟨_, rfl, text, htail, Or.inr rfl⟩)

lemma Rest.unbroken {line buffer : List Char} (h : Rest line buffer) (hl : ∀ c ∈ line, c ≠ '\n' ∧ c ≠ '\r') :
    '\r' ∉ buffer := by
  obtain ⟨text, ht, hb⟩ := h
  have htext : '\r' ∉ text := fun hm => (hl _ (ht.subset hm)).2 rfl
  rcases hb with rfl | rfl
  · exact htext
  · simp [htext]

lemma Rest.not_data {c : Char} {line buffer : List Char} (h : Rest (c :: line) buffer) (hc : c ≠ 'd')
    (hne : buffer ≠ []) : buffer.takeWhile (· ≠ ':') ≠ "data".toList := by
  rcases h.cons with rfl | rfl | ⟨rest, rfl, -⟩
  · exact absurd rfl hne
  · decide
  · intro he
    by_cases hcolon : c = ':'
    · subst hcolon
      simp at he
    · rw [List.takeWhile_cons_of_pos (by simpa using hcolon)] at he
      exact hc (List.cons.inj he).1

variable (platform f) in
lemma Rest.data {buffer : List Char} (h : Rest (dataLine json event) buffer) (hne : buffer ≠ []) :
    (∃ f', consumeLine platform json f buffer = ([], .ok f') ∧ f'.dataLines = f.dataLines) ∨
    ∃ data, consumeLine platform json f buffer = ([], .ok { f with dataLines := f.dataLines ++ [data] }) ∧
      (data <+: (json.stringify event).toList ∨
        ∃ text, text <+: (json.stringify event).toList ∧ data = text ++ ['\uFFFD']) := by
  rcases h.cons with rfl | rfl | ⟨rest, rfl, h₁⟩
  · exact absurd rfl hne
  · exact Or.inl ⟨f, rfl, rfl⟩
  rcases h₁.cons with rfl | rfl | ⟨rest, rfl, h₂⟩
  · exact Or.inl ⟨f, rfl, rfl⟩
  · exact Or.inl ⟨f, rfl, rfl⟩
  rcases h₂.cons with rfl | rfl | ⟨rest, rfl, h₃⟩
  · exact Or.inl ⟨f, rfl, rfl⟩
  · exact Or.inl ⟨f, rfl, rfl⟩
  rcases h₃.cons with rfl | rfl | ⟨rest, rfl, h₄⟩
  · exact Or.inl ⟨f, rfl, rfl⟩
  · exact Or.inl ⟨f, rfl, rfl⟩
  rcases h₄.cons with rfl | rfl | ⟨rest, rfl, h₅⟩
  · exact Or.inr ⟨[], rfl, Or.inl List.nil_prefix⟩
  · exact Or.inl ⟨f, rfl, rfl⟩
  rcases h₅.cons with rfl | rfl | ⟨rest, rfl, text, ht, hb⟩
  · exact Or.inr ⟨[], rfl, Or.inl List.nil_prefix⟩
  · exact Or.inr ⟨['\uFFFD'], rfl, Or.inr ⟨[], List.nil_prefix, rfl⟩⟩
  refine Or.inr ⟨rest, consumeLine_data rest, ?_⟩
  rcases hb with rfl | rfl
  · exact Or.inl ht
  · exact Or.inr ⟨text, ht, rfl⟩

end Frames

section Chunks

variable {platform : Platform} {json : EventJson}

structure Reading (platform : Platform) (json : EventJson) (events : List PublicConversationEvent)
    (text : List Char)
    (more : List UInt8) (r : Reader Frame) : Prop where
  streamable : ∀ event ∈ events, Streamable platform json event
  bytes : r.decoder.pending ++ more = encode text
  waiting : decode r.decoder.pending = ([], r.decoder.pending)
  unbroken : '\n' ∉ r.buffer
  whole : (lines (r.buffer ++ text)).2 = []
  ready : Ready json r.current events (lines (r.buffer ++ text)).1

variable {events : List PublicConversationEvent} {text : List Char} {more bytes : List UInt8} {r : Reader Frame}
  (maxFrameBytes : ℕ)

lemma dispatch_counted (f : Frame) :
    dispatch platform json f = andThen (dispatch platform json f) fun g =>
      ([], .ok { g with frameBytes := 0 }) := by
  unfold dispatch
  split
  · rfl
  · split
    · rfl
    · rfl
    · split
      · rfl
      · split <;> rfl

lemma consumeLine_counted (f : Frame) (n : ℕ) {line : List Char} (hne : line ≠ []) :
    consumeLine platform json { f with frameBytes := n } line =
      andThen (consumeLine platform json { f with frameBytes := 0 } line) fun g =>
        ([], .ok { g with frameBytes := n }) := by
  rw [consumeLine, consumeLine, if_neg hne, if_neg hne]
  split
  · rfl
  · dsimp only
    split
    · rfl
    · split
      · rfl
      · split <;> rfl

lemma parser_lawful : (parser platform json maxFrameBytes).Lawful where
  start := rfl
  frameBytes _ _ := rfl
  count _ _ _ := rfl
  counted f n line := by
    by_cases hne : line = []
    · subst hne
      exact dispatch_counted _
    · have hkept : (if (parser platform json maxFrameBytes).resets
        ((parser platform json maxFrameBytes).count 0 f) line
          then 0 else n) = n := if_neg (by simpa [parser] using hne)
      rw [hkept]
      exact consumeLine_counted f n hne

variable (platform json) in
lemma dispatch_error (f : Frame) : (dispatch platform json f).2 ≠ .error .tooLarge := by
  unfold dispatch
  split
  · exact fun he => by cases he
  · split
    · exact fun he => by cases he
    · exact fun he => by cases he
    · split
      · exact fun he => by cases he
      · split <;> exact fun he => by cases he

variable (platform json) in
lemma consumeLine_error (f : Frame) (line : List Char) :
    (consumeLine platform json f line).2 ≠ .error .tooLarge := by
  rw [consumeLine]
  split
  · exact dispatch_error platform json f
  · split
    · exact fun he => by cases he
    · dsimp only
      split
      · exact fun he => by cases he
      · split
        · exact fun he => by cases he
        · split <;> exact fun he => by cases he

lemma finish_error (r : Reader Frame) : (finish platform json r).2 ≠ .error .tooLarge := by
  have hlast : ∀ f : Frame, (andThen (if f.dataLines = [] then ([], .ok f) else dispatch platform json f)
      fun _ => ([], .ok ()) : Output Unit).2 ≠ .error .tooLarge := by
    intro f
    split
    · exact fun he => by cases he
    · rcases hd : dispatch platform json f with ⟨out, e | g⟩
      · have hne := dispatch_error platform json f
        rw [hd] at hne
        exact fun he => hne (congrArg _ (Except.error.inj he))
      · exact fun he => by cases he
  rw [finish]
  split
  · exact hlast _
  · rcases hline : consumeLine platform json r.current (dropReturn (r.buffer ++ flush r.decoder)) with ⟨out, e | g⟩
    · have hne := consumeLine_error platform json r.current
        (dropReturn (r.buffer ++ flush r.decoder))
      rw [hline] at hne
      exact fun he => hne (congrArg _ (Except.error.inj he))
    · exact hlast g

lemma raises_iff_exceeds (chunks : List (List UInt8)) :
    (parseEventStream platform json maxFrameBytes chunks).2 = .error .tooLarge ↔
      ∃ i < chunks.length, (parser platform json maxFrameBytes).Exceeds chunks i := by
  rcases (@parser_lawful platform json maxFrameBytes).readChunks chunks with
    ⟨stop, hstop, hexceeds, -, hread⟩ | ⟨hfits, ⟨r, hread, -⟩ | ⟨e, hread, herror⟩⟩
  · rw [parseEventStream, hread]
    exact iff_of_true rfl ⟨stop, hstop, hexceeds⟩
  · rw [parseEventStream, andThen_ok hread]
    exact iff_of_false (finish_error r) fun ⟨i, hi, hexceeds⟩ => hfits i hi hexceeds
  · rw [parseEventStream, andThen_error hread]
    refine iff_of_false (fun he => ?_) fun ⟨i, hi, hexceeds⟩ => hfits i hi hexceeds
    obtain rfl := Except.error.inj he
    exact LineReader.consumeLines_error (consumeLine_error platform json) herror

lemma fits_whole (chunks : List (List UInt8)) :
    (parseEventStream platform json chunks.flatten.length chunks).2 ≠ .error .tooLarge := by
  rw [Ne, raises_iff_exceeds]
  rintro ⟨i, -, hexceeds⟩
  exact LineReader.not_exceeds_of_small (Nat.le_refl chunks.flatten.length) i hexceeds

lemma textOf_front (hcut : bytes <+: encode (stream json events)) : textOf bytes = (decode bytes).1 := by
  refine dropMark_eq fun hmark => ?_
  obtain ⟨rest, hrest⟩ := decode_front hcut
  have hhead : (stream json events).head? = some '\uFEFF' := by
    rw [← hrest, List.head?_append, hmark]
    rfl
  cases events with
  | nil => cases hhead
  | cons event events =>
    rw [stream_cons, frame_toList] at hhead
    cases hhead

lemma consume_front (h : ∀ event ∈ events, Streamable platform json event)
    (hcut : bytes <+: encode (stream json events)) : ∃ out f left text,
      (parser platform json maxFrameBytes).consumeLines .reset (LineReader.linesOf bytes) = (out, .ok f) ∧
        events = out ++ left ∧ (decode bytes).1 ++ text = stream json events ∧
          (lines ((lines (textOf bytes)).2 ++ text)).2 = [] ∧
            Ready json f left (lines ((lines (textOf bytes)).2 ++ text)).1 := by
  obtain ⟨text, htext⟩ := decode_front hcut
  have hlines := lines_append (textOf bytes) text
  rw [textOf_front hcut, htext, lines_stream h, ← textOf_front hcut] at hlines
  obtain ⟨hready, hwhole⟩ := Prod.mk.inj hlines
  have hfresh : Ready json .reset events (events.flatMap (frameLines json)) := .of_fresh ⟨rfl, rfl, rfl⟩
  rw [hready] at hfresh
  obtain ⟨out, f, left, hconsume, hout, hleft⟩ := hfresh.consumeLines maxFrameBytes h
  exact ⟨out, f, left, text, hconsume, hout, htext, hwhole.symm, hleft⟩

lemma reads_front (h : ∀ event ∈ events, Streamable platform json event) {chunks : List (List UInt8)}
    (hchunks : chunks.flatten ++ more = encode (stream json events)) :
    (∃ out, parseEventStream platform json maxFrameBytes chunks = (out, .error .tooLarge) ∧ out <+: events) ∨
    ∃ out r left text, parseEventStream platform json maxFrameBytes chunks =
      (out ++ (finish platform json r).1, (finish platform json r).2) ∧ events = out ++ left ∧
        Reading platform json left text more r := by
  have hfront : ∀ i, (chunks.take i).flatten <+: encode (stream json events) := by
    intro i
    rw [← hchunks]
    conv_rhs => rw [← List.take_append_drop i chunks]
    rw [List.flatten_append, List.append_assoc]
    exact List.prefix_append _ _
  rcases (@parser_lawful platform json maxFrameBytes).readChunks chunks with ⟨stop, -, -, -, hread⟩ | ⟨-, hread⟩
  · left
    obtain ⟨out, f, left, text, hconsume, rfl, -⟩ := consume_front maxFrameBytes h (hfront stop)
    have hconsumed : (parser platform json maxFrameBytes).consumed chunks stop = (out, .ok f) := hconsume
    rw [hconsumed] at hread
    exact ⟨out, by rw [parseEventStream, hread]; rfl, List.prefix_append _ _⟩
  · right
    obtain ⟨out, f, left, text, hconsume, rfl, htext, hwhole, hready⟩ :=
      consume_front maxFrameBytes h (hfront chunks.length)
    have hconsumed : (parser platform json maxFrameBytes).consumed chunks chunks.length = (out, .ok f) := hconsume
    rw [hconsumed] at hread
    rcases hread with ⟨r, hread, hat⟩ | ⟨e, -, herror⟩
    · refine ⟨out, r, left, text, by rw [parseEventStream, andThen_ok hread], rfl, ?_⟩
      obtain ⟨g, hg, hcurrent⟩ := hat.current
      rw [hconsumed] at hg
      obtain rfl := Except.ok.inj hg
      have hbuffer := hat.buffer
      have hdecoder := congrArg Decoder.pending hat.decoder
      rw [List.take_length] at hbuffer hdecoder hwhole hready htext
      refine ⟨fun event he => h event (List.mem_append_right _ he), ?_, ?_, ?_, ?_, ?_⟩
      · rw [hdecoder]
        have henc := hchunks
        rw [encode_decode chunks.flatten, ← htext, encode_append, List.append_assoc] at henc
        exact List.append_cancel_left henc
      · rw [hdecoder]
        exact decode_waiting _
      · rw [hbuffer]
        exact rest_unbroken _
      · rw [hbuffer]
        exact hwhole
      · rw [hcurrent, hbuffer]
        exact hready.frameBytes _
    · cases herror

lemma finish_empty (hb : r.buffer ++ flush r.decoder = []) : (finish platform json r).1 =
    (if r.current.dataLines = [] then ([], .ok r.current)
      else dispatch platform json r.current : Output Frame).1 := by
  rw [finish, if_pos hb, andThen_ok rfl]
  change [] ++ (andThen _ _).1 = _
  rw [andThen_unit]
  rfl

lemma finish_line {out : List PublicConversationEvent} {f : Frame} (hb : r.buffer ++ flush r.decoder ≠ [])
    (hc : consumeLine platform json r.current (dropReturn (r.buffer ++ flush r.decoder)) = (out, .ok f)) :
    (finish platform json r).1 =
      out ++ (if f.dataLines = [] then ([], .ok f) else dispatch platform json f : Output Frame).1 := by
  rw [finish, if_neg hb, andThen_ok hc]
  change out ++ (andThen _ _).1 = _
  rw [andThen_unit]

lemma Reading.finish_whole (h : Reading platform json events text [] r) :
    events = [] ∧ finish platform json r = ([], .ok ()) := by
  have hbytes := h.bytes
  rw [List.append_nil] at hbytes
  obtain rfl := waiting_nil h.waiting hbytes
  have hlines := lines_of_unbroken h.unbroken
  have hwhole := h.whole
  have hready := h.ready
  rw [List.append_nil, hlines] at hwhole hready
  have hbuffer : r.buffer = [] := hwhole
  cases events with
  | cons event events =>
    obtain ⟨n, hn, -, heq⟩ := hready
    interval_cases n <;> cases heq
  | nil =>
    have hdata : r.current.dataLines = [] := hready.2.2.2
    have hrest : r.buffer ++ flush r.decoder = [] := by
      rw [hbuffer, flush, if_pos (show r.decoder.pending = [] from hbytes), List.append_nil]
    refine ⟨rfl, ?_⟩
    rw [finish, if_pos hrest, andThen_ok rfl, if_pos hdata]
    rfl

lemma rest_flush {line buffer : List Char} (decoder : Decoder) (h : buffer <+: line) :
    Rest line (buffer ++ flush decoder) := by
  refine ⟨buffer, h, ?_⟩
  by_cases hp : decoder.pending = []
  · exact Or.inl (by rw [flush, if_pos hp, List.append_nil])
  · exact Or.inr (by rw [flush, if_neg hp])

lemma finish_quiet (hdata : r.current.dataLines = []) (hcr : '\r' ∉ r.buffer ++ flush r.decoder)
    (hd : r.buffer ++ flush r.decoder ≠ [] → (r.buffer ++ flush r.decoder).takeWhile (· ≠ ':') ≠ "data".toList) :
    (finish platform json r).1 = [] := by
  by_cases hb : r.buffer ++ flush r.decoder = []
  · rw [finish_empty hb, if_pos hdata]
  · obtain ⟨f', hc, hf'⟩ := consumeLine_quiet platform json r.current hb (hd hb)
    rw [finish_line hb ((congrArg _ (dropReturn_eq hcr)).trans hc), if_pos (hf'.trans hdata)]
    rfl

lemma Reading.finish_cut (h : Reading platform json events text more r) :
    (finish platform json r).1 <+: events := by
  cases events with
  | nil =>
    obtain ⟨hlines, -, -, hdata⟩ := h.ready
    have hempty : r.buffer ++ text = [] := (lines_none hlines).symm.trans h.whole
    obtain ⟨hbuffer, rfl⟩ := List.append_eq_nil_iff.mp hempty
    have hpending : r.decoder.pending = [] := (List.append_eq_nil_iff.mp h.bytes).1
    rw [finish_empty (by rw [hbuffer, flush, if_pos hpending]; rfl), if_pos hdata]
  | cons event events =>
    obtain ⟨n, hn, hr, heq⟩ := h.ready
    have hevent := h.streamable event List.mem_cons_self
    refine (?_ : _ <+: [event]).trans ⟨events, rfl⟩
    interval_cases n
    · have hrest := rest_flush r.decoder (prefix_of_lines h.unbroken heq)
      have hcr := hrest.unbroken (hevent.unbroken (by simp [frameLines]))
      rw [finish_quiet hr.2.2 hcr fun hne => hrest.not_data (by decide) hne]
      exact List.nil_prefix
    · have hrest := rest_flush r.decoder (prefix_of_lines h.unbroken heq)
      have hcr := hrest.unbroken (hevent.unbroken (by simp [frameLines]))
      rw [finish_quiet hr.2.2 hcr fun hne => hrest.not_data (by decide) hne]
      exact List.nil_prefix
    · have hrest := rest_flush r.decoder (prefix_of_lines h.unbroken heq)
      have hcr := hrest.unbroken (hevent.unbroken (by simp [frameLines]))
      have hdata : r.current.dataLines = [] := hr.2.2
      by_cases hb : r.buffer ++ flush r.decoder = []
      · rw [finish_empty hb, if_pos hdata]
        exact List.nil_prefix
      · rcases hrest.data platform r.current hb with ⟨f', hc, hf'⟩ | ⟨data, hc, hd⟩
        · rw [finish_line hb ((congrArg _ (dropReturn_eq hcr)).trans hc), if_pos (hf'.trans hdata)]
          exact List.nil_prefix
        · rw [finish_line hb ((congrArg _ (dropReturn_eq hcr)).trans hc), if_neg (by simp)]
          exact hevent.dispatch_cut hr hd
    · have hrest := rest_flush r.decoder (prefix_of_lines h.unbroken heq)
      have hdata : r.current.dataLines ≠ [] := by
        rw [hr.2.2]
        simp
      obtain ⟨text, ht, hb⟩ := hrest
      rw [List.prefix_nil.mp ht] at hb
      rcases hb with hb | hb
      · rw [finish_empty hb, if_neg hdata, hevent.dispatch hr]
      · have hc : consumeLine platform json r.current (dropReturn (r.buffer ++ flush r.decoder)) =
            ([], .ok r.current) := by
          rw [hb]
          rfl
        rw [finish_line (by rw [hb]; simp) hc, if_neg hdata, hevent.dispatch hr]
        exact List.prefix_refl _

/-- Of the events that were written, the client gets the first ones, in order, once and unchanged, however the
bytes are cut and grouped; and all of them if the bytes are whole and no group is too large. -/
theorem event_stream_round_trip (platform : Platform) (json : EventJson) (maxFrameBytes : ℕ)
    (events : List PublicConversationEvent) (hsent : ∀ event ∈ events, Sent platform event)
    (hjson : ∀ event ∈ events, json.Carries event) (chunks : List (List UInt8))
    (hcut : chunks.flatten <+: encode (stream json events)) :
    (parseEventStream platform json maxFrameBytes chunks).1 <+: events ∧
      (∀ event ∈ (parseEventStream platform json maxFrameBytes chunks).1,
        isPublicConversationEvent platform event = true) ∧
      (chunks.flatten = encode (stream json events) →
        (parseEventStream platform json maxFrameBytes chunks).2 ≠ .error .tooLarge →
        parseEventStream platform json maxFrameBytes chunks = (events, .ok ())) := by
  have hstreamable : ∀ event ∈ events, Streamable platform json event :=
    fun event he => ⟨hsent event he, hjson event he⟩
  obtain ⟨more, hmore⟩ := hcut
  have hfront : (parseEventStream platform json maxFrameBytes chunks).1 <+: events ∧
      (chunks.flatten = encode (stream json events) →
        (parseEventStream platform json maxFrameBytes chunks).2 ≠ .error .tooLarge →
        parseEventStream platform json maxFrameBytes chunks = (events, .ok ())) := by
    rcases reads_front maxFrameBytes hstreamable hmore
      with ⟨out, hparse, hout⟩ | ⟨out, r, left, text, hparse, rfl, hr⟩
    · rw [hparse]
      exact ⟨hout, fun _ hne => absurd rfl hne⟩
    · refine ⟨?_, fun hwhole _ => ?_⟩
      · rw [hparse]
        exact (List.prefix_append_right_inj out).mpr hr.finish_cut
      · rw [hwhole] at hmore
        obtain rfl := List.append_right_eq_self.mp hmore
        obtain ⟨rfl, hf⟩ := hr.finish_whole
        rw [hparse, hf]
  exact ⟨hfront.1, fun event he => (hsent event (hfront.1.subset he)).checked, hfront.2⟩

end Chunks

section Example

def quiet : Platform := ⟨fun _ => "", fun _ => 0, fun _ => false⟩

def startRun : ConnectorEvent := ⟨.public, "c", "r", none, .runStarted "a", true⟩

def completeRun : ConnectorEvent := ⟨.public, "c", "r", none, .runCompleted, true⟩

def startedEvent : PublicConversationEvent := PersistedEvent.toPublic ⟨startRun, "d", 1, 0⟩

def completedEvent : PublicConversationEvent := PersistedEvent.toPublic ⟨completeRun, "e", 2, 0⟩

def startedText : List Char :=
  "\x7b\"type\":\"run.started\",\"visibility\":\"public\",\"conversationId\":\"c\",\"runId\":\"r\",".toList ++
    "\"data\":\x7b\"agentRef\":\"a\"\x7d,\"eventId\":\"d\",\"sequence\":1,".toList ++
    "\"occurredAt\":\"1970-01-01T00:00:00.000Z\"\x7d".toList

def completedText : List Char :=
  "\x7b\"type\":\"run.completed\",\"visibility\":\"public\",\"conversationId\":\"c\",\"runId\":\"r\",".toList ++
    "\"data\":\x7b\x7d,\"eventId\":\"e\",\"sequence\":2,\"occurredAt\":\"1970-01-01T00:00:00.000Z\"\x7d".toList

def jsonOf (first second : PublicConversationEvent) (text text' : List Char) : EventJson where
  stringify event := String.ofList (if event.sequence = first.sequence then text else text')
  parse value :=
    if value.toList = text then some (.event first) else if value.toList =
      text' then some (.event second) else none

section Texts

variable {first second : PublicConversationEvent} {text text' : List Char}

lemma jsonOf_parse {value : List Char} (h : value ≠ text) (h' : value ≠ text') :
    (jsonOf first second text text').parse (String.ofList value) = none := by
  simp only [jsonOf, String.toList_ofList, if_neg h, if_neg h']

variable (htexts : ¬ text <+: text' ∧ ¬ text' <+: text)
  (hchars : ∀ c ∈ text ++ text', c ≠ '\n' ∧ c ≠ '\r' ∧ c ≠ '\uFFFD')

include hchars in
lemma jsonOf_broken (value : List Char) :
    (jsonOf first second text text').parse (String.ofList (value ++ ['\uFFFD'])) = none := by
  refine jsonOf_parse (fun he => ?_) fun he => ?_
  · exact (hchars '\uFFFD' (List.mem_append_left _ (he ▸ by simp))).2.2 rfl
  · exact (hchars '\uFFFD' (List.mem_append_right _ (he ▸ by simp))).2.2 rfl

include htexts hchars

lemma jsonOf_carries_first : (jsonOf first second text text').Carries first := by
  have hstringify : (jsonOf first second text text').stringify first = String.ofList text := by simp [jsonOf]
  refine ⟨?_, ?_, ?_, fun value _ => jsonOf_broken hchars value⟩ <;> rw [hstringify]
  · simp [jsonOf]
  · rw [String.toList_ofList]
    intro c hc
    have hchar := hchars c (List.mem_append_left _ hc)
    exact ⟨hchar.1, hchar.2.1⟩
  · rw [String.toList_ofList]
    exact fun value hv hne => jsonOf_parse hne fun he => htexts.2 (he ▸ hv)

lemma jsonOf_carries_second (hne : second.sequence ≠ first.sequence) :
    (jsonOf first second text text').Carries second := by
  have hstringify : (jsonOf first second text text').stringify second = String.ofList text' :=
    by simp [jsonOf, hne]
  have hdistinct : text' ≠ text := fun he => htexts.2 (he ▸ List.prefix_rfl)
  refine ⟨?_, ?_, ?_, fun value _ => jsonOf_broken hchars value⟩ <;> rw [hstringify]
  · simp [jsonOf, hdistinct]
  · rw [String.toList_ofList]
    intro c hc
    have hchar := hchars c (List.mem_append_right _ hc)
    exact ⟨hchar.1, hchar.2.1⟩
  · rw [String.toList_ofList]
    exact fun value hv hne => jsonOf_parse (fun he => htexts.1 (he ▸ hv)) hne

end Texts

lemma runTexts : ¬ startedText <+: completedText ∧ ¬ completedText <+: startedText := by decide +kernel

lemma runTexts_characters : ∀ c ∈ startedText ++ completedText, c ≠ '\n' ∧ c ≠ '\r' ∧ c ≠ '\uFFFD' := by
  have hall : ((startedText ++ completedText).all fun c => c ≠ '\n' && c ≠ '\r' && c ≠ '\uFFFD') = true :=
    by decide +kernel
  intro c hc
  simpa [and_assoc] using List.all_eq_true.mp hall c hc

def runJson : EventJson := jsonOf startedEvent completedEvent startedText completedText

def runEvents : List PublicConversationEvent := [startedEvent, completedEvent]

lemma runEvents_sent : ∀ event ∈ runEvents, Sent quiet event := by
  intro event he
  rcases List.mem_cons.mp he with rfl | he
  · exact .live (.event startRun) ⟨"c", "r", "a"⟩ startRun (by decide) rfl "d" (by decide) 1
      (by decide) 0 (by decide)
  · rw [List.mem_singleton.mp he]
    exact .live (.event completeRun) ⟨"c", "r", "a"⟩ completeRun (by decide) rfl "e" (by decide) 2
      (by decide) 0 (by decide)

lemma runEvents_carried : ∀ event ∈ runEvents, runJson.Carries event := by
  intro event he
  rcases List.mem_cons.mp he with rfl | he
  · exact jsonOf_carries_first runTexts runTexts_characters
  · rw [List.mem_singleton.mp he]
    exact jsonOf_carries_second runTexts runTexts_characters (by decide)

def threePieces (bytes : List UInt8) : List (List UInt8) :=
  [bytes.take 10, (bytes.drop 10).take 290, (bytes.drop 10).drop 290]

lemma threePieces_flatten (bytes : List UInt8) : (threePieces bytes).flatten = bytes := by
  simp only [threePieces, List.flatten_cons, List.flatten_nil, List.append_nil]
  rw [List.take_append_drop, List.take_append_drop]

def runPieces : List (List UInt8) := threePieces (encode (stream runJson runEvents))

lemma runPieces_flatten : runPieces.flatten = encode (stream runJson runEvents) := threePieces_flatten _

theorem completed_in_pieces :
    (parseEventStream quiet runJson 1048576 (runPieces.take 2)).1 <+: runEvents ∧
      parseEventStream quiet runJson runPieces.flatten.length runPieces = (runEvents, .ok ()) := by
  refine ⟨(event_stream_round_trip quiet runJson 1048576 runEvents runEvents_sent runEvents_carried
    (runPieces.take 2) ?_).1, ?_⟩
  · rw [← runPieces_flatten]
    exact ⟨(runPieces.drop 2).flatten, by rw [← List.flatten_append, List.take_append_drop]⟩
  · exact (event_stream_round_trip quiet runJson runPieces.flatten.length runEvents runEvents_sent
      runEvents_carried
      runPieces (runPieces_flatten ▸ List.prefix_rfl)).2.2 runPieces_flatten
      (fits_whole runPieces)

end Example

end ChatCore.Client.EventStream
