import ChatCore.Connectors.Schemas

namespace ChatCore.Connectors.Haystack

structure Source where
  id : Option Text
  title : Option Text
  content : Option Text
  source_path : Option Text
  deriving DecidableEq, Repr

/-- `reason` may be absent or `null`. -/
structure Handoff where
  requested : Bool
  reason : Option (Option Text)
  deriving DecidableEq, Repr

structure Metadata where
  used_tools : Option (List Text)
  rag_sources : Option (List Source)
  handoff : Option Handoff
  deriving DecidableEq, Repr

inductive ResponseStatus
  | completed
  | failed
  | rejected
  | ignored
  deriving DecidableEq, Repr

/-- A response, less the properties that no schema names. -/
structure AgentResponse where
  request_id : Text
  tenant_key : Text
  agent_slug : Text
  channel : Text
  thread_id : Text
  text : Text
  subject : Option (Option Text)
  status : Option ResponseStatus
  metadata : Option Metadata
  deriving DecidableEq, Repr

def isSource (source : Source) : Bool :=
  source.id.all (lengthBetween 0 2000) && source.title.all (lengthBetween 0 500) &&
    source.content.all (lengthBetween 0 100000) && source.source_path.all (lengthBetween 0 2048)

def isMetadata (metadata : Metadata) : Bool :=
  metadata.used_tools.all (fun tools => tools.all (lengthBetween 1 500) && decide (tools.length ≤ 100)) &&
    metadata.rag_sources.all (fun sources => sources.all isSource && decide (sources.length ≤ 100)) &&
      metadata.handoff.all (fun handoff => handoff.reason.all (fun reason => reason.all (lengthBetween 0 2000)))

def isAgentResponse (response : AgentResponse) : Bool :=
  lengthBetween 1 2000 response.request_id && lengthBetween 1 200 response.tenant_key &&
    lengthBetween 1 200 response.agent_slug && lengthBetween 1 64 response.channel &&
    lengthBetween 1 2000 response.thread_id && lengthBetween 1 100000 response.text &&
    response.subject.all (fun subject => subject.all (lengthBetween 0 2000)) && response.metadata.all isMetadata

structure Execution where
  conversationId : Text
  runId : Text
  agentRef : Text
  assistantMessageId : Text
  deriving DecidableEq, Repr

def Execution.context (execution : Execution) : ConnectorEventContext :=
  ⟨execution.conversationId, execution.runId, execution.assistantMessageId⟩

def Execution.isValid (execution : Execution) : Bool :=
  isOpaqueId execution.conversationId && isOpaqueId execution.runId && isOpaqueId execution.agentRef &&
    isOpaqueId execution.assistantMessageId

structure CitationData where
  citationId : Text
  sourceId : Text
  title : Option Text
  url : Option Text
  excerpt : Option Text
  deriving DecidableEq, Repr

/-- `value ? { value } : {}` -/
def truthy (value : Option Text) : Option Text := value.filter fun s => !s.isEmpty

def numbered (stem : String) (index : ℕ) : Text := text stem ++ text (toString (index + 1))

def isSeparator (u : UInt16) : Bool := u == 95 || u == 45

/-- `value.replaceAll(/[_-]+/g, ' ')`, where `inside` says that the last unit was a separator. -/
def spaced (inside : Bool) : Text → Text
  | [] => []
  | u :: us =>
      if isSeparator u then if inside then spaced true us else 32 :: spaced true us
      else u :: spaced false us

def capitalized (web : Web) : Text → Text
  | [] => []
  | u :: us => web.toUpperCase u ++ us

def publicToolLabel (web : Web) (value : Text) : Text := slice (capitalized web (trim (spaced false value))) 0 200

def opaqueSourceId (value : Option Text) (index : ℕ) : Text :=
  match truthy (value.map trim) with
  | some normalized => if isOpaqueId normalized then normalized else numbered "haystack-source-" index
  | none => numbered "haystack-source-" index

def safeHttpsUrl (web : Web) (value : Option Text) : Option Text := do
  let url ← web.newURL (← truthy value)
  if url.protocol = text "https:" ∧ url.href.length ≤ 2048 then some url.href else none

def citationOf (web : Web) (index : ℕ) (source : Source) : CitationData where
  citationId := numbered "haystack-citation-" index
  sourceId := opaqueSourceId source.id index
  title := truthy (source.title.map trim)
  url := truthy (safeHttpsUrl web source.source_path)
  excerpt := truthy (source.content.map fun content => slice (trim content) 0 2000)

def ragSources (response : AgentResponse) : List Source := (response.metadata.bind Metadata.rag_sources).getD []

def usedTools (response : AgentResponse) : List Text := (response.metadata.bind Metadata.used_tools).getD []

def normalizedCitations (web : Web) (response : AgentResponse) : List CitationData :=
  (ragSources response).mapIdx (citationOf web)

def textChunks (value : Text) : List Text :=
  (List.range ((value.length + 19999) / 20000)).map fun n => slice value (20000 * n) (20000 * n + 20000)

variable (web : Web) (execution : Execution) (response : AgentResponse)

def base (body : EventBody) : ConnectorEvent := ⟨.public, execution.conversationId, execution.runId, none, body⟩

def message (body : EventBody) : ConnectorEvent :=
  ⟨.public, execution.conversationId, execution.runId, some execution.assistantMessageId, body⟩

def toolEvents (index : ℕ) (tool : Text) : List ConnectorEvent := [
  message execution (.toolStarted (numbered "haystack-tool-" index) (publicToolLabel web tool)),
  message execution (.toolCompleted (numbered "haystack-tool-" index))]

def CitationData.added (data : CitationData) : EventBody :=
  .citationAdded data.citationId data.sourceId data.title data.url data.excerpt

def CitationData.part (data : CitationData) : ContentPart :=
  .citation data.citationId data.sourceId data.title data.url data.excerpt

def handoffRequested : Bool := (response.metadata.bind Metadata.handoff).any Handoff.requested

def completedEvents : List ConnectorEvent :=
  [message execution .messageStarted] ++
    ((usedTools response).eraseDups.mapIdx (toolEvents web execution)).flatten ++
    (normalizedCitations web response).map (fun data => message execution data.added) ++
    (textChunks response.text).map (fun delta => message execution (.messageDelta delta)) ++
    [message execution (.messageCompleted
      (.text response.text :: (normalizedCitations web response).map CitationData.part))] ++
    (if handoffRequested response then [base execution (.handoffRequested execution.runId)] else []) ++
    [base execution .runCompleted]

def runCompatibility : List ConnectorEvent :=
  base execution (.runStarted execution.agentRef) :: completedEvents web execution response

/-- What the URL standard says of a parsed URL: its serialization parses to the same URL, and that
of an `https:` URL starts with `https://`. -/
structure StandardURL : Prop where
  reparsed : ∀ s url, web.newURL s = some url → web.newURL url.href = some url
  special : ∀ s url, web.newURL s = some url → url.protocol = text "https:" →
    (text "https://").isPrefixOf url.href = true

/-- Something of the text is left when separators and white space are taken away. -/
def speaks (tool : Text) : Bool := tool.any fun u => !isSeparator u && !isWhiteSpace u

section Values

variable {web}

lemma spaced_white (s : Text) : ∀ inside, (∀ u ∈ spaced inside s, isWhiteSpace u = true) ↔ speaks s = false := by
  have hspace : isWhiteSpace 32 = true := by decide
  induction s with
  | nil => exact fun _ => ⟨fun _ => rfl, fun _ u hu => absurd hu List.not_mem_nil⟩
  | cons v s ih =>
    intro inside
    have hs : speaks (v :: s) = ((!isSeparator v && !isWhiteSpace v) || speaks s) := rfl
    rw [hs, spaced]
    cases hv : isSeparator v with
    | true =>
      cases inside with
      | true => simpa using ih true
      | false => simpa [hspace] using ih true
    | false => simp [ih false]

lemma publicToolLabel_eq_nil {tool : Text} : publicToolLabel web tool = [] ↔ speaks tool = false := by
  rw [← spaced_white tool false, ← trim_eq_nil, publicToolLabel]
  cases ht : trim (spaced false tool) with
  | nil => exact ⟨fun _ => rfl, fun _ => rfl⟩
  | cons u us =>
    have hup := web.upperCased u
    cases hu : web.toUpperCase u with
    | nil => exact absurd hu hup
    | cons v vs => simp [capitalized, hu, slice]

lemma label_valid {tool : Text} : lengthBetween 1 200 (publicToolLabel web tool) = true ↔ speaks tool = true := by
  have hle : (publicToolLabel web tool).length ≤ 200 := length_slice_le _ _ _
  have hnil : publicToolLabel web tool = [] ↔ speaks tool = false := publicToolLabel_eq_nil
  rw [lengthBetween_iff, ← Bool.not_eq_false, ← hnil, ← List.length_eq_zero_iff]
  omega

lemma truthy_eq_some {value : Option Text} {s : Text} : truthy value = some s ↔ value = some s ∧ s ≠ [] := by
  cases value with
  | none => simp [truthy]
  | some v =>
    simp only [truthy, Option.filter_eq_some_iff, Option.some.injEq]
    simp

lemma numbered_valid : ∀ index < 100, isOpaqueId (numbered "haystack-tool-" index) = true ∧
    isOpaqueId (numbered "haystack-citation-" index) = true ∧
      isOpaqueId (numbered "haystack-source-" index) = true := by
  decide +kernel

lemma opaqueSourceId_valid {value : Option Text} {index : ℕ} (hi : index < 100) :
    isOpaqueId (opaqueSourceId value index) = true := by
  unfold opaqueSourceId
  split
  · split
    · assumption
    · exact (numbered_valid index hi).2.2
  · exact (numbered_valid index hi).2.2

lemma safeHttpsUrl_valid (hweb : StandardURL web) {value : Option Text} {s : Text}
    (h : safeHttpsUrl web value = some s) :
    isHttpsReference web s = true := by
  simp only [safeHttpsUrl, Option.bind_eq_bind, Option.bind_eq_some_iff, Option.ite_none_right_eq_some,
    Option.some.injEq] at h
  obtain ⟨v, -, url, hurl, ⟨hprotocol, hlength⟩, rfl⟩ := h
  simp [isHttpsReference, isHttpsUrl, hweb.reparsed v url hurl, hprotocol,
    hweb.special v url hurl hprotocol, hlength]

lemma citation_valid (hweb : StandardURL web) {index : ℕ} {source : Source} (hi : index < 100)
    (hs : isSource source = true) :
    isCitation web (citationOf web index source).citationId (citationOf web index source).sourceId
      (citationOf web index source).title (citationOf web index source).url
      (citationOf web index source).excerpt = true := by
  simp only [isSource, Bool.and_eq_true, Option.all_eq_true] at hs
  have htitle : (truthy (source.title.map trim)).all (lengthBetween 1 500) = true := by
    rw [Option.all_eq_true]
    intro s h
    obtain ⟨h, hne⟩ := truthy_eq_some.mp h
    obtain ⟨v, hv, rfl⟩ := Option.map_eq_some_iff.mp h
    have hle := lengthBetween_iff.mp (hs.1.1.2 v hv)
    have htrim := length_trim_le v
    have hpos := List.length_pos_iff.mpr hne
    exact lengthBetween_iff.mpr ⟨hpos, by omega⟩
  have hurl : (truthy (safeHttpsUrl web source.source_path)).all (isHttpsReference web) = true := by
    rw [Option.all_eq_true]
    intro s h
    exact safeHttpsUrl_valid hweb (truthy_eq_some.mp h).1
  have hexcerpt : (truthy (source.content.map fun content => slice (trim content) 0 2000)).all
    (lengthBetween 0 2000) =
      true := by
    rw [Option.all_eq_true]
    intro s h
    obtain ⟨v, -, rfl⟩ := Option.map_eq_some_iff.mp (truthy_eq_some.mp h).1
    exact lengthBetween_iff.mpr ⟨Nat.zero_le _, length_slice_le _ _ _⟩
  simp only [isCitation, citationOf, (numbered_valid index hi).2.1, opaqueSourceId_valid hi, htitle,
    hurl, hexcerpt,
    Bool.and_self]

lemma chunk_valid {value delta : Text} (h : delta ∈ textChunks value) : lengthBetween 1 20000 delta = true := by
  obtain ⟨n, hn, rfl⟩ := List.mem_map.mp h
  have hlt := List.mem_range.mp hn
  rw [lengthBetween_iff, slice, List.length_take, List.length_drop]
  omega

lemma textChunks_flatten (value : Text) : (textChunks value).flatten = value := by
  have hall : ∀ n, ((List.range n).map fun n => slice value (20000 * n) (20000 * n + 20000)).flatten =
      value.take (20000 * n) := by
    intro n
    induction n with
    | zero => simp
    | succ n ih =>
      have hsub : 20000 * n + 20000 - 20000 * n = 20000 := by omega
      rw [List.range_succ, List.map_append, List.flatten_append, ih]
      simp only [List.map_cons, List.map_nil, List.flatten_cons, List.flatten_nil, List.append_nil, slice, hsub]
      rw [Nat.mul_succ, List.take_add]
  rw [textChunks, hall]
  exact List.take_of_length_le (by omega)

end Values

section Events

variable {web execution response}

lemma accepted_message (he : execution.isValid = true) {body : EventBody} (hm : body.requiresMessageId = true) :
    isAccepted web execution.context (message execution body) = isEventData web body := by
  simp only [Execution.isValid, Bool.and_eq_true] at he
  simp [isAccepted, isConnectorEvent, validateConnectorEventContext, message, Execution.context, he, hm]

lemma accepted_base (he : execution.isValid = true) {body : EventBody} (hm : body.requiresMessageId = false) :
    isAccepted web execution.context (base execution body) = isEventData web body := by
  simp only [Execution.isValid, Bool.and_eq_true] at he
  simp [isAccepted, isConnectorEvent, validateConnectorEventContext, base, Execution.context, he, hm]

lemma usedTools_length (hr : isAgentResponse response = true) : (usedTools response).length ≤ 100 := by
  simp only [isAgentResponse, Bool.and_eq_true, Option.all_eq_true] at hr
  cases hm : response.metadata with
  | none => simp [usedTools, hm]
  | some metadata =>
    have hmetadata := hr.2 metadata hm
    simp only [isMetadata, Bool.and_eq_true, Option.all_eq_true, decide_eq_true_eq] at hmetadata
    cases ht : metadata.used_tools with
    | none => simp [usedTools, hm, ht]
    | some tools => simpa [usedTools, hm, ht] using (hmetadata.1.1 tools ht).2

lemma ragSources_valid (hr : isAgentResponse response = true) :
    (ragSources response).length ≤ 100 ∧ ∀ source ∈ ragSources response, isSource source = true := by
  simp only [isAgentResponse, Bool.and_eq_true, Option.all_eq_true] at hr
  cases hm : response.metadata with
  | none => simp [ragSources, hm]
  | some metadata =>
    have hmetadata := hr.2 metadata hm
    simp only [isMetadata, Bool.and_eq_true, Option.all_eq_true, decide_eq_true_eq, List.all_eq_true] at hmetadata
    cases hs : metadata.rag_sources with
    | none => simp [ragSources, hm, hs]
    | some sources => simpa [ragSources, hm, hs] using (hmetadata.1.2 sources hs).symm

lemma normalizedCitations_valid (hweb : StandardURL web) (hr : isAgentResponse response = true)
    {data : CitationData}
    (h : data ∈ normalizedCitations web response) :
    isCitation web data.citationId data.sourceId data.title data.url data.excerpt = true := by
  obtain ⟨hlength, hsources⟩ := ragSources_valid hr
  obtain ⟨index, hi, rfl⟩ := List.mem_mapIdx.mp h
  exact citation_valid hweb (by omega) (hsources _ (List.getElem_mem hi))

lemma completed_valid (hweb : StandardURL web) (hr : isAgentResponse response = true) :
    isEventData web (.messageCompleted
      (.text response.text :: (normalizedCitations web response).map CitationData.part)) = true := by
  have htext : lengthBetween 1 100000 response.text = true := by
    simp only [isAgentResponse, Bool.and_eq_true] at hr
    exact hr.1.1.2
  simp only [isEventData, List.isEmpty_cons, Bool.not_false, List.all_cons, isContentPart, htext, Bool.true_and,
    List.all_map, List.all_eq_true]
  exact fun data hdata => normalizedCitations_valid hweb hr hdata

lemma length_eraseDups_le (l : List Text) : l.eraseDups.length ≤ l.length := by
  induction hn : l.length using Nat.strong_induction_on generalizing l with
  | h n ih =>
    cases l with
    | nil => simp
    | cons a l =>
      have hfilter := List.length_filter_le (fun b => !b == a) l
      rw [List.length_cons] at hn
      have hrest := ih _ (by omega) (l.filter fun b => !b == a) rfl
      rw [List.eraseDups_cons, List.length_cons]
      omega

def beginning (web : Web) (execution : Execution) (response : AgentResponse) : List ConnectorEvent :=
  [message execution .messageStarted] ++
    ((usedTools response).eraseDups.mapIdx (toolEvents web execution)).flatten ++
    (normalizedCitations web response).map (fun data => message execution data.added) ++
    (textChunks response.text).map (fun delta => message execution (.messageDelta delta))

inductive Beginning (web : Web) (execution : Execution) (response : AgentResponse) : ConnectorEvent → Prop
  | started : Beginning web execution response (message execution .messageStarted)
  | toolStarted (index : ℕ) (hi : index < 100) (tool : Text) (h : tool ∈ usedTools response) :
      Beginning web execution response
        (message execution (.toolStarted (numbered "haystack-tool-" index) (publicToolLabel web tool)))
  | toolCompleted (index : ℕ) (hi : index < 100) :
      Beginning web execution response (message execution (.toolCompleted (numbered "haystack-tool-" index)))
  | cited (data : CitationData) (h : data ∈ normalizedCitations web response) :
      Beginning web execution response (message execution data.added)
  | delta (delta : Text) (h : delta ∈ textChunks response.text) :
      Beginning web execution response (message execution (.messageDelta delta))

lemma mem_beginning (hr : isAgentResponse response = true) {e : ConnectorEvent}
    (h : e ∈ beginning web execution response) : Beginning web execution response e := by
  simp only [beginning, List.mem_append, List.mem_singleton, List.mem_flatten, List.mem_map] at h
  rcases h with ((rfl | ⟨events, hevents, he⟩) | ⟨data, hdata, rfl⟩) | ⟨delta, hdelta, rfl⟩
  · exact .started
  · obtain ⟨index, hi, rfl⟩ := List.mem_mapIdx.mp hevents
    have hlength : (usedTools response).eraseDups.length ≤ (usedTools response).length :=
      length_eraseDups_le _
    have hmem := List.mem_eraseDups.mp (List.getElem_mem hi)
    have hmax := usedTools_length hr
    simp only [toolEvents, List.mem_cons, List.not_mem_nil, or_false] at he
    rcases he with rfl | rfl
    · exact .toolStarted index (by omega) _ hmem
    · exact .toolCompleted index (by omega)
  · exact .cited data hdata
  · exact .delta delta hdelta

lemma completedEvents_eq : completedEvents web execution response = beginning web execution response ++
    (message execution (.messageCompleted
      (.text response.text :: (normalizedCitations web response).map CitationData.part)) ::
        ((if handoffRequested response then [base execution (.handoffRequested execution.runId)] else []) ++
          [base execution .runCompleted])) := by
  simp [completedEvents, beginning]

lemma beginning_accepted (hweb : StandardURL web) (he : execution.isValid = true)
    (hr : isAgentResponse response = true)
    (hspeaks : ∀ tool ∈ usedTools response, speaks tool = true) {e : ConnectorEvent}
    (h : Beginning web execution response e) : isAccepted web execution.context e = true := by
  cases h with
  | started => rw [accepted_message he rfl]; rfl
  | toolStarted index hi tool htool =>
    rw [accepted_message he rfl, isEventData, (numbered_valid index hi).1, label_valid.mpr (hspeaks tool htool)]
    rfl
  | toolCompleted index hi =>
    rw [accepted_message he rfl, isEventData]
    exact (numbered_valid index hi).1
  | cited data hdata =>
    rw [accepted_message he rfl]
    exact normalizedCitations_valid hweb hr hdata
  | delta delta hdelta =>
    rw [accepted_message he rfl]
    exact chunk_valid hdelta

lemma all_accepted (hweb : StandardURL web) (he : execution.isValid = true) (hr : isAgentResponse response = true)
    (hspeaks : ∀ tool ∈ usedTools response, speaks tool = true) {e : ConnectorEvent}
    (h : e ∈ completedEvents web execution response) : isAccepted web execution.context e = true := by
  have hrun : isOpaqueId execution.runId = true := by
    simp only [Execution.isValid, Bool.and_eq_true] at he
    exact he.1.1.2
  rw [completedEvents_eq, List.mem_append, List.mem_cons, List.mem_append, List.mem_singleton] at h
  rcases h with h | rfl | h | rfl
  · exact beginning_accepted hweb he hr hspeaks (mem_beginning hr h)
  · rw [accepted_message he rfl]
    exact completed_valid hweb hr
  · split at h
    · rw [List.mem_singleton.mp h, accepted_base he rfl]
      exact hrun
    · cases h
  · rw [accepted_base he rfl]
    rfl

lemma tool_announced {tool : Text} (h : tool ∈ usedTools response) : ∃ index,
    message execution (.toolStarted (numbered "haystack-tool-" index) (publicToolLabel web tool)) ∈
      completedEvents web execution response := by
  obtain ⟨index, hi, rfl⟩ := List.getElem_of_mem (List.mem_eraseDups.mpr h)
  refine ⟨index, ?_⟩
  rw [completedEvents_eq]
  refine List.mem_append_left _ (List.mem_append_left _ (List.mem_append_left _ (List.mem_append_right _ ?_)))
  exact List.mem_flatten.mpr ⟨_, List.mem_mapIdx.mpr ⟨index, hi, rfl⟩, List.mem_cons_self ..⟩

lemma not_invalid {expected : ConnectorEventContext} {events : List ConnectorEvent} {ending : Ending}
    (h : Ends web expected events ending) (hall : ∀ e ∈ events, isAccepted web expected e = true)
    (hfailed : ∀ e ∈ events, ∀ code, e.body ≠ .runFailed code) : ending ≠ invalidConnectorEvent := by
  induction h with
  | incomplete | threw => decide
  | cancelled | asked | completed =>
    intro he
    cases he
  | invalid event rest hi =>
    rw [hall event (List.mem_cons_self ..)] at hi
    cases hi
  | failed event rest _ code hb => exact absurd hb (hfailed event (List.mem_cons_self ..) code)
  | next event rest _ _ _ _ ih =>
    exact ih (fun e he => hall e (List.mem_cons_of_mem _ he)) fun e he => hfailed e (List.mem_cons_of_mem _ he)

end Events

/-- The events of a response, as the run worker should get them. -/
structure Translated (web : Web) (execution : Execution) (response : AgentResponse) : Prop where
  valid : ∀ e ∈ completedEvents web execution response,
    isConnectorEvent web e = true ∧ validateConnectorEventContext e execution.context = true
  started : (completedEvents web execution response).head? = some (message execution .messageStarted)
  ended : ∃ events, completedEvents web execution response = events ++ [base execution .runCompleted] ∧
    ∀ e ∈ events, e.body ≠ .runCompleted
  ordered : (completedEvents web execution response).Pairwise fun earlier later =>
    ∀ delta parts, later.body = .messageDelta delta → earlier.body ≠ .messageCompleted parts
  accepted : ¬ Ends web execution.context (runCompatibility web execution response) invalidConnectorEvent

section Order

variable {web execution response}

lemma beginning_bodies (hr : isAgentResponse response = true) {e : ConnectorEvent}
    (h : e ∈ beginning web execution response) : e.body ≠ .runCompleted ∧ (∀ code, e.body ≠ .runFailed code) ∧
      ∀ parts, e.body ≠ .messageCompleted parts := by
  cases mem_beginning hr h <;> simp [message, CitationData.added]

lemma bodies (hr : isAgentResponse response = true) {e : ConnectorEvent}
    (h : e ∈ completedEvents web execution response) (code : Text) : e.body ≠ .runFailed code := by
  rw [completedEvents_eq, List.mem_append, List.mem_cons, List.mem_append, List.mem_singleton] at h
  rcases h with h | rfl | h | rfl
  · exact (beginning_bodies hr h).2.1 code
  · simp [message]
  · split at h
    · rw [List.mem_singleton.mp h]
      simp [base]
    · cases h
  · simp [base]

lemma ended (hr : isAgentResponse response = true) :
    ∃ events, completedEvents web execution response = events ++ [base execution .runCompleted] ∧
      ∀ e ∈ events, e.body ≠ .runCompleted := by
  refine ⟨_, by rw [completedEvents_eq, ← List.cons_append, ← List.append_assoc], fun e h => ?_⟩
  rw [List.mem_append, List.mem_cons] at h
  rcases h with h | rfl | h
  · exact (beginning_bodies hr h).1
  · simp [message]
  · split at h
    · rw [List.mem_singleton.mp h]
      simp [base]
    · cases h

lemma ordered (hr : isAgentResponse response = true) :
    (completedEvents web execution response).Pairwise fun earlier later =>
      ∀ delta parts, later.body = .messageDelta delta → earlier.body ≠ .messageCompleted parts := by
  have hrest : ∀ e ∈ message execution (.messageCompleted
      (.text response.text :: (normalizedCitations web response).map CitationData.part)) ::
        ((if handoffRequested response then [base execution (.handoffRequested execution.runId)] else []) ++
          [base execution .runCompleted]), ∀ delta, e.body ≠ .messageDelta delta := by
    intro e h delta
    rw [List.mem_cons, List.mem_append, List.mem_singleton] at h
    rcases h with rfl | h | rfl
    · simp [message]
    · split at h
      · rw [List.mem_singleton.mp h]
        simp [base]
      · cases h
    · simp [base]
  rw [completedEvents_eq, List.pairwise_append]
  refine ⟨?_, ?_, fun a ha b hb delta parts hd => absurd hd (hrest b hb delta)⟩
  · exact List.pairwise_of_forall_mem_list fun a ha b hb delta parts _ => (beginning_bodies hr ha).2.2 parts
  · exact List.pairwise_of_forall_mem_list fun a ha b hb delta parts hd => absurd hd (hrest b hb delta)

end Order

/-- For every response that the schema lets through, the connector's events are what the run worker
accepts if and only if the name of every tool has something besides separators and white space. -/
theorem translated_iff (web : Web) (hweb : StandardURL web) (execution : Execution) (he : execution.isValid = true)
    (response : AgentResponse) (hr : isAgentResponse response = true) :
    Translated web execution response ↔ ∀ tool ∈ usedTools response, speaks tool = true := by
  constructor
  · intro h tool htool
    obtain ⟨index, hmem⟩ := tool_announced htool
    obtain ⟨hvalid, hcontext⟩ := h.valid _ hmem
    have haccepted : isAccepted web execution.context
        (message execution (.toolStarted (numbered "haystack-tool-" index) (publicToolLabel web tool))) =
          isEventData web (.toolStarted (numbered "haystack-tool-" index) (publicToolLabel web tool)) :=
      accepted_message he rfl
    rw [isAccepted, hvalid, hcontext] at haccepted
    simp only [Bool.and_self, isEventData] at haccepted
    exact label_valid.mp (Bool.and_eq_true_iff.mp haccepted.symm).2
  · intro hspeaks
    have hall : ∀ e ∈ completedEvents web execution response, isAccepted web execution.context e = true :=
      fun e h => all_accepted hweb he hr hspeaks h
    refine ⟨fun e h => Bool.and_eq_true_iff.mp (hall e h), ?_, ended hr, ordered hr, fun hends => ?_⟩
    · simp [completedEvents]
    · refine not_invalid hends ?_ ?_ rfl
      · intro e h
        rcases List.mem_cons.mp h with rfl | h
        · rw [accepted_base he rfl]
          simp only [Execution.isValid, Bool.and_eq_true] at he
          exact he.1.2
        · exact hall e h
      · intro e h code
        rcases List.mem_cons.mp h with rfl | h
        · simp [base]
        · exact bodies hr h code

def plain : Web where
  newURL s := if (text "https://").isPrefixOf s then some ⟨text "https:", s⟩ else none
  toUpperCase u := [if 97 ≤ u ∧ u ≤ 122 then u - 32 else u]
  upperCased _ := List.cons_ne_nil _ _

lemma plain_standard : StandardURL plain := by
  constructor
  · intro s url h
    simp only [plain, Option.ite_none_right_eq_some, Option.some.injEq] at h
    obtain ⟨hs, rfl⟩ := h
    simp only [plain]
    rw [if_pos hs]
  · intro s url h _
    simp only [plain, Option.ite_none_right_eq_some, Option.some.injEq] at h
    obtain ⟨hs, rfl⟩ := h
    exact hs

def sample : Execution := ⟨text "conversation-1", text "run-1", text "public-support", text "assistant-message-1"⟩

def answered (tools : List Text) : AgentResponse where
  request_id := text "request-1"
  tenant_key := text "tenant"
  agent_slug := text "support"
  channel := text "web"
  thread_id := text "conversation-1"
  text := text "Your shipment is in transit."
  subject := none
  status := none
  metadata := some ⟨some tools, none, none⟩

theorem named_tools_translated : publicToolLabel plain (text "order_lookup") = text "Order lookup" ∧
    (Translated plain sample (answered [text "order_lookup", text "order_lookup"]) ↔
      ∀ tool ∈ usedTools (answered [text "order_lookup", text "order_lookup"]), speaks tool = true) :=
  ⟨by decide +kernel, translated_iff plain plain_standard sample (by decide +kernel)
    (answered [text "order_lookup", text "order_lookup"]) (by decide +kernel)⟩

/-- The tool `_` is announced under an empty label, and the run fails. -/
theorem unnamed_tool_rejected : sample.isValid = true ∧ isAgentResponse (answered [text "_"]) = true ∧
    ¬ Translated plain sample (answered [text "_"]) ∧
    Ends plain sample.context (runCompatibility plain sample (answered [text "_"])) invalidConnectorEvent := by
  refine ⟨by decide +kernel, by decide +kernel, fun h => ?_, ?_⟩
  · have hvalid := (h.valid (message sample (.toolStarted (numbered "haystack-tool-" 0) [])) (by decide +kernel)).1
    exact absurd hvalid (by decide +kernel)
  · refine .next _ _ (by decide +kernel) (fun _ => ⟨(fun h => by cases h), (fun h => by cases h)⟩)
      (fun _ _ _ h => by cases h) ?_
    refine .next _ _ (by decide +kernel) (fun _ => ⟨(fun h => by cases h), (fun h => by cases h)⟩)
      (fun _ _ _ h => by cases h) ?_
    exact .invalid _ _ (by decide +kernel)

end ChatCore.Connectors.Haystack
