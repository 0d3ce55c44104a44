import ChatCore.Protocol.Content
import Mathlib.Tactic.Lemma

/-! The events a connector yields, and the checks they pass before the worker stores them. -/

namespace ChatCore.Protocol

inductive Visibility
  | «public»
  | operator
  | internal
  deriving DecidableEq, Repr

/-- The type of an event with its data; literal fields of the data are left out. -/
inductive EventBody
  | runStarted (agentRef : Id)
  | runCompleted
  | runFailed (code : String)
  | messageStarted
  | messageDelta (delta : String)
  | messageCompleted (parts : List ContentPart)
  | toolStarted (toolCallId : Id) (label : String)
  | toolCompleted (toolCallId : Id)
  | toolFailed (toolCallId : Id)
  | citationAdded (citationId sourceId : Id) (title url excerpt : Option String)
  | contactRequested (requestId : Id) (prompt : String) (required : Bool)
  | handoffRequested (handoffId : Id)
  | handoffCompleted (handoffId : Id)
  deriving DecidableEq, Repr

def EventBody.type : EventBody → String
  | .runStarted _ => "run.started"
  | .runCompleted => "run.completed"
  | .runFailed _ => "run.failed"
  | .messageStarted => "message.started"
  | .messageDelta _ => "message.delta"
  | .messageCompleted _ => "message.completed"
  | .toolStarted .. => "tool.started"
  | .toolCompleted _ => "tool.completed"
  | .toolFailed _ => "tool.failed"
  | .citationAdded .. => "citation.added"
  | .contactRequested .. => "contact.requested"
  | .handoffRequested _ => "handoff.requested"
  | .handoffCompleted _ => "handoff.completed"

def EventBody.requiresMessageId : EventBody → Bool
  | .messageStarted | .messageDelta _ | .messageCompleted _ | .toolStarted _ _ | .toolCompleted _
  | .toolFailed _ | .citationAdded .. => true
  | _ => false

def EventBody.terminal : EventBody → Bool
  | .runCompleted | .runFailed _ => true
  | _ => false

def EventBody.texts : EventBody → List String
  | .runStarted agentRef => [agentRef]
  | .runCompleted | .messageStarted => []
  | .runFailed code => [code]
  | .messageDelta delta => [delta]
  | .messageCompleted parts => parts.flatMap ContentPart.texts
  | .toolStarted toolCallId label => [toolCallId, label]
  | .toolCompleted toolCallId | .toolFailed toolCallId => [toolCallId]
  | .citationAdded citationId sourceId title url excerpt =>
      citationId :: sourceId :: (title.toList ++ url.toList ++ excerpt.toList)
  | .contactRequested requestId prompt _ => [requestId, prompt]
  | .handoffRequested handoffId | .handoffCompleted handoffId => [handoffId]

/-- An unpaired surrogate in a text of the body stands here as U+FFFD; `wellFormed` says that there was none. -/
structure ConnectorEvent where
  visibility : Visibility
  conversationId : Id
  runId : Id
  messageId : Option Id
  body : EventBody
  wellFormed : Bool
  deriving DecidableEq, Repr

/-- A `jsonb` column takes the data: it refuses U+0000 and unpaired surrogates. -/
def ConnectorEvent.isStorable (event : ConnectorEvent) : Bool :=
  event.wellFormed && !event.body.texts.any hasNul

/-- A value that a connector yields: of the shape of an event, or anything else. -/
inductive ConnectorValue
  | event (event : ConnectorEvent)
  | other
  deriving DecidableEq, Repr

variable (platform : Platform)

def isEventData : EventBody → Bool
  | .runStarted agentRef => isOpaqueId agentRef
  | .runCompleted | .messageStarted => true
  | .runFailed code => isFailureCode code
  | .messageDelta delta => lengthBetween 1 20000 delta
  | .messageCompleted parts => !parts.isEmpty && parts.all (isContentPart platform)
  | .toolStarted toolCallId label => isOpaqueId toolCallId && lengthBetween 1 200 label
  | .toolCompleted toolCallId | .toolFailed toolCallId => isOpaqueId toolCallId
  | .citationAdded citationId sourceId title url excerpt =>
    isCitation platform citationId sourceId title url excerpt
  | .contactRequested requestId prompt _ => isOpaqueId requestId && lengthBetween 1 500 prompt
  | .handoffRequested handoffId | .handoffCompleted handoffId => isOpaqueId handoffId

def isConnectorEvent (event : ConnectorEvent) : Bool :=
  isOpaqueId event.conversationId && isOpaqueId event.runId &&
    (match event.messageId with
      | some messageId => event.body.requiresMessageId && isOpaqueId messageId
      | none => !event.body.requiresMessageId) &&
    isEventData platform event.body

structure ConnectorEventContext where
  conversationId : Id
  runId : Id
  assistantMessageId : Id

def validateConnectorEventContext (event : ConnectorEvent) (expected : ConnectorEventContext) : Bool :=
  decide (event.conversationId = expected.conversationId) && decide (event.runId = expected.runId) &&
    event.messageId.all (fun messageId => decide (messageId = expected.assistantMessageId))

def acceptedEvent (value : ConnectorValue) (expected : ConnectorEventContext) : Option ConnectorEvent :=
  match value with
  | .event event =>
      if isConnectorEvent platform event && validateConnectorEventContext event expected then some event else none
  | .other => none

structure EventOf (event : ConnectorEvent) (expected : ConnectorEventContext) : Prop where
  conversation : event.conversationId = expected.conversationId
  run : event.runId = expected.runId
  message : event.body.requiresMessageId = true → event.messageId = some expected.assistantMessageId
  parts : ∀ parts, event.body = .messageCompleted parts → parts ≠ []

lemma acceptedEvent_eventOf {value : ConnectorValue} {expected : ConnectorEventContext} {event : ConnectorEvent}
    (h : acceptedEvent platform value expected = some event) : EventOf event expected := by
  cases value with
  | other => simp [acceptedEvent] at h
  | event e =>
    simp only [acceptedEvent, Option.ite_none_right_eq_some, Option.some.injEq, Bool.and_eq_true] at h
    obtain ⟨⟨hs, hc⟩, rfl⟩ := h
    simp only [isConnectorEvent, Bool.and_eq_true] at hs
    simp only [validateConnectorEventContext, Bool.and_eq_true, decide_eq_true_eq] at hc
    refine ⟨hc.1.1, hc.1.2, ?_, ?_⟩
    · intro hr
      cases hm : e.messageId with
      | none => simp [hm, hr] at hs
      | some m => simpa [hm] using hc.2
    · rintro parts hp rfl
      simp [hp, isEventData] at hs

end ChatCore.Protocol
