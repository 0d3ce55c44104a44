import ChatCore.Connectors.Text
import ChatCore.Protocol.ConnectorEvents

namespace ChatCore.Connectors

open Protocol (Visibility ToolStatus InputPartStatus)

structure URL where
  protocol : Text
  href : Text
  deriving DecidableEq, Repr

/-- What the connector takes from the platform: `new URL(value)`, unless it throws, and the upper
case of a single code unit, which is never empty. -/
structure Web where
  newURL : Text → Option URL
  toUpperCase : UInt16 → Text
  upperCased : ∀ u, toUpperCase u ≠ []

inductive ContentPart
  | text (text : Text)
  | citation (citationId sourceId : Text) (title url excerpt : Option Text)
  | fileReference (fileId name : Text) (mediaType url : Option Text)
  | toolStatus (toolCallId label : Text) (status : ToolStatus)
  | structuredInput (requestId label : Text) (required : Bool) (status : InputPartStatus)
  deriving DecidableEq, Repr

inductive EventBody
  | runStarted (agentRef : Text)
  | runCompleted
  | runFailed (code : Text)
  | messageStarted
  | messageDelta (delta : Text)
  | messageCompleted (parts : List ContentPart)
  | toolStarted (toolCallId label : Text)
  | toolCompleted (toolCallId : Text)
  | toolFailed (toolCallId : Text)
  | citationAdded (citationId sourceId : Text) (title url excerpt : Option Text)
  | contactRequested (requestId prompt : Text) (required : Bool)
  | handoffRequested (handoffId : Text)
  | handoffCompleted (handoffId : Text)
  deriving DecidableEq, Repr

def EventBody.requiresMessageId : EventBody → Bool
  | .messageStarted | .messageDelta _ | .messageCompleted _ | .toolStarted _ _ | .toolCompleted _
  | .toolFailed _ | .citationAdded .. => true
  | _ => false

structure ConnectorEvent where
  visibility : Visibility
  conversationId : Text
  runId : Text
  messageId : Option Text
  body : EventBody
  deriving DecidableEq, Repr

variable (web : Web)

def isHttpsUrl (s : Text) : Bool := (web.newURL s).any fun url => decide (url.protocol = text "https:")

def isHttpsReference (s : Text) : Bool :=
  isHttpsUrl web s && (text "https://").isPrefixOf s && decide (s.length ≤ 2048)

def isCitation (citationId sourceId : Text) (title url excerpt : Option Text) : Bool :=
  isOpaqueId citationId && isOpaqueId sourceId && title.all (lengthBetween 1 500) &&
    url.all (isHttpsReference web) && excerpt.all (lengthBetween 0 2000)

def isContentPart : ContentPart → Bool
  | .text text => lengthBetween 1 100000 text
  | .citation citationId sourceId title url excerpt => isCitation web citationId sourceId title url excerpt
  | .fileReference fileId name mediaType url => isOpaqueId fileId && lengthBetween 1 500 name &&
      mediaType.all (lengthBetween 1 200) && url.all (isHttpsReference web)
  | .toolStatus toolCallId label _ => isOpaqueId toolCallId && lengthBetween 1 200 label
  | .structuredInput requestId label _ _ => isOpaqueId requestId && lengthBetween 1 200 label

def isEventData : EventBody → Bool
  | .runStarted agentRef => isOpaqueId agentRef
  | .runCompleted | .messageStarted => true
  | .runFailed code => isFailureCode code
  | .messageDelta delta => lengthBetween 1 20000 delta
  | .messageCompleted parts => !parts.isEmpty && parts.all (isContentPart web)
  | .toolStarted toolCallId label => isOpaqueId toolCallId && lengthBetween 1 200 label
  | .toolCompleted toolCallId | .toolFailed toolCallId => isOpaqueId toolCallId
  | .citationAdded citationId sourceId title url excerpt => isCitation web citationId sourceId title url excerpt
  | .contactRequested requestId prompt _ => isOpaqueId requestId && lengthBetween 1 500 prompt
  | .handoffRequested handoffId | .handoffCompleted handoffId => isOpaqueId handoffId

def isConnectorEvent (event : ConnectorEvent) : Bool :=
  isOpaqueId event.conversationId && isOpaqueId event.runId &&
    (match event.messageId with
      | some messageId => event.body.requiresMessageId && isOpaqueId messageId
      | none => !event.body.requiresMessageId) &&
    isEventData web event.body

structure ConnectorEventContext where
  conversationId : Text
  runId : Text
  assistantMessageId : Text

def validateConnectorEventContext (event : ConnectorEvent) (expected : ConnectorEventContext) : Bool :=
  decide (event.conversationId = expected.conversationId) && decide (event.runId = expected.runId) &&
    event.messageId.all (fun messageId => decide (messageId = expected.assistantMessageId))

def isAccepted (expected : ConnectorEventContext) (event : ConnectorEvent) : Bool :=
  isConnectorEvent web event && validateConnectorEventContext event expected

inductive Ending
  | cancelled
  | waitingForInput
  | completed
  | failed (code : Text)
  deriving DecidableEq, Repr

def invalidConnectorEvent : Ending := .failed (text "INVALID_CONNECTOR_EVENT")

/-- The loop of `RunWorker.runOnce` over the events that the connector yields, as far as it comes:
the run may be cancelled at any event, and any step may throw. -/
inductive Ends (expected : ConnectorEventContext) : List ConnectorEvent → Ending → Prop
  | incomplete : Ends expected [] (.failed (text "CONNECTOR_INCOMPLETE"))
  | cancelled (events : List ConnectorEvent) : Ends expected events .cancelled
  | threw (events : List ConnectorEvent) : Ends expected events (.failed (text "CONNECTOR_EXECUTION_FAILED"))
  | invalid (event : ConnectorEvent) (rest : List ConnectorEvent) (h : isAccepted web expected event = false) :
      Ends expected (event :: rest) invalidConnectorEvent
  | asked (event : ConnectorEvent) (rest : List ConnectorEvent) (h : isAccepted web expected event = true)
      (requestId prompt : Text) (required : Bool) (hb : event.body = .contactRequested requestId prompt required) :
      Ends expected (event :: rest) .waitingForInput
  | completed (event : ConnectorEvent) (rest : List ConnectorEvent) (h : isAccepted web expected event = true)
      (hb : event.body = .runCompleted) : Ends expected (event :: rest) .completed
  | failed (event : ConnectorEvent) (rest : List ConnectorEvent) (h : isAccepted web expected event = true)
      (code : Text) (hb : event.body = .runFailed code) : Ends expected (event :: rest) (.failed code)
  | next (event : ConnectorEvent) (rest : List ConnectorEvent) (h : isAccepted web expected event = true)
      (hb : ∀ code, event.body ≠ .runCompleted ∧ event.body ≠ .runFailed code)
      (hc : ∀ requestId prompt required, event.body ≠ .contactRequested requestId prompt required)
      {ending : Ending} (hrest : Ends expected rest ending) : Ends expected (event :: rest) ending

end ChatCore.Connectors
