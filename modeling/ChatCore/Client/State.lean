import ChatCore.Protocol.Cursors
import ChatCore.Services.Conversations
import ChatCore.Services.EventStore

namespace ChatCore.Client

open Protocol Database Services ConversationService EventStore

inductive ChatPhase
  | idle
  | bootstrapping
  | ready
  | streaming
  | reconnecting
  | error
  deriving DecidableEq, Repr

structure ChatClientError where
  code : String
  message : String
  retryable : Bool
  deriving DecidableEq, Repr

structure PublicSession where
  tenantId : Id
  siteId : Id
  principalId : Id
  sessionId : Id
  expiresAt : Int
  deriving DecidableEq, Repr

inductive LiveStatus
  | streaming
  | completed
  | failed
  | cancelled
  deriving DecidableEq, Repr

structure LiveMessage where
  messageId : Id
  status : LiveStatus
  text : String
  parts : List ContentPart
  deriving DecidableEq, Repr

inductive RunStateStatus
  | queued
  | running
  | completed
  | failed
  | cancelRequested
  | cancelled
  deriving DecidableEq, Repr

structure RunState where
  runId : Option Id
  status : RunStateStatus
  failureCode : Option String
  deriving DecidableEq, Repr

structure ContactRequestState where
  requestId : Id
  prompt : String
  required : Bool
  deriving DecidableEq, Repr

inductive HandoffStateStatus
  | requested
  | completed
  deriving DecidableEq, Repr

structure HandoffState where
  handoffId : Id
  status : HandoffStateStatus
  deriving DecidableEq, Repr

/-- `liveMessages` lists the values of the record, whose keys are their ids. -/
structure ChatState where
  phase : ChatPhase
  session : Option PublicSession
  conversation : Option ConversationResource
  messages : List MessageResource
  liveMessages : List LiveMessage
  run : Option RunState
  contactRequest : Option ContactRequestState
  handoff : Option HandoffState
  lastEventId : Option Id
  lastEventSequence : ℕ
  recentEventIds : List Id
  error : Option ChatClientError
  deriving DecidableEq, Repr

inductive ChatStateAction
  | phaseChanged (phase : ChatPhase)
  | sessionLoaded (session : PublicSession)
  | snapshotLoaded (conversation : ConversationResource) (messages : List MessageResource)
  | conversationCleared
  | liveCleared
  | messageSubmitted (message : MessageResource)
  | runCancelled (runId : Id) (requested : Bool)
  | runRetrying
  | structuredInputSubmitted (requestId : Id)
  | eventReceived (event : PublicConversationEvent)
  | cursorRestored (eventId : Id) (sequence : ℕ)
  | cursorCleared
  | connectionFailed (error : ChatClientError)
  | errorRaised (error : ChatClientError)
  deriving DecidableEq, Repr

/-- Setting an entry of a `Map` keeps the place of its key. -/
def setMessage (messages : List MessageResource) (message : MessageResource) : List MessageResource :=
  if messages.any fun m => decide (m.messageId = message.messageId) then
    messages.map fun m => if m.messageId = message.messageId then message else m
  else messages ++ [message]

namespace ChatState

def initialChatState : ChatState where
  phase := .idle
  session := none
  conversation := none
  messages := []
  liveMessages := []
  run := none
  contactRequest := none
  handoff := none
  lastEventId := none
  lastEventSequence := 0
  recentEventIds := []
  error := none

def withoutError (state : ChatState) : ChatState := { state with error := none }

def withoutConversation (state : ChatState) : ChatState := { state with conversation := none }

def withoutCursor (state : ChatState) : ChatState := { state with lastEventId := none }

def withoutConversationState (state : ChatState) : ChatState :=
  { state with run := none, contactRequest := none, handoff := none }

section

variable (locale : Collation)

def before (left right : MessageResource) : Bool :=
  decide (left.sequence < right.sequence) ||
    (decide (left.sequence = right.sequence) &&
      decide (locale.sortKey left.messageId ≤ locale.sortKey right.messageId))

def canonicalMessages (messages : List MessageResource) : List MessageResource :=
  (messages.foldl setMessage []).mergeSort (before locale)

end

def shows (state : ChatState) (messageId : Id) : Bool :=
  state.messages.any fun message => decide (message.messageId = messageId)

def liveMessage (messageId : Id) : LiveMessage := ⟨messageId, .streaming, "", []⟩

-- message ids are the UUIDs of the server, none of them a property that an object of the source inherits
def currentLive (state : ChatState) (messageId : Id) : LiveMessage :=
  (state.liveMessages.find? fun live => decide (live.messageId = messageId)).getD (liveMessage messageId)

def setLive (lives : List LiveMessage) (live : LiveMessage) : List LiveMessage :=
  if lives.any fun l => decide (l.messageId = live.messageId) then
    lives.map fun l => if l.messageId = live.messageId then live else l
  else lives ++ [live]

def textFromParts (parts : List ContentPart) : String :=
  String.join (parts.filterMap fun
    | .text text => some text
    | _ => none)

def isTool (toolCallId : Id) : ContentPart → Bool
  | .toolStatus id _ _ => decide (id = toolCallId)
  | _ => false

def upsertTool (parts : List ContentPart) (toolCallId : Id) (label : String) (status : ToolStatus) :
    List ContentPart :=
  parts.filter (fun part => !isTool toolCallId part) ++ [.toolStatus toolCallId label status]

def updateTool (parts : List ContentPart) (toolCallId : Id) (status : ToolStatus) : List ContentPart :=
  parts.map fun
    | .toolStatus id label old => if id = toolCallId then .toolStatus id label status else .toolStatus id label old
    | part => part

def updateLive (current : LiveMessage) : EventBody → LiveMessage
  | .messageDelta delta => { current with text := current.text ++ delta }
  | .messageCompleted parts => { current with
      status := .completed, parts := parts, text := (present (textFromParts parts)).getD current.text }
  | .toolStarted toolCallId label => { current with parts := upsertTool current.parts toolCallId label .started }
  | .toolCompleted toolCallId => { current with parts := updateTool current.parts toolCallId .completed }
  | .toolFailed toolCallId => { current with parts := updateTool current.parts toolCallId .failed }
  | .citationAdded citationId sourceId title url excerpt =>
      { current with parts := current.parts ++ [.citation citationId sourceId title url excerpt] }
  | _ => current

def recentIds (ids : List Id) (eventId : Id) : List Id := (ids ++ [eventId]).drop (ids.length + 1 - 100)

def recorded (state : ChatState) (event : PublicConversationEvent) : ChatState :=
  { state with
    phase := .streaming
    lastEventId := some event.eventId
    lastEventSequence := max state.lastEventSequence event.sequence
    recentEventIds := recentIds state.recentEventIds event.eventId }

def announced (next : ChatState) (event : PublicConversationEvent) : EventBody → ChatState
  | .runStarted _ => { withoutError next with run := some ⟨event.runId, .running, none⟩ }
  | .runCompleted => { withoutError next with phase := .ready, run := some ⟨event.runId, .completed, none⟩ }
  | .runFailed code => { next with
      phase := .error
      run := some ⟨event.runId, .failed, some code⟩
      error := some ⟨code, "The agent run failed.", true⟩ }
  | .contactRequested requestId prompt required =>
      { withoutError next with phase := .ready, contactRequest := some ⟨requestId, prompt, required⟩ }
  | .handoffRequested handoffId => { next with handoff := some ⟨handoffId, .requested⟩ }
  | .handoffCompleted handoffId => { next with handoff := some ⟨handoffId, .completed⟩ }
  | _ => next

def receiveEvent (state : ChatState) (event : PublicConversationEvent) : ChatState :=
  if event.eventId ∈ state.recentEventIds then state
  else match event.body with
    | .syncRequired => state
    | .event body =>
        let next := announced (recorded state event) event body
        match event.messageId.bind present with
          | none => next
          | some messageId =>
              if state.shows messageId then next
              else { next with
                liveMessages := setLive state.liveMessages (updateLive (state.currentLive messageId) body) }

variable (locale : Collation)

def snapshotOf (state : ChatState) (conversation : ConversationResource)
    (messages : List MessageResource) : ChatState :=
  { state with
    conversation := some conversation
    messages := canonicalMessages locale messages
    liveMessages := state.liveMessages.filter fun live =>
      !(canonicalMessages locale messages).any fun message => decide (message.messageId = live.messageId)
    phase := if state.run.any fun run => decide (run.status = .failed) then .error else .ready }

def reduceChatState (state : ChatState) : ChatStateAction → ChatState
  | .phaseChanged phase => withoutError { state with phase := phase }
  | .sessionLoaded session => withoutError { state with session := some session, phase := .ready }
  | .snapshotLoaded conversation messages =>
      let snapshot := snapshotOf locale state conversation messages
      if state.run.any fun run => decide (run.status = .failed) then snapshot else withoutError snapshot
  | .conversationCleared =>
    withoutError { withoutConversationState (withoutCursor (withoutConversation state)) with
      messages := []
      liveMessages := []
      lastEventSequence := 0
      recentEventIds := []
      phase := .ready }
  | .liveCleared => { state with liveMessages := [] }
  | .messageSubmitted message => { state with
      messages := canonicalMessages locale (state.messages ++ [message])
      run := some ⟨none, .queued, none⟩ }
  | .runCancelled runId requested =>
      { state with run := some ⟨some runId, if requested then .cancelRequested else .cancelled, none⟩ }
  | .runRetrying => withoutError { state with phase := .streaming, run := some ⟨none, .queued, none⟩ }
  | .structuredInputSubmitted requestId =>
      if state.contactRequest.map ContactRequestState.requestId = some requestId then
        withoutError { state with contactRequest := none, phase := .streaming }
      else state
  | .cursorCleared => { withoutCursor state with lastEventSequence := 0, recentEventIds := [] }
  | .cursorRestored eventId sequence => { state with lastEventId := some eventId, lastEventSequence := sequence }
  | .connectionFailed error => { state with phase := .reconnecting, error := some error }
  | .errorRaised error => { state with phase := .error, error := some error }
  | .eventReceived event => receiveEvent state event

end ChatState

end ChatCore.Client
