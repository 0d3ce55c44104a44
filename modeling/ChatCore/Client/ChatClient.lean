import ChatCore.Client.State
import ChatCore.Cooperative.Tasks
import ChatCore.Services.EmailHandoffs
import ChatCore.Services.Runs
import ChatCore.Services.StructuredInputs

/-! `createChatClient`: the commands of a browser client, its streams, its storage and its timers. -/

namespace ChatCore.Client

open Cooperative Protocol Database Services ConversationService EventStore

structure PersistedChatState where
  browserIdentity : Option Id
  conversationId : Option Id
  lastEventId : Option Id
  lastEventSequence : Option ℕ
  deriving DecidableEq, Repr

def PersistedChatState.withoutCursor (state : PersistedChatState) : PersistedChatState :=
  { state with lastEventId := none, lastEventSequence := none }

structure SessionBootstrapResponse where
  session : PublicSession
  browserIdentity : Option Id
  deriving DecidableEq, Repr

inductive ChatError
  | http (code : String) (message : String) (status : ℕ)
  | error (message : String)
  deriving DecidableEq, Repr

def isAuthenticationError : ChatError → Bool
  | .http _ _ status => decide (status = 401)
  | .error _ => false

def toClientError (error : ChatError) (retryable : Bool) : ChatClientError := match error with
  | .http code message status =>
    ⟨code, message, decide (status = 408) || decide (status = 429) || decide (500 ≤ status)⟩
  | .error message => ⟨"CLIENT_ERROR", message, retryable⟩

/-- What the functions of the client wait for: the storage, the transport, a session that is being renewed, the
two requests of a conversation that is loaded, and their turn. -/
inductive Request
  | load
  | save (state : PersistedChatState)
  | bootstrap (browserIdentity : Option Id) (idempotencyKey : Id)
  | createConversation (idempotencyKey : Id)
  | getConversation (conversationId : Id)
  | listMessages (conversationId : Id)
  | submitMessage (conversationId : Id) (parts : List String) (idempotencyKey : Id)
  | createEmailHandoff (conversationId : Id) (email : String) (idempotencyKey : Id)
  | cancel (conversationId idempotencyKey : Id)
  | submitStructuredInput (conversationId requestId : Id) (value : Option String) (idempotencyKey : Id)
  | retry (conversationId idempotencyKey : Id)
  | connect (stream : ℕ) (conversationId : Id) (lastEventId : Option Id)
  | read (stream : ℕ)
  | renewal
  | loaded (load : ℕ) (conversationId : Id)
  | turn
  deriving DecidableEq, Repr

abbrev Request.Reply : Request → Type
  | .load => Option PersistedChatState
  | .bootstrap .. => SessionBootstrapResponse
  | .createConversation _ => ConversationResource
  | .getConversation _ => ConversationResource
  | .listMessages _ => List MessageResource
  | .loaded .. => ConversationResource × List MessageResource
  | .submitMessage .. => MessageResource
  | .createEmailHandoff .. => EmailHandoffService.CreateEmailHandoffResponse
  | .cancel .. => RunService.CancelRunResponse
  | .submitStructuredInput .. => StructuredInputService.InputResource
  | .read _ => Option (List PublicConversationEvent)
  | .save _ | .retry .. | .connect .. | .renewal | .turn => Unit

inductive Job
  | stream (stream : ℕ) (conversationId : Id) (lastEventId : Option Id)
  | events (stream : ℕ)
  | getConversation (load : ℕ) (conversationId : Id)
  | listMessages (load : ℕ) (conversationId : Id)
  | externalUpdate
  deriving DecidableEq, Repr

inductive Timer
  | reconnect
  | renewal
  deriving DecidableEq, Repr

structure ChatClientOptions where
  locale : Collation
  createId : ℕ → Id
  renewalLeadMs : Int

structure Load where
  conversation : Option ConversationResource
  messages : Option (List MessageResource)
  error : Option ChatError
  deriving DecidableEq, Repr

/-- `Promise.all` of the two. -/
def Load.outcome (load : Load) : Option (Except ChatError (ConversationResource × List MessageResource)) :=
  match load.error, load.conversation, load.messages with
  | some error, _, _ => some (.error error)
  | none, some conversation, some messages => some (.ok (conversation, messages))
  | _, _, _ => none

/-- The state that is shown is what the dispatched actions made of the initial one. -/
structure Screen (locale : Collation) where
  actions : List ChatStateAction
  state : ChatState
  reduced : actions.foldl (ChatState.reduceChatState locale) ChatState.initialChatState = state

def Screen.dispatch {locale : Collation} (screen : Screen locale) (action : ChatStateAction) : Screen locale where
  actions := screen.actions ++ [action]
  state := ChatState.reduceChatState locale screen.state action
  reduced := by rw [List.foldl_concat, screen.reduced]

def Screen.initial (locale : Collation) : Screen locale := ⟨[], ChatState.initialChatState, rfl⟩

/-- The variables of `createChatClient`. The streams are numbered as they are opened; `controllers` says of each
whether it is aborted. The timers are numbered as they are set; `timers` are those that are pending. Of the
loads, which are numbered too, `results` says what they have come to. -/
structure ChatClient (options : ChatClientOptions) where
  screen : Screen options.locale
  persisted : PersistedChatState
  destroyed : Bool
  started : Bool
  controllers : List Bool
  streamAbort : Option ℕ
  timers : List (ℕ × Timer)
  timersSet : ℕ
  reconnectTimer : Option ℕ
  renewalTimer : Option ℕ
  renewing : Bool
  reconnectAttempt : ℕ
  ignoreStorage : Bool
  externalUpdates : List PersistedChatState
  updating : Bool
  loads : ℕ
  results : ℕ → Id → Load
  created : ℕ
  now : Int

/-- What happens to a client from outside: calls of its methods, storage events, events of the window and
timers. -/
inductive Stimulus
  | start
  | createConversation
  | selectConversation (conversationId : Id)
  | sendMessage (parts : List String)
  | createEmailHandoff (email : String)
  | cancel
  | submitStructuredInput (requestId : Id) (value : Option String)
  | retryRun
  | retry
  | destroy
  | stored (next : Option PersistedChatState)
  | recovered
  | due (timer : ℕ)
  | clock (now : Int)
  deriving DecidableEq, Repr

namespace ChatClient

variable {options : ChatClientOptions}

abbrev Routine (options : ChatClientOptions) :=
  Program (ChatClient options) ChatError Job Request.Reply

def state (c : ChatClient options) : ChatState := c.screen.state

def aborted (c : ChatClient options) (stream : ℕ) : Bool := c.controllers.getD stream false

def abort (c : ChatClient options) : ChatClient options := match c.streamAbort with
  | some stream => { c with controllers := c.controllers.set stream true }
  | none => c

def perform (request : Request) : Routine options request.Reply := .call request

def setTimer (c : ChatClient options) (timer : Timer) : ChatClient options :=
  { c with timers := c.timers ++ [(c.timersSet, timer)], timersSet := c.timersSet + 1 }

def clearTimer (c : ChatClient options) (timer : Option ℕ) : ChatClient options :=
  { c with timers := c.timers.filter fun t => decide (some t.1 ≠ timer) }

def nextTurn : Routine options Unit := Program.pause .turn

def settle {α : Type} (p : Routine options α) : Routine options α := Program.settle .turn p

def getClient : Routine options (ChatClient options) := .get

def modifyClient (f : ChatClient options → ChatClient options) : Routine options Unit := .modify f

def dispatch (action : ChatStateAction) : Routine options Unit :=
  modifyClient fun c => { c with screen := c.screen.dispatch action }

def createId : Routine options Id := do
  let c ← getClient
  modifyClient fun c => { c with created := c.created + 1 }
  return options.createId c.created

def raiseError (error : ChatError) : Routine options Unit := dispatch (.errorRaised (toClientError error true))

def requireStarted : Routine options Unit := do
  let c ← getClient
  if !c.started || c.state.session.isNone then throw (.error "Start the chat client before using it.")

def requireConversation : Routine options ConversationResource := do
  requireStarted
  match (← getClient).state.conversation with
  | some conversation => return conversation
  | none => throw (.error "Select or create a conversation first.")

def persist : Routine options Unit := do
  modifyClient fun c => { c with ignoreStorage := true }
  let c ← getClient
  (perform (.save c.persisted)).andFinally (modifyClient fun c => { c with ignoreStorage := false })

def scheduleRenewal : Routine options Unit := modifyClient fun c =>
  { (c.clearTimer c.renewalTimer).setTimer .renewal with renewalTimer := some c.timersSet }

def bootstrapSession (idempotencyKey : Id) : Routine options Unit := do
  let c ← getClient
  let response : SessionBootstrapResponse ← perform
    (.bootstrap (c.persisted.browserIdentity.bind present) idempotencyKey)
  match response.browserIdentity.bind present with
  | some browserIdentity =>
    modifyClient fun c => { c with persisted := { c.persisted with browserIdentity := some browserIdentity } }
  | none => pure ()
  dispatch (.sessionLoaded response.session)
  settle persist
  scheduleRenewal

def renewSession : Routine options Unit := do
  let c ← getClient
  if c.renewing then perform .renewal
  else if (c.persisted.browserIdentity.bind present).isNone then
    throw (.error "Cannot renew the chat session before browser identity is available.")
  else do
    modifyClient fun c => { c with renewing := true }
    let idempotencyKey ← createId
    (settle (bootstrapSession idempotencyKey)).andFinally (modifyClient fun c => { c with renewing := false })

def ensureFreshSession : Routine options Unit := do
  let c ← getClient
  match c.state.session with
  | none => pure ()
  | some session =>
      if !c.started || c.destroyed || decide (options.renewalLeadMs < session.expiresAt - c.now) then pure ()
      else settle renewSession

/-- The `catch` of `runAuthenticated`. -/
def reauthenticate {α : Type} (command : Routine options α) (error : ChatError) : Routine options α :=
  if !isAuthenticationError error then throw error
  else do
    settle renewSession
    command

def runAuthenticated {α : Type} (command : Routine options α) : Routine options α := do
  settle ensureFreshSession
  Program.tryCatch command (reauthenticate command)

def runCommand {α : Type} (command : Routine options α) : Routine options α :=
  Program.tryCatch (settle (runAuthenticated command)) fun error => do
    raiseError error
    throw error

def openStream : Routine options Unit := do
  let c ← getClient
  match c.state.conversation with
  | none => pure ()
  | some conversation =>
      if c.destroyed then pure ()
      else do
        modifyClient fun c => { c.abort.clearTimer c.reconnectTimer with
          controllers := c.abort.controllers ++ [false]
          streamAbort := some c.controllers.length }
        .fork (.stream c.controllers.length conversation.conversationId (c.state.lastEventId.bind present))

def record (load : ℕ) (conversationId : Id) (f : Load → Load) : Routine options Unit := modifyClient fun c =>
  { c with results := fun l id => if l = load ∧ id = conversationId then f (c.results l id) else c.results l id }

def loading (load : ℕ) (request : Request) (conversationId : Id) (succeeds : request.Reply → Load → Load) :
    Routine options Unit :=
  Program.tryCatch (do
    let reply ← runAuthenticated (perform request)
    record load conversationId (succeeds reply)) fun error =>
      record load conversationId fun l => { l with error := l.error.or (some error) }

def getConversationAndMessages (conversationId : Id) :
    Routine options (ConversationResource × List MessageResource) := do
  let c ← getClient
  modifyClient fun c => { c with loads := c.loads + 1 }
  .fork (.getConversation c.loads conversationId)
  .fork (.listMessages c.loads conversationId)
  perform (.loaded c.loads conversationId)

def loadConversation (conversationId : Id) : Routine options Unit := do
  let (conversation, messages) ← getConversationAndMessages conversationId
  let c ← getClient
  if c.state.conversation.any fun shown => decide (shown.conversationId ≠ conversationId) then
    dispatch .conversationCleared
  modifyClient fun c => { c with persisted := { c.persisted with conversationId := some conversationId } }
  dispatch (.snapshotLoaded conversation messages)
  settle persist
  openStream

def reload : Routine options Unit := do
  match (← getClient).persisted.conversationId.bind present with
  | some conversationId => settle (loadConversation conversationId)
  | none => pure ()

def synchronize : Routine options Unit := do
  match (← getClient).persisted.conversationId.bind present with
  | none => pure ()
  | some conversationId => do
      let (conversation, messages) ← getConversationAndMessages conversationId
      dispatch (.snapshotLoaded conversation messages)

def synchronizes : StreamedBody → Bool
  | .event (.messageCompleted _) | .event (.runFailed _) => true
  | _ => false

def handleEvent (event : PublicConversationEvent) : Routine options Unit :=
  if event.body = .syncRequired then do
    modifyClient fun c => { c with persisted := c.persisted.withoutCursor }
    dispatch .cursorCleared
    dispatch .liveCleared
    settle synchronize
    settle persist
    modifyClient ChatClient.abort
    openStream
  else do
    dispatch (.eventReceived event)
    modifyClient fun c => { c with persisted :=
      { c.persisted with lastEventId := some event.eventId, lastEventSequence := some event.sequence } }
    if synchronizes event.body then settle synchronize
    settle persist
    modifyClient fun c => { c with reconnectAttempt := 0 }

def scheduleReconnect (cause : Option ChatError) : Routine options Unit := do
  let c ← getClient
  if c.destroyed then pure ()
  else do
    match cause with
    | some error => dispatch (.connectionFailed (toClientError error true))
    | none => dispatch (.phaseChanged .reconnecting)
    modifyClient fun c => { c.setTimer .reconnect with
      reconnectTimer := some c.timersSet
      reconnectAttempt := c.reconnectAttempt + 1 }

def ended (stream : ℕ) (cause : Option ChatError) : Routine options Unit := do
  nextTurn
  let c ← getClient
  if !c.aborted stream then scheduleReconnect cause

def failed (stream : ℕ) (error : ChatError) : Routine options Unit := do
  let c ← getClient
  if !c.aborted stream && isAuthenticationError error then
    Program.tryCatch (do
      settle renewSession
      let c ← getClient
      if !c.aborted stream then openStream
      ended stream none) fun error => ended stream (some error)
  else ended stream (some error)

def connect (stream : ℕ) (conversationId : Id) (lastEventId : Option Id) : Routine options Unit :=
  Program.tryCatch (do
    perform (.connect stream conversationId lastEventId)
    .fork (.events stream)) (failed stream)

def streamEvents (stream : ℕ) (conversationId : Id) (lastEventId : Option Id) : Routine options Unit :=
  Program.tryCatch (do
    settle ensureFreshSession
    connect stream conversationId lastEventId) fun error => ended stream (some error)

/-- One round of `parseEventStream`: a read, and the events that it completes, one after the other. -/
def parseEvents (stream : ℕ) : Routine options Unit :=
  Program.tryCatch (do
    let events : Option (List PublicConversationEvent) ← perform (.read stream)
    match events with
    | none => ended stream none
    | some events => do
        events.forM fun event => settle (handleEvent event)
        .fork (.events stream)) (failed stream)

def applyExternalState (next : PersistedChatState) : Routine options Unit := do
  let c ← getClient
  modifyClient fun c => { c with persisted := next }
  if c.state.session.isNone then pure ()
  else if next.conversationId ≠ c.persisted.conversationId then
    match next.conversationId.bind present with
    | some conversationId => settle (loadConversation conversationId)
    | none => do
        modifyClient ChatClient.abort
        dispatch .conversationCleared
  else if next.lastEventId ≠ c.persisted.lastEventId ∧ (next.conversationId.bind present).isSome then do
    settle synchronize
    match next.lastEventId.bind present with
    | some eventId => do
        let c ← getClient
        dispatch (.cursorRestored eventId (next.lastEventSequence.getD c.state.lastEventSequence))
    | none => pure ()
  else pure ()

def applyExternalUpdate : Routine options Unit := do
  nextTurn
  let c ← getClient
  match c.externalUpdates with
  | [] => modifyClient fun c => { c with updating := false }
  | next :: rest => do
      modifyClient fun c => { c with externalUpdates := rest }
      Program.tryCatch (settle (applyExternalState next)) raiseError
      .fork .externalUpdate

def starting (persisted : Option PersistedChatState) : Routine options Unit := do
  modifyClient fun c => { c with persisted := persisted.getD ⟨none, none, none, none⟩ }
  settle (bootstrapSession (← createId))
  let c ← getClient
  match c.persisted.lastEventId.bind present with
  | some eventId => dispatch (.cursorRestored eventId (c.persisted.lastEventSequence.getD 0))
  | none => pure ()
  settle persist
  reload

def start : Routine options Unit := do
  let c ← getClient
  if c.started then pure ()
  else do
    modifyClient fun c => { c with started := true }
    dispatch (.phaseChanged .bootstrapping)
    Program.tryCatch (do
      let persisted ← perform .load
      starting persisted) fun error => do
        raiseError error
        throw error

def createConversation : Routine options ConversationResource := do
  requireStarted
  let idempotencyKey ← createId
  let conversation : ConversationResource ←
    settle (runCommand (perform (.createConversation idempotencyKey)))
  let c ← getClient
  if c.state.conversation.map ConversationResource.conversationId ≠ some conversation.conversationId then
    dispatch .conversationCleared
  modifyClient fun c => { c with
    persisted := { c.persisted.withoutCursor with conversationId := some conversation.conversationId } }
  dispatch .cursorCleared
  dispatch (.snapshotLoaded conversation [])
  settle persist
  openStream
  return conversation

def selectConversation (conversationId : Id) : Routine options Unit := do
  requireStarted
  let c ← getClient
  if c.persisted.conversationId ≠ some conversationId then do
    modifyClient fun c =>
      { c with persisted := { c.persisted.withoutCursor with conversationId := some conversationId } }
    dispatch .cursorCleared
  settle (loadConversation conversationId)

def sendMessage (parts : List String) : Routine options MessageResource := do
  let conversation ← requireConversation
  let idempotencyKey ← createId
  let message : MessageResource ←
    settle (runCommand (perform (.submitMessage conversation.conversationId parts idempotencyKey)))
  dispatch (.messageSubmitted message)
  openStream
  return message

def createEmailHandoff (email : String) : Routine options EmailHandoffService.CreateEmailHandoffResponse := do
  let conversation ← requireConversation
  let idempotencyKey ← createId
  let handoff : EmailHandoffService.CreateEmailHandoffResponse ←
    settle (runCommand (perform (.createEmailHandoff conversation.conversationId email idempotencyKey)))
  openStream
  return handoff

def cancel : Routine options RunService.CancelRunResponse := do
  let conversation ← requireConversation
  let idempotencyKey ← createId
  let outcome : RunService.CancelRunResponse ←
    settle (runCommand (perform (.cancel conversation.conversationId idempotencyKey)))
  dispatch (.runCancelled outcome.runId (outcome.cancellationStatus = .cancelRequested))
  return outcome

def submitStructuredInput (requestId : Id) (value : Option String) :
    Routine options StructuredInputService.InputResource := do
  let conversation ← requireConversation
  let c ← getClient
  if c.state.contactRequest.map ContactRequestState.requestId ≠ some requestId then
    throw (.error "The structured input request is not active.")
  let idempotencyKey ← createId
  let result : StructuredInputService.InputResource ←
    settle (runCommand
      (perform (.submitStructuredInput conversation.conversationId requestId value idempotencyKey)))
  dispatch (.structuredInputSubmitted requestId)
  openStream
  return result

def retryRun : Routine options Unit := do
  let conversation ← requireConversation
  let idempotencyKey ← createId
  settle (runCommand (perform (.retry conversation.conversationId idempotencyKey)))
  dispatch .runRetrying
  openStream

def retry : Routine options Unit := do
  let c ← getClient
  if !c.started then throw (.error "Start the chat client before retrying it.")
  modifyClient ChatClient.abort
  dispatch (.phaseChanged .bootstrapping)
  settle (runCommand (settle renewSession))
  reload

def recoverActiveSession : Routine options Unit := do
  settle ensureFreshSession
  let c ← getClient
  if !c.destroyed && c.state.conversation.isSome then openStream

def destroy : Routine options Unit :=
  modifyClient fun c => { (c.abort.clearTimer c.reconnectTimer).clearTimer c.renewalTimer with destroyed := true }

def body : Job → Routine options Unit
  | .stream stream conversationId lastEventId => streamEvents stream conversationId lastEventId
  | .events stream => parseEvents stream
  | .getConversation load conversationId => loading load (.getConversation conversationId) conversationId
      fun conversation l => { l with conversation := some conversation }
  | .listMessages load conversationId => loading load (.listMessages conversationId) conversationId
      fun messages l => { l with messages := some messages }
  | .externalUpdate => applyExternalUpdate

def reaction : Stimulus → Routine options Unit
  | .start => start
  | .createConversation => do discard createConversation
  | .selectConversation conversationId => selectConversation conversationId
  | .sendMessage parts => do discard (sendMessage parts)
  | .createEmailHandoff email => do discard (createEmailHandoff email)
  | .cancel => do discard cancel
  | .submitStructuredInput requestId value => do discard (submitStructuredInput requestId value)
  | .retryRun => retryRun
  | .retry => retry
  | .destroy => destroy
  | .stored next => do
      let c ← getClient
      match next with
      | none => pure ()
      | some next =>
          if c.destroyed || c.ignoreStorage then pure ()
          else do
            modifyClient fun c => { c with externalUpdates := c.externalUpdates ++ [next], updating := true }
            if !c.updating then .fork .externalUpdate
  | .recovered => do
      let c ← getClient
      if !c.destroyed then
        Program.tryCatch (settle recoverActiveSession) raiseError
  | .due timer => do
      let c ← getClient
      match c.timers.find? fun t => decide (t.1 = timer) with
      | none => pure ()
      | some (_, callback) => do
          modifyClient fun c => c.clearTimer (some timer)
          match callback with
          | .reconnect => openStream
          | .renewal => Program.tryCatch (settle renewSession) raiseError
  | .clock now => modifyClient fun c => { c with now := now }

variable (options)

def initial : ChatClient options where
  screen := .initial options.locale
  persisted := ⟨none, none, none, none⟩
  destroyed := false
  started := false
  controllers := []
  streamAbort := none
  timers := []
  timersSet := 0
  reconnectTimer := none
  renewalTimer := none
  renewing := false
  reconnectAttempt := 0
  ignoreStorage := false
  externalUpdates := []
  updating := false
  loads := 0
  results := fun _ _ => ⟨none, none, none⟩
  created := 0
  now := 0

abbrev Running := Traced (ChatClient options) ChatError Job Request.Reply

def begun : Running options := ⟨initial options, []⟩

variable {options}

def admissible (c : ChatClient options) : (request : Request) → Except ChatError request.Reply → Bool
  | .loaded load conversationId, reply => decide ((c.results load conversationId).outcome = some reply)
  | _, _ => true

def Running.happens (r : Running options) (stimulus : Stimulus) :
    Running options := r.invoke body (reaction stimulus)

def Running.answers (r : Running options) (task : ℕ) (request : Request) (reply : Except ChatError request.Reply) :
    Running options :=
  if r.state.admissible request reply then r.resume body task request reply else r

end ChatClient

end ChatCore.Client
