import ChatCore.Services.Server

/-! `RunWorker.processNext`: the execution of a claimed run, from one call of the database to the next. -/

namespace ChatCore.Runs

open Protocol Relational Database Services

inductive StatusWrite
  | complete
  | fail (code : String)
  | cancel
  | waitForInput
  deriving DecidableEq, Repr

/-- Where a status is written: before `try`, in the loop, after it, or in the `catch` block. -/
inductive Place
  | unresolved
  | loop
  | afterLoop
  | handler
  deriving DecidableEq, Repr

/-- The points at which an execution waits: for a call of the database, or for its connector. -/
inductive Phase
  | loading
  | pulling (context : RunWorker.RunContext)
  | received (context : RunWorker.RunContext) (value : ConnectorValue)
  | stopping
  | materializing (context : RunWorker.RunContext) (event : ConnectorEvent)
  | appending (context : RunWorker.RunContext) (event : ConnectorEvent)
  | ended
  | writing (write : StatusWrite) (place : Place)
  | leaving
  | catching
  | handling
  | returned
  | rejected
  | crashed
  deriving DecidableEq

namespace Phase

def isOver : Phase → Bool
  | .returned | .rejected | .crashed => true
  | _ => false

def calls : Phase → Bool
  | .loading | .received .. | .materializing .. | .appending .. | .ended | .writing .. | .handling => true
  | _ => false

def beats : Phase → Bool
  | .writing _ .unresolved | .returned | .rejected | .crashed => false
  | _ => true

end Phase

structure Execution where
  process : ℕ
  options : RunWorker.Options
  now : Timestamp
  run : AgentRun
  aborted : Bool
  phase : Phase
  deriving DecidableEq

/-- What a call takes from its surroundings: the orders of rows, `randomUUID()` and the time. -/
structure Draw where
  orders : RunWorker.Orders
  eventId : Id
  occurredAt : Timestamp

/-- What happens to an execution without a call of the database that succeeds. -/
inductive Signal
  | yields (value : ConnectorValue)
  | ends
  | throws
  | settles
  | fault
  | crash

def StatusWrite.call (run : AgentRun) (now : Timestamp) : StatusWrite → Call
  | .complete => .complete run.runId now
  | .fail code => .fail run.runId code now
  | .cancel => .cancel run now
  | .waitForInput => .waitForInput run.runId now

namespace Execution

variable (platform : Platform) (e : Execution)

def goto (phase : Phase) : Execution := { e with phase := phase }

def call (draw : Draw) : Option Call := match e.phase with
  | .loading => some (.loadContext e.run draw.orders)
  | .received .. | .ended | .handling => some (.isCancellationRequested e.run.runId)
  | .materializing context event => some (.materialize e.run e.now context.assistantParticipantId event)
  | .appending context event => some (.appendEvent context.scope event draw.eventId draw.occurredAt)
  | .writing write _ => some (write.call e.run e.now)
  | _ => none

/-- An exception: inside `try` it is caught, and `return()` of the stream comes first. -/
def raise : Execution := match e.phase with
  | .writing _ .unresolved | .writing _ .handler | .handling => e.goto .rejected
  | _ => e.goto .catching

def eventContext : ConnectorEventContext := ⟨e.run.conversationId, e.run.runId, e.run.assistantMessageId⟩

def examine (context : RunWorker.RunContext) (value : ConnectorValue) (cancellationRequested : Bool) : Execution :=
  if e.aborted then e.goto (.writing .cancel .loop)
  else if cancellationRequested then { e with aborted := true, phase := .stopping }
  else match acceptedEvent platform value e.eventContext with
    | none => e.goto (.writing (.fail "INVALID_CONNECTOR_EVENT") .loop)
    | some event => e.goto (.materializing context event)

def afterAppend (context : RunWorker.RunContext) : EventBody → Phase
  | .contactRequested .. => .writing .waitForInput .loop
  | .runCompleted => .writing .complete .loop
  | .runFailed code => .writing (.fail code) .loop
  | _ => .pulling context

def resume : Except ServerError Outcome → Execution
  | .error _ => e.raise
  | .ok outcome => match e.phase, outcome with
    | .loading, .context context => e.goto (.pulling context)
    | .received context value, .answer requested => e.examine platform context value requested
    | .materializing context event, .done _ => e.goto (.appending context event)
    | .appending context event, .appended _ => e.goto (afterAppend context event.body)
    | .ended, .answer requested =>
        e.goto (.writing (if requested then .cancel else .fail "CONNECTOR_INCOMPLETE") .afterLoop)
    | .handling, .answer requested =>
        e.goto (.writing (if requested then .cancel else .fail "CONNECTOR_EXECUTION_FAILED") .handler)
    | .writing _ .loop, .done _ => e.goto .leaving
    | .writing _ _, .done _ => e.goto .returned
    | _, _ => e

def react : Signal → Execution
  | .yields value => match e.phase with
    | .pulling context => e.goto (.received context value)
    | _ => e
  | .ends => match e.phase with
    | .pulling _ => e.goto (if e.aborted then .writing .cancel .afterLoop else .ended)
    | _ => e
  | .throws => match e.phase with
    | .pulling _ | .stopping | .leaving => e.goto .catching
    | _ => e
  | .settles => match e.phase with
    | .stopping => e.goto (.writing .cancel .loop)
    | .leaving => e.goto .returned
    | .catching => e.goto (if e.aborted then .writing .cancel .handler else .handling)
    | _ => e
  | .fault => if e.phase.calls then e.raise else e
  | .crash => if e.phase.isOver then e else e.goto .crashed

def abort : Execution := { e with aborted := true }

end Execution

end ChatCore.Runs
