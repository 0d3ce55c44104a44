import ChatCore.Runs.Execution
import ChatCore.Transition.Steps

/-! The server processes over one database: visitors, sweeps, and workers executing runs. -/

namespace ChatCore.Runs

open Protocol Relational Database Services

/-- `active` holds the maps of the `RunCancellationCoordinator`s, `requests` the aborts still to be asked
of them, `issued` the ids drawn so far; `claimed` and `appended` record what has happened. -/
structure State where
  db : Tables
  issued : List Id
  executions : List Execution
  active : ℕ → Id → Option ℕ
  requests : List (ℕ × Id)
  claimed : List Id
  appended : List EventStore.PersistedEvent

inductive Action
  | visit (process : ℕ) (call : Call)
  | sweep (policy : RetentionService.RetentionPolicy) (orders : RetentionService.Orders) (now : Timestamp)
  | request (process : ℕ) (runId : Id)
  | claim (process : ℕ) (options : RunWorker.Options) (order : Arrangement AgentRun) (now : Timestamp)
      (resolved : Bool)
  | work (i : ℕ) (draw : Draw)
  | signal (i : ℕ) (signal : Signal)
  | renew (i : ℕ) (dateNow : Timestamp)
  | loseHeartbeat (i : ℕ)

def drawnIds : Call → Option (List Id)
  | .createConversation _ _ _ ids _ => some [ids.id, ids.userParticipantId, ids.agentParticipantId]
  | .submitMessage _ _ _ _ ids _ _ => some [ids.id, ids.runId, ids.assistantMessageId]
  | .createEmailHandoff _ _ _ _ ids _ _ => some [ids.runId, ids.id, ids.assistantMessageId]
  | .cancelRun .. | .submitStructuredInput .. | .replayEvents .. => some []
  | _ => none

namespace State

variable (server : Deployment)

def initial (db : Tables) : State := ⟨db, [], [], fun _ _ => none, [], [], []⟩

def Fresh (s : State) (ids : List Id) : Prop := ids.Nodup ∧ ∀ id ∈ ids, id ∉ s.issued

instance (s : State) (ids : List Id) : Decidable (s.Fresh ids) := inferInstanceAs (Decidable (_ ∧ _))

def put (s : State) (i : ℕ) (e : Execution) : State :=
  { s with
    executions := s.executions.set i e
    active := fun process runId =>
      if e.phase.isOver && decide (process = e.process) && decide (runId = e.run.runId) &&
        decide (s.active process runId = some i) then none else s.active process runId }

/-- `RunService.cancel` has the run aborted in its own process when it answers `cancel_requested`. -/
def requestsOf (process : ℕ) : Except ServerError Outcome → List (ℕ × Id)
  | .ok (.cancellation response) =>
      if response.cancellationStatus = .cancelRequested then [(process, response.runId)] else []
  | _ => []

def visit (s : State) (process : ℕ) (call : Call) (ids : List Id) : State :=
  let result := (body server call).run s.db
  { s with
    db := result.2
    issued := ids ++ s.issued
    requests := requestsOf process result.1 ++ s.requests }

def begin (s : State) (process : ℕ) (options : RunWorker.Options) (now : Timestamp) (resolved : Bool)
    (run : AgentRun) (db : Tables) : State :=
  { s with
    db := db
    executions := s.executions ++ [{
      process := process
      options := options
      now := now
      run := run
      aborted := false
      phase := if resolved then .loading else .writing (.fail "CONNECTOR_NOT_FOUND") .unresolved }]
    active := fun p runId =>
      if resolved && decide (p = process) && decide (runId = run.runId) then some s.executions.length
      else s.active p runId
    claimed := s.claimed ++ [run.runId] }

def appendedBy : Except ServerError Outcome → List EventStore.PersistedEvent
  | .ok (.appended persisted) => [persisted]
  | _ => []

def work (s : State) (i : ℕ) (e : Execution) (call : Call) : State :=
  let result := (body server call).run s.db
  { s with
    db := result.2
    appended := s.appended ++ appendedBy result.1 }.put i (e.resume server.platform result.1)

def renew (s : State) (i : ℕ) (e : Execution) (dateNow : Timestamp) : State :=
  let result := (body server (.renewLease e.options e.run dateNow)).run s.db
  match result.1 with
  | .ok (.answer true) => { s with db := result.2 }
  | _ => { s with db := result.2 }.put i e.abort

def step (s : State) : Action → State
  | .visit process call => match drawnIds call with
    | some ids => if s.Fresh ids then s.visit server process call ids else s
    | none => s
  | .sweep policy orders now => { s with db := ((taskBody server (.sweep policy orders now)).run s.db).2 }
  | .request process runId =>
      if (process, runId) ∈ s.requests then
        let done := { s with requests := s.requests.erase (process, runId) }
        match (s.active process runId).bind fun i => s.executions[i]?.map fun e => (i, e) with
        | some (i, e) => done.put i e.abort
        | none => done
      else s
  | .claim process options order now resolved => match (body server (.claim options order now)).run s.db with
    | (.ok (.claimed (some run)), db) => s.begin process options now resolved run db
    | _ => s
  | .work i draw => match s.executions[i]? with
    | some e => match e.call draw with
      | some call => s.work server i e call
      | none => s
    | none => s
  | .signal i signal => match s.executions[i]? with
    | some e => s.put i (e.react signal)
    | none => s
  | .renew i dateNow => match s.executions[i]? with
    | some e => if e.phase.beats then s.renew server i e dateNow else s
    | none => s
  | .loseHeartbeat i => match s.executions[i]? with
    | some e => if e.phase.beats then s.put i e.abort else s
    | none => s

end State

def reach (server : Deployment) (principals : Table Principal.principalId)
    (browserSessions : Table BrowserSession.sessionId) (bootstraps : Table SessionBootstrapIdempotency.key)
    (actions : List Action) : State :=
  Transition.exec (State.step server) (State.initial (unused principals browserSessions bootstraps)) actions

def Reachable (server : Deployment) (s : State) : Prop :=
  ∃ principals browserSessions bootstraps actions, reach server principals browserSessions bootstraps actions = s

end ChatCore.Runs
