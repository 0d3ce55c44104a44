import ChatCore.EventDelivery.Logs
import ChatCore.Transition.Histories

/-! Runs of the responses, as runs of the database that they are served from. -/

namespace ChatCore.EventDelivery

open Transition Protocol Relational Database Services Services.EventNumbering Services.EventStore
  Services.EventStreams

section Moves

variable (server : Deployment) (options : EventBrokerOptions)

def moved (s : State) : Action → Option ServerMove
  | .move m => some m
  | .request _ scope conversationId lastEventId stamp =>
      if isOpaqueId conversationId && lastEventId.all isOpaqueId then
        some (.start (.replayEvents scope conversationId lastEventId stamp))
      else none
  | .proceed i randomUUID stamp => (s.responses[i]?).bind fun r =>
      if r.stage = .awaiting ∧ s.notification r = some .overflow then
        some (.start (.replayEvents r.scope r.conversationId (some randomUUID) stamp))
      else none
  | _ => none

def movesOf : State → List Action → List ServerMove
  | _, [] => []
  | s, a :: actions => (moved s a).toList ++ movesOf (s.step server options a) actions

variable {server options} {s : State}

lemma world_proceed (i : ℕ) (r : Response) (randomUUID : Id) (stamp : SyncStamp) :
    (s.proceed server i r randomUUID stamp).world = if r.stage = .awaiting ∧ s.notification r = some .overflow then
      s.world.step (body server) (.start (.replayEvents r.scope r.conversationId (some randomUUID) stamp))
      else s.world := by
  by_cases hover : r.stage = .awaiting ∧ s.notification r = some .overflow
  · obtain ⟨hstage, hn⟩ := hover
    rw [if_pos ⟨hstage, hn⟩, State.proceed, hstage]
    dsimp only
    rw [hn]
    rfl
  · rw [if_neg hover, State.proceed]
    cases hstage : r.stage with
    | replaying session =>
      dsimp only
      split <;> rfl
    | sending events => cases events <;> rfl
    | listening =>
      dsimp only
      split <;> rfl
    | awaiting =>
      dsimp only
      split
      · rfl
      · rename_i hn
        exact absurd ⟨hstage, hn⟩ hover
      · split <;> rfl
      · rfl
    | resyncing session =>
      dsimp only
      split <;> rfl
    | ended => rfl

lemma world_step (a : Action) : (s.step server options a).world = (moved s a).elim s.world
    (s.world.step (body server)) := by
  cases a with
  | move m => rfl
  | publish process session =>
    rw [State.step, State.publish]
    split
    · split
      · rfl
      · split <;> rfl
    · rfl
  | request process scope k lastEventId stamp =>
    rw [State.step, State.request, moved]
    split <;> rfl
  | proceed i randomUUID stamp =>
    rw [State.step, moved]
    cases s.responses[i]? with
    | none => rfl
    | some r =>
      rw [Option.bind_some]
      dsimp only
      rw [world_proceed]
      split <;> rfl
  | disconnect i =>
    rw [State.step]
    cases s.responses[i]? with
    | none => rfl
    | some r =>
      dsimp only
      rw [State.disconnect]
      split
      · rfl
      · split <;> rfl

lemma world_moves (actions : List Action) : (Transition.exec (State.step server options) s actions).world =
    s.world.exec (body server) (movesOf server options s actions) := by
  induction actions generalizing s with
  | nil => rfl
  | cons a actions ih =>
    rw [Transition.exec_cons, ih, world_step, movesOf]
    cases moved s a <;> rfl

lemma action_of_move {actions : List Action} {earlier later : List ServerMove} {m : ServerMove}
    (h : movesOf server options s actions = earlier ++ m :: later) :
    ∃ past a future, actions = past ++ a :: future ∧
      movesOf server options s past = earlier ∧
      moved (Transition.exec (State.step server options) s past) a = some m := by
  induction actions generalizing s earlier with
  | nil =>
    cases earlier with
    | nil => cases h
    | cons => cases h
  | cons a actions ih =>
    rw [movesOf] at h
    cases hm : moved s a with
    | none =>
      rw [hm] at h
      obtain ⟨past, a', future, rfl, hpast, hmoved⟩ := ih h
      refine ⟨a :: past, a', future, rfl, ?_, hmoved⟩
      rw [movesOf, hm]
      exact hpast
    | some m' =>
      rw [hm] at h
      cases earlier with
      | nil =>
        obtain ⟨rfl, -⟩ := List.cons.inj h
        exact ⟨[], a, actions, rfl, rfl, hm⟩
      | cons m'' earlier =>
        obtain ⟨rfl, hrest⟩ := List.cons.inj h
        obtain ⟨past, a', future, rfl, hpast, hmoved⟩ := ih hrest
        refine ⟨a :: past, a', future, rfl, ?_, hmoved⟩
        rw [movesOf, hm, hpast]
        rfl

lemma advance_of_moved {a : Action} {session : ℕ} (h : moved s a = some (.advance session)) :
    a = .move (.advance session) := by
  cases a with
  | move m => exact congrArg _ (Option.some.inj h)
  | request process scope k lastEventId stamp =>
    simp only [moved] at h
    split at h <;> cases h
  | proceed i randomUUID stamp =>
    simp only [moved] at h
    cases hi : s.responses[i]? with
    | none =>
      rw [hi] at h
      cases h
    | some r =>
      rw [hi, Option.bind_some] at h
      split at h <;> cases h
  | publish | disconnect => cases h

end Moves

/-- What a run starts with. -/
structure Setting where
  server : Deployment
  options : EventBrokerOptions
  principals : Table Principal.principalId
  browserSessions : Table BrowserSession.sessionId
  bootstraps : Table SessionBootstrapIdempotency.key

namespace Setting

variable (S : Setting) (past : List Action)

def state : State := run S.server S.options S.principals S.browserSessions S.bootstraps past

def log (k : Id) : List ConversationEvent := committedEvents k (S.state past).world.history

variable {S : Setting} {past : List Action} {a : Action} {i : ℕ} {k : Id}

lemma state_snoc : S.state (past ++ [a]) = (S.state past).step S.server S.options a := by
  rw [state, run, Transition.exec_append]
  rfl

variable (S past) in
def moves : List ServerMove :=
  movesOf S.server S.options (initial S.principals S.browserSessions S.bootstraps) past

lemma state_world : (S.state past).world =
    Replays.run S.server S.principals S.browserSessions S.bootstraps (S.moves past) := world_moves past

lemma history_snoc : ∃ new, (S.state (past ++ [a])).world.history = (S.state past).world.history ++ new := by
  rw [state_snoc, world_step]
  cases moved (S.state past) a with
  | none => exact ⟨[], (List.append_nil _).symm⟩
  | some m =>
    obtain ⟨new, hnew, -⟩ := (S.state past).world.step_history (body S.server) m
    exact ⟨new, hnew⟩

lemma history_append (later : List Action) :
    (S.state past).world.history <+: (S.state (past ++ later)).world.history := by
  induction later using List.reverseRecOn with
  | nil =>
    rw [List.append_nil]
  | append_singleton later a ih =>
    rw [← List.append_assoc]
    obtain ⟨new, hnew⟩ := @history_snoc S (past ++ later) a
    exact ih.trans ⟨new, hnew.symm⟩

lemma log_append (k : Id) (later : List Action) : S.log past k <+: S.log (past ++ later) k := by
  obtain ⟨new, hnew⟩ := @history_append S past later
  rw [log, log, ← hnew, committedEvents_append]
  exact List.prefix_append _ _

lemma eventLog (k : Id) : EventLog S.server.retentionMaxEvents k (S.log past k) (S.state past).world.db := by
  rw [log, state_world]
  exact eventLog_exec S.server S.principals S.browserSessions S.bootstraps (S.moves past) k

lemma log_numbers (k : Id) : (S.log past k).map ConversationEvent.sequence = List.range' 1
    (S.log past k).length := by
  obtain ⟨next, hnumbered⟩ := (@eventLog S past k).numbers
  exact hnumbered.numbers

lemma sequence_le {e : ConversationEvent} (h : e ∈ S.log past k) :
    0 < e.sequence ∧ e.sequence ≤ (S.log past k).length := by
  have hmem : e.sequence ∈ (S.log past k).map ConversationEvent.sequence := List.mem_map_of_mem h
  rw [log_numbers, List.mem_range'_1] at hmem
  omega

lemma length_lt_sequence {later : List Action} {new : List ConversationEvent}
    (h : S.log past k ++ new = S.log (past ++ later) k) : ∀ e ∈ new, (S.log past k).length < e.sequence := by
  intro e he
  have hnumbers := @log_numbers S (past ++ later) k
  rw [← h, List.map_append, log_numbers, List.length_append, ← List.range'_append_1, List.append_cancel_left_eq]
    at hnumbers
  have hnumber : e.sequence ∈ new.map ConversationEvent.sequence := List.mem_map_of_mem he
  rw [hnumbers, List.mem_range'_1] at hnumber
  omega

lemma mem_of_sequence_le {later : List Action} {e : ConversationEvent} (h : e ∈ S.log (past ++ later) k)
    (hle : e.sequence ≤ (S.log past k).length) : e ∈ S.log past k := by
  obtain ⟨new, hnew⟩ := @log_append S past k later
  rw [← hnew] at h
  refine (List.mem_append.mp h).resolve_right fun hm => ?_
  have := length_lt_sequence hnew e hm
  omega

lemma publicAbove_split {later : List Action} {n : ℕ} : publicAbove n (S.log (past ++ later) k) =
    publicAbove n (S.log past k) ++ publicAbove (max n (S.log past k).length) (S.log (past ++ later) k) := by
  obtain ⟨new, hnew⟩ := @log_append S past k later
  have hold : publicAbove (max n (S.log past k).length) (S.log past k) = [] :=
    publicAbove_eq_nil fun e he => (sequence_le he).2.trans (Nat.le_max_right ..)
  rw [← hnew, publicAbove_append, publicAbove_append, hold, List.nil_append]
  congr 1
  rw [publicAbove, publicAbove]
  congr 1
  refine List.filter_congr fun e he => ?_
  have hlarge := length_lt_sequence hnew e he
  have hmax : (max n (S.log past k).length < e.sequence) = (n < e.sequence) := propext (by omega)
  simp only [hmax]

lemma publicAbove_sorted (n : ℕ) (k : Id) :
    (publicAbove n (S.log past k)).Pairwise fun e e' => e.sequence < e'.sequence := by
  have hall : (S.log past k).Pairwise fun e e' => e.sequence < e'.sequence := by
    rw [← List.pairwise_map (f := ConversationEvent.sequence), log_numbers]
    exact List.pairwise_lt_range'
  exact List.pairwise_map.mpr (hall.sublist List.filter_sublist)

end Setting

end ChatCore.EventDelivery
