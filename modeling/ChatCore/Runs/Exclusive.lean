import ChatCore.Runs.Claiming
import Mathlib.Data.List.Count

namespace ChatCore.Runs

open Protocol Relational Database Services

def Action.Allows (n : ℕ) : Action → Prop
  | .claim _ options _ _ _ => options.maxAttempts = n
  | _ => True

instance (n : ℕ) : (a : Action) → Decidable (a.Allows n)
  | .claim _ options _ _ _ => inferInstanceAs (Decidable (options.maxAttempts = n))
  | .visit .. | .sweep .. | .request .. | .work .. | .signal .. | .renew .. | .loseHeartbeat _ => .isTrue trivial

namespace Phase

def loads : Phase → Bool
  | .loading => true
  | _ => false

lemma loads_of_asks {phase : Phase} (h : phase.asks = true) : phase.loads = false := by
  cases phase <;> first | rfl | cases h

end Phase

def Free (now : Timestamp) (r : AgentRun) : Prop :=
  r.status = .queued ∨ r.status = .running ∧ ∃ t, r.leaseExpiresAt = some t ∧ t ≤ now

lemma free_of_claimable {options : RunWorker.Options} {now : Timestamp} {r : AgentRun}
    (h : RunWorker.claimable options now r = true) : Free now r ∧ r.attempt < options.maxAttempts := by
  simp only [RunWorker.claimable, Bool.and_eq_true, Bool.or_eq_true, decide_eq_true_eq, Option.any_eq_true] at h
  obtain ⟨⟨-, ha⟩, hs⟩ := h
  exact ⟨hs, ha⟩

namespace State

variable (server : Deployment) (s : State) (runId : Id)

/-- A claim changes a row only to start an attempt of a run that is free. -/
def ClaimsFree : Action → Prop
  | .claim process options order now resolved => ∀ r r', s.db.agentRuns.find? runId = some r →
      (s.step server (.claim process options order now resolved)).db.agentRuns.find? runId = some r' →
      r' = r ∨ Free now r ∧ r.attempt < options.maxAttempts ∧ r' = RunWorker.startAttempt options now r
  | _ => True

def connects : Action → Bool
  | .work i draw => (s.executions[i]?.any fun e => decide (e.run.runId = runId) && e.phase.loads) &&
      (s.step server (.work i draw)).executions[i]?.any fun e => e.phase.pulls
  | _ => false

/-- How often the connector is called for the run. -/
def connections : State → List Action → ℕ
  | _, [] => 0
  | s, a :: actions => (if s.connects server runId a then 1 else 0) + connections (s.step server a) actions

def waits (e : Execution) : Bool := decide (e.run.runId = runId) && e.phase.loads

def waiting : ℕ := s.executions.countP (waits runId)

end State

section Order

variable {server : Deployment} {s s' : State} {a : Action} {runId : Id} {n : ℕ}

def Increasing (s : State) : Prop := ∀ (i j : ℕ) (e e' : Execution), s.executions[i]? = some e →
  s.executions[j]? = some e' → e.run.runId = e'.run.runId → i < j → e.run.attempt < e'.run.attempt

lemma Increasing.put {i : ℕ} {e e' : Execution} (h : Increasing s) (he : s.executions[i]? = some e)
    (hr : e'.run = e.run) : Increasing (s.put i e') := by
  intro j k x y hx hy hid hlt
  obtain ⟨x', hx', hxr⟩ := State.getElem?_put he hr hx
  obtain ⟨y', hy', hyr⟩ := State.getElem?_put he hr hy
  rw [← hxr, ← hyr]
  exact h j k x' y' hx' hy' (by rw [hxr, hyr, hid]) hlt

lemma Increasing.claim {process : ℕ} {options : RunWorker.Options} {now : Timestamp} {resolved : Bool}
    {r : AgentRun}
    (h : Increasing s) (hs : s.Sound) (hr : r ∈ s.db.agentRuns) :
    Increasing (s.claim process options now resolved r) := by
  intro i j e e' he he' hid hlt
  rcases State.getElem?_claim he with he | ⟨hi, hrun, -⟩ <;> rcases State.getElem?_claim he'
    with he' | ⟨hj, hrun', -⟩
  · exact h i j e e' he he' hid hlt
  · have hle := hs.executed e (List.mem_of_getElem? he)
    rw [hid, hrun'] at hle
    change e.run.attempt ≤ s.claimed.count r.runId at hle
    rw [← hs.attempt r hr] at hle
    rw [hrun']
    exact Nat.lt_succ_of_le hle
  · have hlast := (List.getElem?_eq_some_iff.mp he').1
    omega
  · omega

lemma Increasing.change (h : Increasing s) (hs : s.Sound) (hc : Change server s a s') : Increasing s' := by
  cases hc with
  | idle | visited | swept | dismissed | renewed => exact h
  | requested hr ha he => exact Increasing.put (s := { s with requests := _ }) h he rfl
  | claimed hr => exact h.claim hs hr
  | signalled he | lapsed he | lost he | failed he | loaded he => exact h.put he rfl
  | answered he hp hr ha => exact h.put he ha.run
  | materialized he | wrote he => exact Increasing.put (s := { s with db := _ }) h he rfl
  | appended he => exact Increasing.put (s := { s with db := _, appended := _ }) h he rfl

lemma claimed_le (hs : s.Sound) (ha : a.Allows n) (h : s.claimed.count runId ≤ n) (hc : Change server s a s') :
    s'.claimed.count runId ≤ n := by
  cases hc with
  | @claimed process options order now resolved r hr hclaim =>
    change (s.claimed ++ [r.runId]).count runId ≤ n
    have hlt := (free_of_claimable hclaim).2
    rw [show options.maxAttempts = n from ha, hs.attempt r hr] at hlt
    rw [List.count_append, List.count_singleton]
    split
    · rw [beq_iff_eq] at *
      subst_vars
      omega
    · exact h
  | idle | visited | swept | dismissed | requested | signalled | renewed | lapsed | lost | failed | loaded | answered
  | materialized | appended | wrote => exact h

lemma claimsFree (hc : Change server s a (s.step server a)) : s.ClaimsFree server runId a := by
  generalize hnext : s.step server a = t at hc
  unfold State.ClaimsFree
  split
  · rename_i process options order now resolved
    rw [hnext]
    intro r r' hr hr'
    cases hc with
    | idle => exact Or.inl (Option.some.inj (hr'.symm.trans hr))
    | @claimed process options order now resolved x hx hclaim =>
      have hfind : (s.db.agentRuns.find? runId).map (fun r => if RunWorker.isRun x.runId r then
          RunWorker.startAttempt options now r else r) = some r' :=
        (s.db.agentRuns.find?_update _ _ (RunWorker.startAttempt_runId options now) runId).symm.trans hr'
      rw [hr, Option.map_some, Option.some.injEq] at hfind
      obtain ⟨hmem, -⟩ := Table.find?_eq_some.mp hr
      by_cases hid : r.runId = x.runId
      · have hsame : r = x := Table.key_injective hmem hx hid
        subst hsame
        obtain ⟨hfree, hlt⟩ := free_of_claimable hclaim
        refine Or.inr ⟨hfree, hlt, ?_⟩
        have hrun : RunWorker.isRun r.runId r = true := decide_eq_true rfl
        rw [← hfind, if_pos hrun]
      · refine Or.inl ?_
        rw [← hfind, if_neg (by simpa [RunWorker.isRun] using hid)]
  · trivial

section Waiting

variable {i : ℕ} {e e' : Execution}

variable (runId e') in
lemma waiting_put (he : s.executions[i]? = some e) :
    (s.put i e').waiting runId + (if State.waits runId e then 1 else 0) =
    s.waiting runId + if State.waits runId e' then 1 else 0 := by
  obtain ⟨hlt, heq⟩ := List.getElem?_eq_some_iff.mp he
  have hset : (s.put i e').waiting runId = s.waiting runId - (if State.waits runId s.executions[i] then 1 else 0) +
      if State.waits runId e' then 1 else 0 := List.countP_set hlt
  have hpos : State.waits runId e = true → 0 < s.waiting runId := fun hw =>
    List.countP_pos_iff.mpr ⟨e, List.mem_of_getElem? he, hw⟩
  rw [heq] at hset
  rw [hset]
  split <;> rename_i hw
  · have := hpos hw
    omega
  · omega

lemma waiting_put_le (he : s.executions[i]? = some e)
    (hw : State.waits runId e' = true → State.waits runId e = true) :
    (s.put i e').waiting runId ≤ s.waiting runId := by
  have hput := waiting_put runId e' he
  by_cases h' : State.waits runId e' = true
  · rw [if_pos h', if_pos (hw h')] at hput
    omega
  · rw [if_neg h'] at hput
    omega

lemma waits_goto {phase : Phase} (h : phase.loads = false) : State.waits runId (e.goto phase) = false := by
  simp [State.waits, Execution.goto, h]

lemma waiting_goto (he : s.executions[i]? = some e) {phase : Phase} (h : phase.loads = false) :
    (s.put i (e.goto phase)).waiting runId ≤ s.waiting runId :=
  waiting_put_le he fun hw => absurd ((waits_goto h).symm.trans hw) Bool.false_ne_true

lemma loads_reaction {signal : Signal} {phase : Phase} (h : e.Reaction signal phase) (hl : phase.loads = true) :
    e.phase.loads = true := by
  cases h with
  | same => exact hl
  | faults => cases hx : e.phase.exposed <;> rw [hx] at hl <;> cases hl
  | received | ended | cancelsAtEnd | thrown | cancelThrows | cleanUpThrows | cancelled | returned
  | cancelsInHandler | handles | crashes => cases hl

lemma loads_answered {answer : Bool} (h : e.Answered answer e') : e'.phase.loads = false := by
  cases h <;> rfl

lemma loads_afterAppend (context : RunWorker.RunContext) (body : EventBody) :
    (Execution.afterAppend context body).loads = false := by
  cases body <;> rfl

end Waiting

variable (runId) in
lemma connects_step (hc : Change server s a (s.step server a)) :
    (if s.connects server runId a then 1 else 0) + (s.step server a).waiting runId + s.claimed.count runId ≤
      s.waiting runId + (s.step server a).claimed.count runId := by
  have hquiet : ∀ t : State, t.waiting runId ≤ s.waiting runId → t.claimed = s.claimed →
    s.connects server runId a = false →
      (if s.connects server runId a then 1 else 0) + t.waiting runId + s.claimed.count runId ≤
        s.waiting runId + t.claimed.count runId := by
    intro t hw ht hn
    rw [hn, ht]
    exact Nat.add_le_add_right (by simpa using hw) _
  generalize hnext : s.step server a = t at hc
  cases hc with
  | idle =>
    refine hquiet _ (Nat.le_refl _) rfl ?_
    unfold State.connects
    split
    · rename_i i draw
      rw [hnext]
      cases s.executions[i]? with
      | none => rfl
      | some e =>
        simp only [Option.any_some]
        cases e.phase <;> simp [Phase.loads, Phase.pulls]
    · rfl
  | visited | swept | dismissed => exact hquiet _ (Nat.le_refl _) rfl rfl
  | renewed => exact hquiet _ (Nat.le_refl _) rfl rfl
  | requested hr ha he =>
    exact hquiet _ (waiting_put_le (s := { s with requests := _ }) he id) rfl rfl
  | lapsed he | lost he => exact hquiet _ (waiting_put_le he id) rfl rfl
  | signalled he hr =>
    refine hquiet _ (waiting_put_le he fun hw => ?_) rfl rfl
    simp only [State.waits, Bool.and_eq_true] at hw ⊢
    exact ⟨hw.1, loads_reaction hr hw.2⟩
  | @claimed process options order now resolved r hr hclaim =>
    have hn : s.connects server runId (.claim process options order now resolved) = false := rfl
    rw [hn]
    have hwaiting : ∀ e : Execution, e.run.runId = r.runId → (s.executions ++ [e]).countP (State.waits runId) ≤
        s.waiting runId + if r.runId = runId then 1 else 0 := by
      intro e he
      rw [List.countP_append, List.countP_singleton, State.waits, he]
      by_cases hid : r.runId = runId
      · rw [if_pos hid]
        exact Nat.add_le_add_left (by split <;> omega) _
      · rw [decide_eq_false hid, if_neg hid]
        exact Nat.le_refl _
    have hcount : (s.claimed ++ [r.runId]).count runId = s.claimed.count runId + if r.runId =
      runId then 1 else 0 := by
      rw [List.count_append, List.count_singleton]
      simp only [beq_iff_eq]
    change 0 + List.countP (State.waits runId) (s.executions ++ [_]) + _ ≤ _ + (s.claimed ++ [r.runId]).count runId
    rw [hcount]
    refine (Nat.add_le_add_right (Nat.add_le_add_left (hwaiting _ rfl) 0) _).trans ?_
    omega
  | @failed i e draw he hf =>
    have hput : (s.put i (e.goto (if e.phase.exposed then .rejected else .catching))).executions[i]? =
        some (e.goto (if e.phase.exposed then .rejected else .catching)) := State.getElem?_put_self he
    refine hquiet _ (waiting_goto he (by split <;> rfl)) rfl ?_
    rw [State.connects, hnext, hput, Option.any_some]
    cases e.phase.exposed <;> simp [Execution.goto, Phase.pulls]
  | @loaded i e draw context he hp ht hsite =>
    have hput := waiting_put runId (e.goto (.pulling context)) he
    rw [waits_goto rfl] at hput
    have hconnects : s.connects server runId (.work i draw) = State.waits runId e := by
      have hself : (s.put i (e.goto (.pulling context))).executions[i]? = some (e.goto (.pulling context)) :=
        State.getElem?_put_self he
      rw [State.connects, hnext, he, hself]
      simp [State.waits, Execution.goto, Phase.pulls]
    rw [hconnects]
    change _ + _ + s.claimed.count runId ≤ _ + s.claimed.count runId
    simp only [Bool.false_eq_true, if_false] at hput
    omega
  | @answered i e e' draw r he hp hr ha =>
    refine hquiet _ (waiting_put_le he fun hw => ?_) rfl ?_
    · simp [State.waits, loads_answered ha] at hw
    · rw [State.connects, he, Option.any_some]
      simp [Phase.loads_of_asks hp]
  | @materialized i e draw context event b he hp hm =>
    refine hquiet _ (waiting_goto (s := { s with db := b }) he rfl) rfl ?_
    rw [State.connects, he, Option.any_some, hp]
    simp [Phase.loads]
  | @appended i e draw context event c he hp hm hin hi =>
    refine hquiet _ (waiting_goto (s := { s with db := _, appended := _ }) he (loads_afterAppend _ _)) rfl ?_
    rw [State.connects, he, Option.any_some, hp]
    simp [Phase.loads]
  | @wrote i e draw write place he hp hw =>
    refine hquiet _ (waiting_goto (s := { s with db := _ }) he (by split <;> rfl)) rfl ?_
    rw [State.connects, he, Option.any_some, hp]
    simp [Phase.loads]

end Order

section Reach

variable (server : Deployment) (principals : Table Principal.principalId)
  (browserSessions : Table BrowserSession.sessionId) (bootstraps : Table SessionBootstrapIdempotency.key)

lemma connections_le {s : State} (hs : s.Sound) (runId : Id) (actions : List Action) :
    s.connections server runId actions + s.claimed.count runId ≤
      s.waiting runId + (Transition.exec (State.step server) s actions).claimed.count runId := by
  induction actions generalizing s with
  | nil => simp [State.connections]
  | cons a actions ih =>
    have hsound : (s.step server a).Sound := hs.step a
    have hchange : Change server s a (s.step server a) :=
      step_change (sequenced_of_sound hs.skeleton) (rooted_of_sound hs.skeleton) a
    have hstep := connects_step runId hchange
    have hrest := ih hsound
    rw [State.connections, Transition.exec_cons]
    omega

/-- Whatever the workers, the visitors and the sweeps do, a claim takes only a run that is free, the claims of a
run return growing attempts up to the limit of the workers, and the connector is called at most so often. -/
theorem claims_exclusive (n : ℕ) (actions : List Action) (hn : ∀ a ∈ actions, a.Allows n) (runId : Id) :
    Transition.Along (State.step server) (fun s a => s.ClaimsFree server runId a)
      (State.initial (unused principals browserSessions bootstraps)) actions ∧
    (∀ (i j : ℕ) (e e' : Execution),
      (reach server principals browserSessions bootstraps actions).executions[i]? = some e →
      (reach server principals browserSessions bootstraps actions).executions[j]? = some e' →
      e.run.runId = runId → e'.run.runId = runId →
      (i < j → e.run.attempt < e'.run.attempt) ∧ (e.run.attempt = e'.run.attempt → i = j)) ∧
    (∀ e ∈ (reach server principals browserSessions bootstraps actions).executions, e.run.runId = runId →
      e.run.attempt ≤ n) ∧
    (State.initial (unused principals browserSessions bootstraps)).connections server runId actions ≤ n := by
  have hinitial := State.sound_initial principals browserSessions bootstraps
  have hchange : ∀ s a, s.Sound → Change server s a (s.step server a) := fun s a hs =>
    step_change (sequenced_of_sound hs.skeleton) (rooted_of_sound hs.skeleton) a
  have hallows : Transition.Along (State.step server) (fun _ a => a.Allows n)
      (State.initial (unused principals browserSessions bootstraps)) actions := Transition.along_of_forall hn
  have hinv := hallows.invariant (fun s => s.Sound ∧ Increasing s ∧ s.claimed.count runId ≤ n)
    ⟨hinitial, fun i j e e' hi => absurd hi (Option.some_ne_none e).symm, Nat.zero_le n⟩
    fun s a hs ha =>
      ⟨hs.1.step a, hs.2.1.change hs.1 (hchange s a hs.1), claimed_le hs.1 ha hs.2.2 (hchange s a hs.1)⟩
  obtain ⟨hsound, hincreasing, hcount⟩ := hinv
  refine ⟨?_, ?_, ?_, ?_⟩
  · exact hallows.achieves hinitial fun s a hs _ => ⟨hs.step a, claimsFree (hchange s a hs)⟩
  · intro i j e e' he he' hid hid'
    exact ⟨hincreasing i j e e' he he' (hid.trans hid'.symm), hsound.apart i j e e' he he' (hid.trans hid'.symm)⟩
  · intro e he hid
    have hle := hsound.executed e he
    rw [hid] at hle
    exact hle.trans hcount
  · have hle := connections_le server hinitial runId actions
    have hzero : (State.initial (unused principals browserSessions bootstraps)).waiting runId = 0 := rfl
    rw [hzero] at hle
    have hbound := (Nat.le_add_right _ _).trans hle
    rw [Nat.zero_add] at hbound
    exact hbound.trans hcount

end Reach

section Scenario

theorem paused_run_claims_exclusive :
    (∀ e ∈ (reached (asking "again")).executions, e.run.runId = "run" → e.run.attempt ≤ 2) ∧
    (State.initial (unused visitors ∅ ∅)).connections lone "run" (asking "again") ≤ 2 := by
  obtain ⟨-, -, hattempts, hconnections⟩ := claims_exclusive lone visitors ∅ ∅ 2 (asking "again") (by decide) "run"
  exact ⟨hattempts, hconnections⟩

end Scenario

end ChatCore.Runs
