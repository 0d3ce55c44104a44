import ChatCore.Runs.Cancelling
import ChatCore.Runs.Deeds

namespace ChatCore.Runs

open Protocol Relational Database Services

def MessageStatus.isOpen (status : MessageStatus) : Bool :=
  decide (status = .pending) || decide (status = .streaming)

def HandoffStatus.isClosed (status : HandoffStatus) : Bool :=
  decide (status = .completed) || decide (status = .failed)

def RunStatus.dead (status : RunStatus) : Bool := decide (status = .failed) || decide (status = .cancelled)

section History

def startsAnswer : EventBody → Bool
  | .messageStarted => true
  | _ => false

def completesAnswer : EventBody → Bool
  | .messageCompleted _ => true
  | _ => false

def opensHandoff : EventBody → Bool
  | .handoffRequested _ | .contactRequested .. => true
  | _ => false

def has (p : EventBody → Bool) (history : List Deed) : Bool := history.any fun d => match d with
  | .materialized body => p body
  | _ => false

def handedOff : List Deed → Bool
  | [] => false
  | .created handoff :: history => handoff || handedOff history
  | .materialized (.handoffRequested _) :: _ => true
  | _ :: history => handedOff history

def handsOff : List Deed → Bool
  | [] => false
  | .created handoff :: _ => handoff
  | .materialized (.handoffRequested _) :: history => !handedOff history || handsOff history
  | .materialized (.contactRequested ..) :: _ | .resumed :: _ => true
  | .materialized (.handoffCompleted _) :: _ | .wrote (.fail _) :: _ => false
  | _ :: history => handsOff history

end History

namespace Phase

def writesAny (p : StatusWrite → Bool) : Phase → Bool
  | .writing write _ => p write
  | _ => false

def materializesAny (p : EventBody → Bool) : Phase → Bool
  | .materializing _ event => p event.body
  | _ => false

end Phase

def StatusWrite.leavesAnswer : StatusWrite → Bool
  | .complete | .fail _ => true
  | .cancel | .waitForInput => false

def StatusWrite.leavesHandoff : StatusWrite → Bool
  | .cancel => true
  | .complete | .fail _ | .waitForInput => false

namespace Life

variable {s : State} {runId : Id} {a : Action} {l l' : Life} {i : ℕ} {e e' : Execution} {history : List Deed}

def Leads (p : EventBody → Bool) (l : Life) : Action → Prop
  | .work i _ => ∀ e ∈ l.executions i, e.phase.materializesAny p = true → ∀ r ∈ l.run, e.run.attempt = r.attempt
  | _ => True

def EndedBy (p : StatusWrite → Bool) (s : State) (runId : Id) (l : Life) : Action → Prop
  | .work i _ => ∃ e ∈ l.executions i, e.phase.writesAny p = true
  | .visit process call => s.Selects runId (.visit process call) ∧ ∃ r ∈ l.run, r.status = .queued
  | _ => False

/-- Only the execution of the latest claim begins the answer or writes the status of the run, and where the run
ends but by its worker's cancellation, an answer that was begun has been completed. -/
def ClosesAnswer (history : List Deed) (s : State) (runId : Id) (l : Life) (a : Action) : Prop :=
  l.Fenced a ∧ l.Leads startsAnswer a ∧
    (l.EndedBy StatusWrite.leavesAnswer s runId a → has startsAnswer history = true →
      has completesAnswer history = true)

/-- Only the execution of the latest claim opens the handoff or writes the status of the run, and where the run
is cancelled, its handoff has ended. -/
def ClosesHandoff (history : List Deed) (s : State) (runId : Id) (l : Life) (a : Action) : Prop :=
  l.Fenced a ∧ l.Leads opensHandoff a ∧ (l.EndedBy StatusWrite.leavesHandoff s runId a → handsOff history = false)

instance (p : EventBody → Bool) (l : Life) : (a : Action) → Decidable (l.Leads p a)
  | .work i _ => inferInstanceAs (Decidable (∀ e ∈ l.executions i, _ → ∀ r ∈ l.run, e.run.attempt = r.attempt))
  | .visit .. | .sweep .. | .request .. | .claim .. | .signal .. | .renew .. | .loseHeartbeat _ => .isTrue trivial

instance (p : StatusWrite → Bool) (s : State) (runId : Id) (l : Life) : (a : Action) →
    Decidable (l.EndedBy p s runId a)
  | .work i _ => inferInstanceAs (Decidable (∃ e ∈ l.executions i, e.phase.writesAny p = true))
  | .visit process call => inferInstanceAs (Decidable (s.Selects runId (.visit process call) ∧ ∃ r ∈ l.run, _))
  | .sweep .. | .request .. | .claim .. | .signal .. | .renew .. | .loseHeartbeat _ => .isFalse id

instance (s : State) (runId : Id) (l : Life) (a : Action) : Decidable (l.ClosesAnswer history s runId a) :=
  inferInstanceAs (Decidable (_ ∧ _ ∧ _))

instance (s : State) (runId : Id) (l : Life) (a : Action) : Decidable (l.ClosesHandoff history s runId a) :=
  inferInstanceAs (Decidable (_ ∧ _ ∧ _))

lemma Held.running {p : EventBody → Bool} {context : RunWorker.RunContext} {event : ConnectorEvent}
    {draw : Draw} (h : l.Held)
    (hl : l.Leads p (.work i draw)) (hi : l.executions i = some e) (hp : e.phase = .materializing context event)
    (hb : p event.body = true) {r : AgentRun} (hr : l.run = some r) : r.status = .running ∨
    r.status = .cancelRequested := by
  refine h i e r hi (by rw [hp]; rfl) hr (hl e hi ?_ r hr)
  rw [hp]
  exact hb

section Answer

structure Answering (history : List Deed) (l : Life) : Prop where
  opened : ∀ m, l.message = some m → MessageStatus.isOpen m.status = true →
    has startsAnswer history = true ∧ has completesAnswer history = false
  kept : has completesAnswer history = true → l.message ≠ none

lemma answering_materialized {run : AgentRun} {now : Timestamp} {participantId : Id} {body : EventBody}
    (hr : l.run ≠ none)
    (h : l.Answering history) (hm : Materialized run now participantId body l l') :
    l'.Answering (.materialized body :: history) := by
  have hsame : startsAnswer body = false → completesAnswer body = false → l'.message = l.message →
      l'.Answering (.materialized body :: history) := by
    intro hs hc hm
    have hhas : ∀ p : EventBody → Bool, p body = false → has p (.materialized body :: history) =
      has p history := by
      intro p hp
      simp only [has, List.any_cons, hp, Bool.false_or]
    constructor
    · rw [hm, hhas _ hs, hhas _ hc]
      exact h.opened
    · rw [hm, hhas _ hc]
      exact h.kept
  cases hm with
  | resumed m hm => exact ⟨fun m' hm' hopen => ⟨rfl, (h.opened m' hm' hopen).2⟩, h.kept⟩
  | started sequence hnone =>
    refine ⟨fun m _ _ => ⟨rfl, ?_⟩, fun _ => Option.some_ne_none _⟩
    exact Bool.eq_false_of_not_eq_true fun hdone => h.kept hdone hnone
  | completed parts m hm =>
    refine ⟨fun m' hm' hopen => ?_, fun _ => Option.some_ne_none _⟩
    cases hm'
    cases hopen
  | requestedAgain | requested | askedAgain | asked | finished => exact hsame rfl rfl rfl
  | orphan body hnone => exact absurd hnone hr
  | nothing body hs hc =>
    refine hsame ?_ ?_ rfl
    · cases body <;> first | rfl | exact absurd rfl hs
    · cases body <;> first | rfl | exact absurd rfl (hc _)

lemma Answering.step (h : l.run ≠ none → l.Answering history) (hstep : Step s runId a l l') (hr : l'.run ≠ none) :
    l'.Answering (record a l l' history) := by
  have hdoes := does_step hstep
  unfold record
  generalize deed a l l' = d at hdoes
  cases hdoes with
  | nothing hrun hm =>
    obtain ⟨hopened, hkept⟩ := h fun hnone => hr (hrun hnone)
    exact ⟨hm ▸ hopened, hm ▸ hkept⟩
  | gone hnone => exact absurd hnone hr
  | created hm =>
    refine ⟨fun m hm' => ?_, fun hdone => by cases hdone⟩
    rw [hm] at hm'
    cases hm'
  | materialized l'' hmat hrun hm =>
    obtain ⟨hopened, hkept⟩ := answering_materialized (hrun ▸ hr) (h (hrun ▸ hr)) hmat
    exact ⟨hm ▸ hopened, hm ▸ hkept⟩
  | wrote write hrun hm =>
    obtain ⟨hopened, hkept⟩ := h fun hnone => hr (hrun hnone)
    cases write with
    | complete | fail code | waitForInput => exact ⟨hm ▸ hopened, hm ▸ hkept⟩
    | cancel =>
      refine ⟨fun m hm' hopen => ?_, fun hdone hnone =>
        hkept hdone (Option.map_eq_none_iff.mp (hm.symm.trans hnone))⟩
      obtain ⟨m', hm', rfl⟩ := Option.map_eq_some_iff.mp (hm.symm.trans hm')
      split at hopen
      · cases hopen
      · next hclosed => exact absurd hopen hclosed
  | resumed hrun hm =>
    obtain ⟨hopened, hkept⟩ := h hrun
    exact ⟨hm ▸ hopened, hm ▸ hkept⟩

def AnswerClosed (l : Life) : Prop := ∀ (r : AgentRun) (m : Message), l.run = some r → l.message = some m →
  RunStatus.terminal r.status = true → MessageStatus.isOpen m.status = false

lemma answer_materialized {run : AgentRun} {now : Timestamp} {participantId : Id} {body : EventBody}
    (hc : startsAnswer body = true → ∀ r, l.run = some r → RunStatus.terminal r.status = false)
    (h : l.AnswerClosed) (hm : Materialized run now participantId body l l') : l'.AnswerClosed := by
  cases hm with
  | started sequence habsent =>
    intro r m hr hm ht
    rw [hc rfl r hr] at ht
    cases ht
  | completed parts m hfind =>
    intro r m' hr hm' ht
    cases hm'
    rfl
  | resumed | requestedAgain | requested | askedAgain | asked | finished | orphan | nothing => exact h

lemma ClosesAnswer.closed (hc : l.ClosesAnswer history s runId a) (hk : l.run ≠ none → l.Answering history)
    (he : l.EndedBy StatusWrite.leavesAnswer s runId a) {r : AgentRun} (hr : l.run = some r) {m : Message}
    (hm : l.message = some m) : MessageStatus.isOpen m.status = false := by
  refine Bool.eq_false_of_not_eq_true fun hopen => ?_
  obtain ⟨hbegun, hopened⟩ := (hk fun hnone => by rw [hr] at hnone; cases hnone).opened m hm hopen
  rw [hc.2.2 he hbegun] at hopened
  cases hopened

theorem AnswerClosed.step (hc : l.ClosesAnswer history s runId a) (hheld : l.Held)
    (hk : l.run ≠ none → l.Answering history)
    (h : l.AnswerClosed) (hstep : Step s runId a l l') : l'.AnswerClosed := by
  cases hstep with
  | idle | redacted | pruned | aborted | signalled | failed | loaded | answered | appended => exact h
  | created r handoffs inputs => exact fun r m hr hm => absurd hm (Option.some_ne_none m).symm
  | forgotten => exact fun r m hr => absurd hr (Option.some_ne_none r).symm
  | cancelled r now hr hs =>
    intro r' m hr' hm ht
    cases hr'
    rcases decided_status now r with hsame | hrequested | ⟨hq, -⟩
    · exact h r m hr hm (hsame ▸ ht)
    · rw [hrequested] at ht
      cases ht
    · exact hc.closed hk ⟨hs, r, hr, hq⟩ hr hm
  | resumed r i request now hr hw =>
    intro r' m hr' hm ht
    cases hr'
    cases ht
  | claimed r i e hr hs hclaim =>
    intro r' m hr' hm ht
    cases hr'
    cases ht
  | renewed i e r hi hr hs ha =>
    intro r' m hr' hm ht
    cases hr'
    exact h r m hr hm ht
  | materialized i e hi hp hm =>
    have hclosed : AnswerClosed _ := answer_materialized (fun hb r hr => ?_) h hm
    · exact hclosed
    · rcases hheld.running hc.2.1 hi hp hb hr with hs | hs <;> rw [hs] <;> rfl
  | @wrote draw write place _ i e hi hp hw =>
    intro r' m hr' hm ht
    obtain ⟨r, hr, -⟩ := effect_run (l := l) write hr'
    have hended : ∀ p : StatusWrite → Bool, p write = true → l.EndedBy p s runId (.work i draw) := by
      intro p hwrite
      refine ⟨e, hi, ?_⟩
      rw [hp]
      exact hwrite
    cases write with
    | complete | fail code => exact hc.closed hk (hended _ rfl) hr hm
    | cancel =>
      obtain ⟨m', hm', rfl⟩ := Option.map_eq_some_iff.mp hm
      split
      · rfl
      · rename_i hopen
        exact Bool.eq_false_of_not_eq_true hopen
    | waitForInput =>
      obtain ⟨r, hr, rfl⟩ := Option.map_eq_some_iff.mp hr'
      split at ht
      · cases ht
      · exact h r m hr hm ht

end Answer

section Handoff

structure HandingOff (history : List Deed) (l : Life) : Prop where
  single : l.handoffs.length ≤ 1
  live : ∀ x ∈ l.handoffs, HandoffStatus.isClosed x.status = false → handsOff history = true
  kept : handedOff history = true → l.handoffs ≠ []

lemma amend_ne_nil {ρ : Type} {p : ρ → Bool} {f : ρ → ρ} {rows : List ρ} (h : rows ≠ []) :
    amend p f rows ≠ [] := by
  rw [amend, Ne, List.map_eq_nil_iff]
  exact h

lemma handingOff_materialized {run : AgentRun} {now : Timestamp} {participantId : Id} {body : EventBody}
    (hr : l.run ≠ none)
    (h : l.HandingOff history) (hm : Materialized run now participantId body l l') :
    l'.HandingOff (.materialized body :: history) := by
  cases hm with
  | resumed | started | completed => exact ⟨h.single, h.live, h.kept⟩
  | requestedAgain y hy =>
    refine ⟨h.single, fun x hx hlive => ?_, fun _ hnil => ?_⟩
    · change (!handedOff history || handsOff history) = true
      rw [h.live x hx hlive, Bool.or_true]
    · rw [hnil] at hy
      cases hy
  | requested handoffId hnil =>
    refine ⟨Nat.le_refl 1, fun x hx hlive => ?_, fun _ => List.cons_ne_nil _ _⟩
    have hnone : handedOff history = false := Bool.eq_false_of_not_eq_true fun hdone => h.kept hdone hnil
    change (!handedOff history || handsOff history) = true
    rw [hnone]
    rfl
  | askedAgain x prompt required y hx hy =>
    refine ⟨(List.length_map _).trans_le h.single, fun _ _ _ => rfl, fun hdone => amend_ne_nil (h.kept hdone)⟩
  | asked requestId prompt required y hy =>
    refine ⟨(List.length_map _).trans_le h.single, fun _ _ _ => rfl, fun hdone => amend_ne_nil (h.kept hdone)⟩
  | finished y hy =>
    refine ⟨(List.length_map _).trans_le h.single, fun x hx hlive => ?_, fun hdone => amend_ne_nil (h.kept hdone)⟩
    have hone : l.handoffs = [y] := by
      have hsingle := h.single
      cases hl : l.handoffs with
      | nil =>
        rw [hl] at hy
        cases hy
      | cons z rest =>
        rw [hl] at hy hsingle
        obtain rfl : rest = [] := List.eq_nil_of_length_eq_zero (Nat.le_zero.mp (Nat.le_of_succ_le_succ hsingle))
        rw [List.mem_singleton.mp hy]
    dsimp only at hx
    rw [hone] at hx
    simp only [amend, List.map_singleton, decide_true, if_true, List.mem_singleton] at hx
    subst hx
    cases hlive
  | orphan body hnone => exact absurd hnone hr
  | nothing body hs hc hh hi =>
    have hsame : handsOff (.materialized body :: history) = handsOff history ∧
        handedOff (.materialized body :: history) = handedOff history := by
      cases body <;> first | exact ⟨rfl, rfl⟩ | exact absurd rfl (hh _).1 | exact absurd rfl (hh _).2 |
        exact absurd rfl (hi _ _ _)
    exact ⟨h.single, fun x hx hlive => hsame.1.trans (h.live x hx hlive), fun hdone =>
      h.kept (hsame.2.symm.trans hdone)⟩

lemma HandingOff.step (h : l.run ≠ none → l.HandingOff history) (hstep : Step s runId a l l')
    (hr : l'.run ≠ none) :
    l'.HandingOff (record a l l' history) := by
  have hdoes := does_step hstep
  unfold record
  generalize deed a l l' = d at hdoes
  cases hdoes with
  | nothing hrun hm hh =>
    obtain ⟨hsingle, hlive, hkept⟩ := h fun hnone => hr (hrun hnone)
    exact ⟨hh ▸ hsingle, hh ▸ hlive, hh ▸ hkept⟩
  | gone hnone => exact absurd hnone hr
  | created hm hu =>
    refine ⟨hu, fun x hx _ => ?_, fun hdone hnil => ?_⟩
    · change (!l'.handoffs.isEmpty) = true
      cases hl : l'.handoffs with
      | nil =>
        rw [hl] at hx
        cases hx
      | cons y rest => rfl
    · rw [hnil] at hdone
      cases hdone
  | materialized l'' hmat hrun hm hh =>
    obtain ⟨hsingle, hlive, hkept⟩ := handingOff_materialized (hrun ▸ hr) (h (hrun ▸ hr)) hmat
    exact ⟨hh ▸ hsingle, hh ▸ hlive, hh ▸ hkept⟩
  | wrote write hrun hm hh =>
    obtain ⟨hsingle, hlive, hkept⟩ := h fun hnone => hr (hrun hnone)
    cases write with
    | complete | cancel | waitForInput => exact ⟨hh ▸ hsingle, hh ▸ hlive, hh ▸ hkept⟩
    | fail code =>
      refine ⟨(congrArg List.length hh).trans_le ((List.length_map _).trans_le hsingle), fun x hx hopen => ?_,
        fun hdone => hh ▸ amend_ne_nil (hkept hdone)⟩
      rw [hh] at hx
      obtain ⟨y, hy, rfl⟩ := List.mem_map.mp hx
      split at hopen
      · cases hopen
      · next hclosed =>
        rw [Bool.not_eq_true', Bool.not_eq_false] at hclosed
        rw [HandoffStatus.isClosed, hclosed] at hopen
        cases hopen
  | resumed hrun hm hh =>
    obtain ⟨hsingle, hlive, hkept⟩ := h hrun
    rcases hh with hh | ⟨now, hh⟩
    · exact ⟨hh ▸ hsingle, fun _ _ _ => rfl, hh ▸ hkept⟩
    · refine ⟨(congrArg List.length hh).trans_le ((List.length_map _).trans_le hsingle), fun _ _ _ =>
        rfl, fun hdone hnil => ?_⟩
      exact hkept hdone (List.map_eq_nil_iff.mp (hh.symm.trans hnil))

def HandoffClosed (l : Life) : Prop := ∀ (r : AgentRun), l.run = some r → RunStatus.dead r.status = true →
  ∀ h ∈ l.handoffs, HandoffStatus.isClosed h.status = true

lemma handoff_materialized {run : AgentRun} {now : Timestamp} {participantId : Id} {body : EventBody}
    (hc : opensHandoff body = true → ∀ r, l.run = some r → RunStatus.dead r.status = false)
    (h : l.HandoffClosed) (hm : Materialized run now participantId body l l') : l'.HandoffClosed := by
  have halive : opensHandoff body = true → l'.run = l.run → l'.HandoffClosed := by
    intro hopens hrun r hr hd
    rw [hc hopens r (hrun.symm.trans hr)] at hd
    cases hd
  cases hm with
  | requested | askedAgain | asked => exact halive rfl rfl
  | finished y hy =>
    intro r hr hd x hx
    obtain ⟨x', hx', rfl⟩ := List.mem_map.mp hx
    split
    · rfl
    · exact h r hr hd x' hx'
  | resumed | started | completed | requestedAgain | orphan | nothing => exact h

lemma ClosesHandoff.closed (hc : l.ClosesHandoff history s runId a) (hk : l.run ≠ none → l.HandingOff history)
    (he : l.EndedBy StatusWrite.leavesHandoff s runId a) {r : AgentRun} (hr : l.run = some r) :
    ∀ x ∈ l.handoffs, HandoffStatus.isClosed x.status = true := by
  intro x hx
  by_contra hopen
  have hlive := (hk fun hnone => by rw [hr] at hnone; cases hnone).live x hx (Bool.eq_false_of_not_eq_true hopen)
  rw [hc.2.2 he] at hlive
  cases hlive

theorem HandoffClosed.step (hc : l.ClosesHandoff history s runId a) (hheld : l.Held)
    (hk : l.run ≠ none → l.HandingOff history) (h : l.HandoffClosed) (hstep : Step s runId a l l') :
    l'.HandoffClosed := by
  cases hstep with
  | idle | redacted | pruned | aborted | signalled | failed | loaded | answered | appended => exact h
  | created r handoffs inputs hr he ha hn hq =>
    intro r' hr' hd
    cases hr'
    rw [hq] at hd
    cases hd
  | forgotten => exact fun r hr => absurd hr (Option.some_ne_none r).symm
  | cancelled r now hr hs =>
    intro r' hr' hd
    cases hr'
    rcases decided_status now r with hsame | hrequested | ⟨hq, -⟩
    · exact h r hr (hsame ▸ hd)
    · rw [hrequested] at hd
      cases hd
    · exact hc.closed hk ⟨hs, r, hr, hq⟩ hr
  | resumed r i request now hr hw =>
    intro r' hr' hd
    cases hr'
    cases hd
  | claimed r i e hr hs hclaim =>
    intro r' hr' hd
    cases hr'
    cases hd
  | renewed i e r hi hr hs ha =>
    intro r' hr' hd
    cases hr'
    exact h r hr hd
  | materialized i e hi hp hm =>
    have hclosed : HandoffClosed _ := handoff_materialized (fun hb r hr => ?_) h hm
    · exact hclosed
    · rcases hheld.running hc.2.1 hi hp hb hr with hs | hs <;> rw [hs] <;> rfl
  | @wrote draw write place _ i e hi hp hw =>
    intro r' hr' hd
    obtain ⟨r, hr, -⟩ := effect_run (l := l) write hr'
    cases write with
    | complete =>
      obtain ⟨r, hr, rfl⟩ := Option.map_eq_some_iff.mp hr'
      cases hd
    | fail code =>
      intro x hx
      obtain ⟨x', hx', rfl⟩ := List.mem_map.mp hx
      split
      · rfl
      · rename_i hclosed
        rw [Bool.not_eq_true', Bool.not_eq_false] at hclosed
        exact hclosed
    | cancel =>
      refine hc.closed hk ⟨e, hi, ?_⟩ hr
      rw [hp]
      rfl
    | waitForInput =>
      obtain ⟨r, hr, rfl⟩ := Option.map_eq_some_iff.mp hr'
      split at hd
      · cases hd
      · exact h r hr hd

end Handoff

end Life

section Reach

variable (server : Deployment) (principals : Table Principal.principalId)
  (browserSessions : Table BrowserSession.sessionId) (bootstraps : Table SessionBootstrapIdempotency.key)
  (actions : List Action) (runId : Id)

/-- The answer of a run that is over is not open, if only the execution of its latest claim began the answer and
wrote the status, and the run ended, but by its worker's cancellation, only when an answer that was begun had
been completed. -/
theorem ended_run_answered
    (hc : Transition.Along (State.recorded server runId)
      (fun p a => (p.1.life runId).ClosesAnswer p.2 p.1 runId a)
      (State.initial (unused principals browserSessions bootstraps), []) actions)
    (r : AgentRun)
    (hr : (reach server principals browserSessions bootstraps actions).db.agentRuns.find? runId = some r)
    (ht : RunStatus.terminal r.status = true) (m : Message)
    (hm : (reach server principals browserSessions bootstraps actions).db.messages.find?
      r.assistantMessageId = some m) :
    m.status ≠ .pending ∧ m.status ≠ .streaming := by
  have hinv := recorded_invariant
    (q := fun history l => l.Held ∧ (l.run ≠ none → l.Answering history) ∧ l.AnswerClosed)
    (fun s history a l' hs hp h hstep => ⟨h.1.step hs hp.1 hstep, fun hr => Life.Answering.step h.2.1 hstep hr,
      h.2.2.step hp h.1 h.2.1 hstep⟩) (State.sound_initial principals browserSessions bootstraps)
    ⟨fun _ e _ hi => absurd (life_executions.mp hi).1 (Option.some_ne_none e).symm, fun hr => absurd rfl hr,
      fun r m hr => absurd hr (Option.some_ne_none r).symm⟩ hc
  have hclosed := hinv.2.2 r m hr ((rows_message hr).trans hm) ht
  simpa [MessageStatus.isOpen] using hclosed

/-- A run that has failed or been cancelled has no live handoff, if only the execution of its latest claim opened
the handoff and wrote the status, and the run was cancelled only when a handoff that was opened had ended. -/
theorem dead_run_handoff_closed
    (hc : Transition.Along (State.recorded server runId)
      (fun p a => (p.1.life runId).ClosesHandoff p.2 p.1 runId a)
      (State.initial (unused principals browserSessions bootstraps), []) actions)
    (r : AgentRun)
    (hr : (reach server principals browserSessions bootstraps actions).db.agentRuns.find? runId = some r)
    (hd : r.status = .failed ∨ r.status = .cancelled) (h : Handoff)
    (hh : h ∈ (reach server principals browserSessions bootstraps actions).db.handoffs) (hid : h.runId = runId) :
    h.status = .completed ∨ h.status = .failed := by
  have hinv := recorded_invariant
    (q := fun history l => l.Held ∧ (l.run ≠ none → l.HandingOff history) ∧ l.HandoffClosed)
    (fun s history a l' hs hp h hstep => ⟨h.1.step hs hp.1 hstep, fun hr => Life.HandingOff.step h.2.1 hstep hr,
      h.2.2.step hp h.1 h.2.1 hstep⟩) (State.sound_initial principals browserSessions bootstraps)
    ⟨fun _ e _ hi => absurd (life_executions.mp hi).1 (Option.some_ne_none e).symm, fun hr => absurd rfl hr,
      fun r hr => absurd hr (Option.some_ne_none r).symm⟩ hc
  have hdead : RunStatus.dead r.status = true := by simpa [RunStatus.dead] using hd
  have hclosed := hinv.2.2 r hr hdead h (List.mem_filter.mpr ⟨hh, decide_eq_true hid⟩)
  simpa [HandoffStatus.isClosed] using hclosed

end Reach

section Scenario

def emits (messageId : Option Id) (body : EventBody) (eventId : Id) : List Action :=
  yields 0 messageId body :: handles 0 eventId

def brokenOff : List Action := executing ++ emits (some "answer") .messageStarted "first" ++
  emits none (.runFailed "OUT_OF_ORDER") "second" ++ [next 0 ""]

def answered : List Action := executing ++ emits (some "answer") .messageStarted "first" ++
  emits (some "answer") (.messageCompleted [.text "Hello"]) "second" ++
    emits none .runCompleted "third" ++ [next 0 ""]

def answerOf (actions : List Action) : Option MessageStatus :=
  ((reached actions).db.messages.find? "answer").map Message.status

theorem failed_run_streams : statusOf brokenOff = some .failed ∧ answerOf brokenOff = some .streaming := by
  decide +kernel

theorem completed_run_answered : ∃ m : Message, (reached answered).db.messages.find? "answer" = some m ∧
    m.status ≠ .pending ∧ m.status ≠ .streaming := by
  have hrun : ((reached answered).db.agentRuns.find? "run").map (fun r => (r.status, r.assistantMessageId)) =
      some (.completed, "answer") := by decide +kernel
  have hanswer : answerOf answered = some .completed := by decide +kernel
  obtain ⟨r, hr, heq⟩ := Option.map_eq_some_iff.mp hrun
  obtain ⟨m, hm, -⟩ := Option.map_eq_some_iff.mp hanswer
  injection heq with hs ha
  refine ⟨m, hm, ended_run_answered lone visitors ∅ ∅ answered "run" (by decide +kernel) r hr
    (by rw [hs]; rfl) m ?_⟩
  rw [ha]
  exact hm

def handoffOf (actions : List Action) : Option HandoffStatus :=
  ((reached actions).db.handoffs.find? "handoff").map Handoff.status

def callOff : List Action := executing ++ emits none (.handoffRequested "handoff") "first" ++
  [.visit 0 (cancelling ""), yields 0 none (.runStarted "agent"), next 0 "", .signal 0 .settles, next 0 ""]

theorem cancelled_run_hands_off : statusOf callOff = some .cancelled ∧ handoffOf callOff = some .requested := by
  decide +kernel

def calledOff : List Action := executing ++ emits none (.handoffRequested "handoff") "first" ++
  emits none (.handoffCompleted "handoff") "second" ++
  [.visit 0 (cancelling ""), yields 0 none (.runStarted "agent"), next 0 "", .signal 0 .settles, next 0 ""]

theorem called_off_run_handoff_closed : ∃ h : Handoff, (reached calledOff).db.handoffs.find? "handoff" = some h ∧
    (h.status = .completed ∨ h.status = .failed) := by
  have hrun : statusOf calledOff = some .cancelled := by decide +kernel
  have hhandoff : ((reached calledOff).db.handoffs.find? "handoff").map Handoff.runId = some "run" :=
    by decide +kernel
  obtain ⟨r, hr, hs⟩ := Option.map_eq_some_iff.mp hrun
  obtain ⟨h, hh, hid⟩ := Option.map_eq_some_iff.mp hhandoff
  exact ⟨h, hh, dead_run_handoff_closed lone visitors ∅ ∅ calledOff "run" (by decide +kernel) r hr (Or.inr hs) h
    (Table.find?_eq_some.mp hh).1 hid⟩

end Scenario

end ChatCore.Runs
