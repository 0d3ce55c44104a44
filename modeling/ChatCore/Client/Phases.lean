import ChatCore.Client.Delivery
import ChatCore.Client.Streams
import Mathlib.Data.List.Infix

namespace ChatCore.Client.Phases

open Cooperative Protocol Services EventStore ChatState Delivery Streams Transition

/-- An error is shown in the phase `error`, and only in that phase or while the client reconnects. -/
def Agrees (state : ChatState) : Prop := (state.phase = .error → state.error.isSome = true) ∧
  (state.error.isSome = true → state.phase = .error ∨ state.phase = .reconnecting)

def settles : EventBody → Bool
  | .runStarted _ | .runCompleted | .runFailed _ | .contactRequested .. => true
  | _ => false

/-- A snapshot of a failed run comes while its error is shown; another event than those of `settles` comes while
no error is shown, unless it is ignored. -/
def Suits (state : ChatState) : ChatStateAction → Prop
  | .snapshotLoaded .. =>
    (state.run.any fun run => decide (run.status = .failed)) = true → state.error.isSome = true
  | .eventReceived event =>
    event.eventId ∈ state.recentEventIds ∨ event.body = .syncRequired ∨ state.error = none ∨
      ∃ body, event.body = .event body ∧ settles body = true
  | _ => True

variable {locale : Collation} {state : ChatState}

lemma agrees_withoutError (h : state.phase ≠ .error) : Agrees (withoutError state) :=
  ⟨fun hp => absurd hp h, fun he => by cases he⟩

lemma phase_received {event : PublicConversationEvent} {body : EventBody}
    (hnew : event.eventId ∉ state.recentEventIds)
    (hb : event.body = .event body) :
    (receiveEvent state event).phase = (announced (recorded state event) event body).phase ∧
      (receiveEvent state event).error = (announced (recorded state event) event body).error := by
  rw [receiveEvent, if_neg hnew, hb]
  dsimp only
  cases event.messageId.bind present with
  | none => exact ⟨rfl, rfl⟩
  | some messageId =>
    dsimp only
    split <;> exact ⟨rfl, rfl⟩

lemma agrees_received (h : Agrees state) (event : PublicConversationEvent) :
    Agrees (receiveEvent state event) ↔ Suits state (.eventReceived event) := by
  by_cases hknown : event.eventId ∈ state.recentEventIds
  · rw [receiveEvent_known hknown]
    exact iff_of_true h (Or.inl hknown)
  · cases hb : event.body with
    | syncRequired =>
      have hsame : receiveEvent state event = state := by simp only [receiveEvent, if_neg hknown, hb]
      rw [hsame]
      exact iff_of_true h (Or.inr (Or.inl hb))
    | event body =>
      obtain ⟨hphase, herror⟩ := phase_received hknown hb
      rw [Agrees, hphase, herror]
      have hsuits : Suits state (.eventReceived event) ↔ state.error = none ∨ settles body = true := by
        simp [Suits, hknown, hb]
      rw [hsuits]
      cases body with
      | runStarted | runCompleted | contactRequested =>
        exact iff_of_true ⟨fun hp => (by cases hp), fun he => (by cases he)⟩ (Or.inr rfl)
      | runFailed => exact iff_of_true ⟨fun _ => rfl, fun _ => Or.inl rfl⟩ (Or.inr rfl)
      | _ => simp [announced, recorded, settles]

lemma agrees_snapshot (conversation : ConversationService.ConversationResource) (messages : List MessageResource) :
    Agrees (reduceChatState locale state (.snapshotLoaded conversation messages)) ↔
      Suits state (.snapshotLoaded conversation messages) := by
  cases hf : state.run.any fun run => decide (run.status = .failed) with
  | true =>
    have hsnapshot : reduceChatState locale state (.snapshotLoaded conversation messages) =
        snapshotOf locale state conversation messages := by simp only [reduceChatState, hf, if_true]
    have hphase : (snapshotOf locale state conversation messages).phase = .error :=
      by simp only [snapshotOf, hf, if_true]
    rw [hsnapshot, Agrees, hphase, Suits, hf]
    exact ⟨fun h _ => h.1 rfl, fun h => ⟨fun _ => h rfl, fun _ => Or.inl rfl⟩⟩
  | false =>
    have hsnapshot : reduceChatState locale state (.snapshotLoaded conversation messages) =
        withoutError (snapshotOf locale state conversation messages) := by
      simp only [reduceChatState, hf, Bool.false_eq_true, if_false]
    rw [hsnapshot, Suits, hf]
    refine iff_of_true (agrees_withoutError ?_) fun h => by cases h
    simp only [snapshotOf, hf, Bool.false_eq_true, if_false]
    exact fun h => by cases h

lemma agrees_reduced (h : Agrees state) {a : ChatStateAction} (ha : announces a = true) :
    Agrees (reduceChatState locale state a) ↔ Suits state a := by
  cases a with
  | eventReceived event => exact agrees_received h event
  | snapshotLoaded conversation messages => exact agrees_snapshot conversation messages
  | phaseChanged phase =>
    refine iff_of_true (agrees_withoutError ?_) trivial
    rintro rfl
    cases ha
  | sessionLoaded session => exact iff_of_true (agrees_withoutError (fun hp => by cases hp)) trivial
  | conversationCleared => exact iff_of_true (agrees_withoutError (fun hp => by cases hp)) trivial
  | runRetrying => exact iff_of_true (agrees_withoutError (fun hp => by cases hp)) trivial
  | structuredInputSubmitted requestId =>
    refine iff_of_true ?_ trivial
    simp only [reduceChatState]
    split
    · exact agrees_withoutError (fun hp => by cases hp)
    · exact h
  | connectionFailed error => exact iff_of_true ⟨fun _ => rfl, fun _ => Or.inr rfl⟩ trivial
  | errorRaised error => exact iff_of_true ⟨fun _ => rfl, fun _ => Or.inl rfl⟩ trivial
  | _ => exact iff_of_true h trivial

lemma agrees_iff_along (hs : Agrees state) {actions : List ChatStateAction}
    (ha : ∀ a ∈ actions, announces a = true) :
    (∀ earlier, earlier <+: actions → Agrees (exec (reduceChatState locale) state earlier)) ↔
      Along (reduceChatState locale) Suits state actions := by
  induction actions generalizing state with
  | nil => exact iff_of_true (fun earlier he => by rwa [List.prefix_nil.mp he]) trivial
  | cons a actions ih =>
    obtain ⟨hfirst, hrest⟩ := List.forall_mem_cons.mp ha
    have hstep := @agrees_reduced locale _ hs _ hfirst
    constructor
    · intro h
      have hnext : Agrees (reduceChatState locale state a) := h [a] ⟨actions, rfl⟩
      refine ⟨hstep.mp hnext, (ih hnext hrest).mp fun earlier he => ?_⟩
      exact h (a :: earlier) (List.cons_prefix_cons.mpr ⟨rfl, he⟩)
    · rintro ⟨hsuits, halong⟩ earlier he
      cases earlier with
      | nil => exact hs
      | cons b earlier =>
        obtain ⟨rfl, hlater⟩ := List.cons_prefix_cons.mp he
        exact (ih (hstep.mpr hsuits) hrest).mpr halong earlier hlater

/-- In every run of a client, phase and error agree after each action that it dispatches if and only if each of
them suits the state that it comes to. -/
theorem phase_agrees_iff (options : ChatClientOptions) (actions : List Streams.Action) :
    (∀ earlier, earlier <+: (run options actions).state.screen.actions → Agrees (reduced options.locale earlier)) ↔
      Along (reduceChatState options.locale) Suits initialChatState (run options actions).state.screen.actions :=
  agrees_iff_along ⟨fun h => (by cases h), fun h => (by cases h)⟩ (sound_run options actions).holds.phases

section Scenario

def recovering : List Streams.Action := connecting ++ [
  .answers 4 (.connect 0 "c" none) (.error (.error "Failed to fetch")), turn 4, .happens (.due 1), turn 6,
  .answers 6 (.connect 1 "c" none) (.ok ()), .answers 7 (.read 1) (.ok (some [messageDelta]))]

theorem stale_error_shown : (run plain recovering).state.state.phase = .streaming ∧
    (run plain recovering).state.state.error = some ⟨"CLIENT_ERROR", "Failed to fetch", true⟩ ∧
    ¬ ∀ earlier, earlier <+: (run plain recovering).state.screen.actions →
      Agrees (reduced plain.locale earlier) := by
  have hphase : (run plain recovering).state.state.phase = .streaming := by decide +kernel
  have herror : (run plain recovering).state.state.error = some ⟨"CLIENT_ERROR", "Failed to fetch", true⟩ := by
    decide +kernel
  refine ⟨hphase, herror, fun h => ?_⟩
  have hagrees := h _ (List.prefix_refl _)
  have hstate : reduced plain.locale (run plain recovering).state.screen.actions =
    (run plain recovering).state.state :=
    (run plain recovering).state.screen.reduced
  rw [hstate] at hagrees
  have hshown := hagrees.2 (by rw [herror]; rfl)
  rw [hphase] at hshown
  exact hshown.elim (fun h => by cases h) fun h => by cases h

end Scenario

end ChatCore.Client.Phases
