import ChatCore.Client.Streams
import ChatCore.Transition.Steps
import Mathlib.Data.List.Dedup
import Mathlib.Data.List.Induction
import Mathlib.Data.List.Perm.Subperm
import Mathlib.Data.String.Basic

namespace ChatCore.Client.Delivery

open Cooperative Protocol Services EventStore ChatState

inductive Feed
  | at (conversationId : Id) (next : ℕ)
  | lost
  deriving DecidableEq, Repr

/-- A client and the events that the server has published, of which the first `pruned` are deleted. -/
structure World (options : ChatClientOptions) where
  client : ChatClient.Running options
  log : Id → List PublicConversationEvent
  pruned : Id → ℕ
  feeds : ℕ → Feed

inductive Action
  | happens (stimulus : Stimulus)
  | answers (task : ℕ) (request : Request) (reply : Except ChatError request.Reply)
  | appends (event : PublicConversationEvent)
  | prunes (conversationId : Id) (count : ℕ)

section Step

variable {options : ChatClientOptions}

/-- `EventStore.replay`: from the start of what is retained, or from after the event of the cursor. -/
def feed (w : World options) (conversationId : Id) (lastEventId : Option Id) : Feed := match lastEventId with
  | none => .at conversationId (w.pruned conversationId)
  | some eventId =>
      match (w.log conversationId).findIdx? fun event => decide (event.eventId = eventId) with
      | some i => if w.pruned conversationId ≤ i then .at conversationId (i + 1) else .lost
      | none => .lost

def admits (w : World options) : (request : Request) → Except ChatError request.Reply → Bool
  | .read stream, .ok (some events) =>
      events.all (fun event => decide (event.body = .syncRequired)) || match w.feeds stream with
        | .at conversationId next => events.isPrefixOf ((w.log conversationId).drop next)
        | .lost => false
  | _, _ => true

def served (w : World options) : (request : Request) → Except ChatError request.Reply → ℕ → Feed
  | .connect stream conversationId lastEventId, .ok _ =>
      fun s => if s = stream then feed w conversationId lastEventId else w.feeds s
  | .read stream, .ok (some events) => fun s => match w.feeds s with
      | .at conversationId next => if s = stream then .at conversationId (next + events.length) else w.feeds s
      | .lost => .lost
  | _, _ => w.feeds

def appendable (w : World options) (event : PublicConversationEvent) : Bool :=
  decide (event.body ≠ .syncRequired) && (w.log event.conversationId).all fun earlier =>
    decide (earlier.eventId ≠ event.eventId) && decide (earlier.sequence < event.sequence)

def step (w : World options) : Action → World options
  | .happens stimulus => { w with client := w.client.happens stimulus }
  | .answers task request reply =>
      if admits w request reply then
        { w with client := w.client.answers task request reply, feeds := served w request reply }
      else w
  | .appends event =>
      if appendable w event then
        { w with log := fun c => if c = event.conversationId then w.log c ++ [event] else w.log c }
      else w
  | .prunes conversationId count =>
      { w with pruned := fun c => if c = conversationId then max (w.pruned c) (min count (w.log c).length)
        else w.pruned c }

def initial (options : ChatClientOptions) : World options :=
  ⟨ChatClient.begun options, fun _ => [], fun _ => 0, fun _ => .lost⟩

def dispatched (w : World options) : List ChatStateAction := w.client.state.screen.actions

end Step

section Epochs

def clearsLive : ChatStateAction → Bool
  | .conversationCleared | .liveCleared => true
  | _ => false

def clearsCursor : ChatStateAction → Bool
  | .conversationCleared | .cursorCleared => true
  | _ => false

def receivedId : ChatStateAction → Option Id
  | .eventReceived event => some event.eventId
  | _ => none

def sinceClear : List ChatStateAction → List ChatStateAction
  | [] => []
  | a :: actions => if (a :: actions).any clearsLive then sinceClear actions else a :: actions

def othersReceived (eventId : Id) (actions : List ChatStateAction) : List Id :=
  ((actions.filterMap receivedId).filter fun id => decide (id ≠ eventId)).dedup

def Recent (eventId : Id) : List ChatStateAction → Prop
  | [] => True
  | a :: actions => (receivedId a = some eventId →
      (∀ b ∈ actions, clearsCursor b = false) ∧ (othersReceived eventId actions).length < 100) ∧
        Recent eventId actions

instance recent_decidable (eventId : Id) : (actions : List ChatStateAction) → Decidable (Recent eventId actions)
  | [] => .isTrue trivial
  | _ :: actions => @instDecidableAnd _ _ _ (recent_decidable eventId actions)

variable (locale : Collation)

def reduced (actions : List ChatStateAction) : ChatState := actions.foldl (reduceChatState locale) initialChatState

def Timely (earlier : List ChatStateAction) : ChatStateAction → Prop
  | .eventReceived event => ((event.messageId.bind present).any (reduced locale earlier).shows = true) ∨
      Recent event.eventId (sinceClear earlier)
  | _ => True

instance timely_decidable (earlier : List ChatStateAction) : (a : ChatStateAction) →
    Decidable (Timely locale earlier a)
  | .eventReceived _ => inferInstanceAs (Decidable (_ ∨ _))
  | .phaseChanged _ | .sessionLoaded _ | .snapshotLoaded
      .. | .conversationCleared | .liveCleared | .messageSubmitted _
  | .runCancelled .. | .runRetrying | .structuredInputSubmitted _ | .cursorRestored .. | .cursorCleared
  | .connectionFailed _ | .errorRaised _ => .isTrue trivial

/-- Every event that is dispatched comes in time. -/
def AllTimely (actions : List ChatStateAction) : Prop :=
  Transition.Along (fun earlier a => earlier ++ [a]) (Timely locale) [] actions

instance (actions : List ChatStateAction) : Decidable (AllTimely locale actions) :=
  inferInstanceAs (Decidable (Transition.Along _ _ _ _))

def changes (state : ChatState) : List ChatStateAction → List Id
  | [] => []
  | a :: actions =>
      (if (reduceChatState locale state a).liveMessages = state.liveMessages then [] else (receivedId a).toList) ++
        changes (reduceChatState locale state a) actions

/-- Between two clears of the live messages, every event changes them at most once. -/
def AppliedOnce (actions : List ChatStateAction) : Prop :=
  ∀ earlier epoch later, actions = earlier ++ epoch ++ later → (∀ a ∈ epoch, clearsLive a = false) →
    (changes locale (reduced locale earlier) epoch).Nodup

end Epochs

section Window

variable {locale : Collation} {state : ChatState} {a : ChatStateAction} {event : PublicConversationEvent}
  {eventId : Id}
  {actions : List ChatStateAction}

lemma reduced_append (actions actions' : List ChatStateAction) :
    reduced locale (actions ++ actions') = actions'.foldl (reduceChatState locale) (reduced locale actions) :=
  List.foldl_append

lemma receiveEvent_known (h : event.eventId ∈ state.recentEventIds) : receiveEvent state event = state := if_pos h

lemma recentEventIds_announced (next : ChatState) (body : EventBody) :
    (announced next event body).recentEventIds = next.recentEventIds := by
  cases body <;> rfl

lemma liveMessages_announced (next : ChatState) (body : EventBody) :
    (announced next event body).liveMessages = next.liveMessages := by
  cases body <;> rfl

lemma recentEventIds_received (h : event.eventId ∉ state.recentEventIds) {body : EventBody}
    (hb : event.body = .event body) :
    (receiveEvent state event).recentEventIds = recentIds state.recentEventIds event.eventId := by
  have hnext : (announced (recorded state event) event body).recentEventIds =
      recentIds state.recentEventIds event.eventId := recentEventIds_announced _ _
  simp only [receiveEvent, if_neg h, hb]
  cases event.messageId.bind present with
  | none => exact hnext
  | some messageId =>
    by_cases hs : state.shows messageId = true
    · simpa only [if_pos hs] using hnext
    · simpa only [if_neg hs] using hnext

lemma changed_of_received (h : (receiveEvent state event).liveMessages ≠ state.liveMessages) :
    event.eventId ∉ state.recentEventIds ∧ (∃ body, event.body = .event body) ∧
      (event.messageId.bind present).any state.shows = false := by
  by_cases hrecent : event.eventId ∈ state.recentEventIds
  · exact absurd (congrArg ChatState.liveMessages (receiveEvent_known hrecent)) h
  · refine ⟨hrecent, ?_⟩
    cases hb : event.body with
    | syncRequired =>
      simp only [receiveEvent, if_neg hrecent, hb] at h
      exact absurd rfl h
    | event body =>
      refine ⟨⟨body, rfl⟩, ?_⟩
      simp only [receiveEvent, if_neg hrecent, hb] at h
      cases hm : event.messageId.bind present with
      | none => rfl
      | some messageId =>
        rw [hm] at h
        by_cases hs : state.shows messageId = true
        · simp only [if_pos hs] at h
          exact absurd (liveMessages_announced _ _) h
        · simpa using hs

lemma eq_of_receivedId {id : Id} (h : receivedId a = some id) :
    ∃ event, a = .eventReceived event ∧ event.eventId = id := by
  cases a with
  | eventReceived event => exact ⟨event, rfl, Option.some.inj h⟩
  | _ => cases h

lemma recentEventIds_of_quiet (hid : receivedId a = none) (hc : clearsCursor a = false) :
    (reduceChatState locale state a).recentEventIds = state.recentEventIds := by
  cases a with
  | eventReceived => cases hid
  | conversationCleared | cursorCleared => cases hc
  | snapshotLoaded =>
    simp only [reduceChatState]
    split <;> rfl
  | structuredInputSubmitted =>
    simp only [reduceChatState]
    split <;> rfl
  | _ => rfl

def Holds (eventId : Id) (after : List Id) (state : ChatState) : Prop :=
  ∃ before, state.recentEventIds = before ++ eventId :: after

lemma Holds.recentIds {after : List Id} (h : Holds eventId after state) (id : Id) (hl : after.length < 99) :
    ∃ before, recentIds state.recentEventIds id = before ++ eventId :: (after ++ [id]) := by
  obtain ⟨before, hb⟩ := h
  refine ⟨before.drop (state.recentEventIds.length + 1 - 100), ?_⟩
  have hle : state.recentEventIds.length + 1 - 100 ≤ before.length := by
    rw [hb, List.length_append, List.length_cons]
    omega
  rw [ChatState.recentIds, hb, List.append_assoc, List.cons_append, List.drop_append_of_le_length
    (by rwa [hb] at hle)]

lemma Holds.recent (actions : List ChatStateAction) {all after : List Id} (hall : all.length < 100)
    (hothers : ∀ id ∈ actions.filterMap receivedId, id = eventId ∨ id ∈ all)
    (hc : ∀ a ∈ actions, clearsCursor a = false)
    (hafter : after.Nodup ∧ after ⊆ all) (h : Holds eventId after state) :
    eventId ∈ (actions.foldl (reduceChatState locale) state).recentEventIds := by
  induction actions generalizing state after with
  | nil =>
    obtain ⟨before, hb⟩ := h
    simp [hb]
  | cons a actions ih =>
    have hc' := fun b hb => hc b (List.mem_cons_of_mem a hb)
    have hothers' : ∀ id ∈ actions.filterMap receivedId, id = eventId ∨ id ∈ all := by
      intro id hid
      refine hothers id ?_
      rw [List.filterMap_cons]
      split
      · exact hid
      · exact List.mem_cons_of_mem _ hid
    rw [List.foldl_cons]
    cases hid : receivedId a with
    | none =>
      refine ih hothers' hc' hafter ?_
      obtain ⟨before, hb⟩ := h
      exact ⟨before, (recentEventIds_of_quiet hid (hc a List.mem_cons_self)).trans hb⟩
    | some id =>
      obtain ⟨event, rfl, rfl⟩ := eq_of_receivedId hid
      by_cases hknown : event.eventId ∈ state.recentEventIds
      · change eventId ∈ (actions.foldl (reduceChatState locale) (receiveEvent state event)).recentEventIds
        rw [receiveEvent_known hknown]
        exact ih hothers' hc' hafter h
      · cases hb : event.body with
        | syncRequired =>
          have hsame : receiveEvent state event = state := by simp only [receiveEvent, if_neg hknown, hb]
          change eventId ∈ (actions.foldl (reduceChatState locale) (receiveEvent state event)).recentEventIds
          rw [hsame]
          exact ih hothers' hc' hafter h
        | event body =>
          obtain ⟨before, hbefore⟩ := h
          have hne : event.eventId ≠ eventId ∧ event.eventId ∉ after := by
            rw [hbefore] at hknown
            simp only [List.mem_append, List.mem_cons, not_or] at hknown
            exact hknown.2
          have hmem : event.eventId ∈ all :=
            (hothers event.eventId (by simp [receivedId])).resolve_left hne.1
          have hnew : (after ++ [event.eventId]).Nodup ∧ after ++ [event.eventId] ⊆ all := by
            refine ⟨List.nodup_append.mpr ⟨hafter.1, List.nodup_singleton _, ?_⟩, ?_⟩
            · intro x hx y hy
              rw [List.mem_singleton.mp hy]
              exact fun he => hne.2 (he ▸ hx)
            · simpa using ⟨hafter.2, hmem⟩
          have hlen := (hnew.1.subperm hnew.2).length_le
          rw [List.length_append, List.length_singleton] at hlen
          refine ih hothers' hc' hnew ?_
          obtain ⟨front, hfront⟩ := Holds.recentIds ⟨before, hbefore⟩ event.eventId (by omega)
          exact ⟨front, (recentEventIds_received hknown hb).trans hfront⟩

end Window

section Once

variable {locale : Collation}

lemma sinceClear_append (earlier : List ChatStateAction) {epoch : List ChatStateAction}
    (h : ∀ a ∈ epoch, clearsLive a = false) : ∃ front, sinceClear (earlier ++ epoch) = front ++ epoch := by
  induction earlier with
  | nil =>
    cases epoch with
    | nil => exact ⟨[], rfl⟩
    | cons a epoch =>
      refine ⟨[], ?_⟩
      rw [List.nil_append, sinceClear, if_neg]
      rw [Bool.not_eq_true, List.any_eq_false]
      exact fun b hb => by simp [h b hb]
  | cons a earlier ih =>
    rw [List.cons_append, sinceClear]
    split
    · exact ih
    · exact ⟨a :: earlier, rfl⟩

lemma Recent.of_append {eventId : Id} {front actions : List ChatStateAction}
    (h : Recent eventId (front ++ actions)) :
    Recent eventId actions := by
  induction front with
  | nil => exact h
  | cons a front ih => exact ih h.2

lemma changes_append (state : ChatState) (actions actions' : List ChatStateAction) :
    changes locale state (actions ++ actions') =
      changes locale state actions ++ changes locale (actions.foldl (reduceChatState locale) state) actions' := by
  induction actions generalizing state with
  | nil => rfl
  | cons a actions ih => simp only [List.cons_append, changes, ih, List.foldl_cons, List.append_assoc]

lemma mem_changes {state : ChatState} {actions : List ChatStateAction} {id : Id}
    (h : id ∈ changes locale state actions) :
    ∃ front event back, actions = front ++ .eventReceived event :: back ∧ event.eventId = id ∧
      (receiveEvent (front.foldl (reduceChatState locale) state) event).liveMessages ≠
        (front.foldl (reduceChatState locale) state).liveMessages := by
  induction actions generalizing state with
  | nil => exact absurd h List.not_mem_nil
  | cons a actions ih =>
    rw [changes, List.mem_append] at h
    rcases h with h | h
    · by_cases hsame : (reduceChatState locale state a).liveMessages = state.liveMessages
      · simp [if_pos hsame] at h
      · rw [if_neg hsame] at h
        cases a with
        | eventReceived event =>
          refine ⟨[], event, actions, rfl, ?_, hsame⟩
          simpa [receivedId, eq_comm] using h
        | _ => simp [receivedId] at h
    · obtain ⟨front, event, back, rfl, hid, hchange⟩ := ih h
      exact ⟨a :: front, event, back, rfl, hid, hchange⟩

lemma unchanged_of_timely {earlier epoch : List ChatStateAction} {event : PublicConversationEvent}
    (hlive : ∀ a ∈ epoch, clearsLive a = false) (ht : Timely locale (earlier ++ epoch) (.eventReceived event))
    (hm : event.eventId ∈ changes locale (reduced locale earlier) epoch) :
    (receiveEvent (reduced locale (earlier ++ epoch)) event).liveMessages =
      (reduced locale (earlier ++ epoch)).liveMessages := by
  by_contra hchange
  obtain ⟨hunknown, -, hshown⟩ := changed_of_received hchange
  rcases ht with hs | hrecent
  · rw [hs] at hshown
    cases hshown
  · obtain ⟨front, first, back, rfl, hid, hfirst⟩ := mem_changes hm
    obtain ⟨before, hbefore⟩ := sinceClear_append earlier hlive
    rw [hbefore, ← List.append_assoc] at hrecent
    obtain ⟨hcursor, hothers⟩ := hrecent.of_append.1 (congrArg some hid)
    obtain ⟨hnew, ⟨body, hbody⟩, -⟩ := changed_of_received hfirst
    refine hunknown ?_
    rw [← List.append_assoc, reduced_append, List.foldl_cons, reduced_append]
    refine Holds.recent back hothers ?_ hcursor ⟨List.nodup_nil, List.nil_subset _⟩ ?_
    · intro id hmem
      by_cases he : id = event.eventId
      · exact Or.inl he
      · exact Or.inr (List.mem_dedup.mpr (List.mem_filter.mpr ⟨hmem, decide_eq_true he⟩))
    · obtain ⟨w, hw⟩ : ∃ w,
        recentIds (front.foldl (reduceChatState locale) (reduced locale earlier)).recentEventIds
          event.eventId = w ++ [event.eventId] := by
        refine ⟨(front.foldl (reduceChatState locale) (reduced locale earlier)).recentEventIds.drop _,
          List.drop_append_of_le_length ?_⟩
        omega
      exact ⟨w, (recentEventIds_received hnew hbody).trans (hid ▸ hw)⟩

lemma appliedOnce_of_timely {actions : List ChatStateAction} (h : AllTimely locale actions) :
    AppliedOnce locale actions := by
  rintro earlier epoch later rfl hlive
  have hexec : ∀ front : List ChatStateAction,
      Transition.exec (fun earlier a => earlier ++ [a]) [] front = front := by
    intro front
    have hgen : ∀ start : List ChatStateAction,
        Transition.exec (fun earlier a => earlier ++ [a]) start front = start ++ front := by
      induction front with
      | nil => simp
      | cons a front ih => simp [ih]
    exact hgen []
  induction epoch using List.reverseRecOn generalizing later with
  | nil => exact List.nodup_nil
  | append_singleton epoch a ih =>
    have hepoch : ∀ b ∈ epoch, clearsLive b = false := fun b hb => hlive b (List.mem_append_left _ hb)
    have hfront := ih (a :: later) (by simpa using h) hepoch
    have htimely : Timely locale (earlier ++ epoch) a := by
      have hsplit : earlier ++ (epoch ++ [a]) ++ later = (earlier ++ epoch) ++ a :: later := by simp
      rw [AllTimely, hsplit] at h
      simpa only [hexec] using (Transition.along_append.mp h).2.1
    rw [changes_append, ← reduced_append]
    refine List.nodup_append.mpr ⟨hfront, ?_, ?_⟩
    · simp only [changes, List.append_nil]
      split
      · exact List.nodup_nil
      · cases receivedId a <;> simp
    · rintro id hid id' hid' rfl
      obtain ⟨front, event, back, hsingle, rfl, hchange⟩ := mem_changes hid'
      obtain ⟨rfl, rfl⟩ : front = [] ∧ a = .eventReceived event := by
        cases front with
        | nil => exact ⟨rfl, (List.cons.inj hsingle).1⟩
        | cons b front => simp at hsingle
      exact hchange (unchanged_of_timely hepoch htimely hid)

/-- In a run in which every event that is dispatched comes in time, no event changes the live messages twice
between two clears of them. -/
theorem events_applied_once (options : ChatClientOptions) (actions : List Action)
    (h : AllTimely options.locale (dispatched (Transition.exec step (initial options) actions))) :
    AppliedOnce options.locale (dispatched (Transition.exec step (initial options) actions)) :=
  appliedOnce_of_timely h

end Once

section Scenario

open Streams (plain saved connecting)

def messageStarted : PublicConversationEvent := ⟨"e1", 1, 0, "c", some "r", some "m", .event .messageStarted⟩

def messageDelta : PublicConversationEvent := ⟨"e2", 2, 0, "c", some "r", some "m", .event (.messageDelta "Hi")⟩

def played : Streams.Action → Action
  | .happens stimulus => .happens stimulus
  | .answers task request reply => .answers task request reply

def resumed (task : ℕ) : Action := played (Streams.turn task)

def reading : List Action := connecting.map played ++ [
  .answers 4 (.connect 0 "c" none) (.ok ()), .appends messageStarted, .appends messageDelta,
  .answers 5 (.read 0) (.ok (some [messageStarted, messageDelta]))]

def leaving : List Action := reading ++ [
  .answers 5 (saved (some "c") (some "e1") (some 1)) (.ok ()), resumed 5, resumed 5,
  .answers 5 (saved (some "c") (some "e2") (some 2)) (.ok ()), resumed 5, resumed 5,
  .happens (.selectConversation "d"), .happens .recovered, resumed 10, resumed 10, resumed 11,
  .answers 11 (.connect 1 "c" none) (.ok ()), .answers 12 (.read 1) (.ok (some [messageStarted, messageDelta])),
  .answers 12 (saved (some "d") (some "e1") (some 1)) (.ok ()), resumed 12, resumed 12]

def reached (actions : List Action) : World plain := Transition.exec step (initial plain) actions

/-- The text of the delta appears twice. -/
theorem selection_repeats_text :
    ((reached leaving).client.state.state.liveMessages.map LiveMessage.text = ["HiHi"]) ∧
    ¬ AppliedOnce plain.locale (dispatched (reached leaving)) := by
  refine ⟨by decide +kernel, fun h => ?_⟩
  have hnodup := h ((dispatched (reached leaving)).take 4) ((dispatched (reached leaving)).drop 4) [] (by simp)
    (by decide +kernel)
  revert hnodup
  decide +kernel

def refocused : List Action := reading ++ [
  .happens .recovered, resumed 6, resumed 6, resumed 7, .answers 7 (.connect 1 "c" (some "e1")) (.ok ()),
  .answers 8 (.read 1) (.ok (some [messageDelta])), .answers 5 (saved (some "c") (some "e1") (some 1)) (.ok ()),
  resumed 5, resumed 5]

theorem refocused_text_once :
    (dispatched (reached refocused)).countP (fun a => decide (receivedId a = some "e2")) = 2 ∧
    AppliedOnce plain.locale (dispatched (reached refocused)) :=
  ⟨by decide +kernel, events_applied_once plain refocused (by decide +kernel)⟩

end Scenario

end ChatCore.Client.Delivery
