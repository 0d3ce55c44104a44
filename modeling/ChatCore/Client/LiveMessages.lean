import ChatCore.Client.Reducer

namespace ChatCore.Client.LiveMessages

open Protocol Services EventStore ChatState Delivery Reducer
open Streams (plain)

def live (state : ChatState) (messageId : Id) : Option LiveMessage :=
  state.liveMessages.find? fun l => decide (l.messageId = messageId)

def received (locale : Collation) (state : ChatState) (events : List PublicConversationEvent) : ChatState :=
  (events.map ChatStateAction.eventReceived).foldl (reduceChatState locale) state

def about (messageId : Id) (events : List PublicConversationEvent) : List PublicConversationEvent :=
  events.filter fun event => decide (event.messageId = some messageId)

/-- The events are distinct, and the state does not remember them. -/
structure Fresh (state : ChatState) (events : List PublicConversationEvent) : Prop where
  distinct : (events.map PublicConversationEvent.eventId).Nodup
  unknown : ∀ event ∈ events, event.eventId ∉ state.recentEventIds

section Entries

variable {state : ChatState} {event : PublicConversationEvent} {messageId : Id}

lemma find_replaced_other {l : LiveMessage} (h : l.messageId ≠ messageId) (lives : List LiveMessage) :
    ((lives.map fun x => if x.messageId = l.messageId then l else x).find? fun x =>
      decide (x.messageId = messageId)) =
      lives.find? fun x => decide (x.messageId = messageId) := by
  induction lives with
  | nil => rfl
  | cons x lives ih =>
    rw [List.map_cons, List.find?_cons, List.find?_cons, ih]
    by_cases hx : x.messageId = l.messageId
    · have hne : x.messageId ≠ messageId := fun he => h (hx.symm.trans he)
      rw [if_pos hx, decide_eq_false h, decide_eq_false hne]
    · rw [if_neg hx]

lemma find_replaced_own {l : LiveMessage} (lives : List LiveMessage)
    (h : (lives.any fun x => decide (x.messageId = l.messageId)) = true) :
    ((lives.map fun x => if x.messageId = l.messageId then l else x).find? fun x =>
      decide (x.messageId = l.messageId)) = some l := by
  induction lives with
  | nil => cases h
  | cons x lives ih =>
    by_cases hx : x.messageId = l.messageId
    · simp [hx]
    · simp only [List.any_cons, hx, decide_false, Bool.false_or] at h
      simpa [hx] using ih h

lemma find_setLive (lives : List LiveMessage) (l : LiveMessage) :
    ((setLive lives l).find? fun x => decide (x.messageId = messageId)) =
      if l.messageId = messageId then some l else lives.find? fun x => decide (x.messageId = messageId) := by
  rw [setLive]
  by_cases he : l.messageId = messageId
  · subst he
    rw [if_pos rfl]
    split
    · rename_i hany
      exact find_replaced_own lives hany
    · rename_i hany
      have hnone : lives.find? (fun x => decide (x.messageId = l.messageId)) = none := by simpa using hany
      simp [List.find?_append, hnone]
  · rw [if_neg he]
    split
    · exact find_replaced_other he lives
    · simp [List.find?_append, he]

def entered (messageId : Id) (entry : Option LiveMessage) (event : PublicConversationEvent) : Option LiveMessage :=
  match event.body with
  | .syncRequired => entry
  | .event body => some (updateLive (entry.getD (liveMessage messageId)) body)

lemma shows_received (messageId : Id) : (receiveEvent state event).shows messageId = state.shows messageId := by
  rw [ChatState.shows, messages_received, ChatState.shows]

lemma live_received_other (h : event.messageId.bind present ≠ some messageId) :
    live (receiveEvent state event) messageId = live state messageId := by
  by_cases hknown : event.eventId ∈ state.recentEventIds
  · rw [receiveEvent_known hknown]
  · rw [receiveEvent, if_neg hknown]
    cases event.body with
    | syncRequired => rfl
    | event body =>
      have hnext : live (announced (recorded state event) event body) messageId = live state messageId := by
        rw [live, liveMessages_announced]
        rfl
      cases hm : event.messageId.bind present with
      | none => exact hnext
      | some id =>
        have hid : id ≠ messageId := fun he => h (he ▸ hm)
        dsimp only
        split
        · exact hnext
        · rw [live, find_setLive, messageId_updateLive, messageId_currentLive, if_neg hid, live]

lemma live_received_shown (h : state.shows messageId = true) :
    live (receiveEvent state event) messageId = live state messageId := by
  by_cases hm : event.messageId.bind present = some messageId
  · by_cases hchange : (receiveEvent state event).liveMessages = state.liveMessages
    · rw [live, hchange, live]
    · obtain ⟨-, -, hshown⟩ := changed_of_received hchange
      rw [hm, Option.any_some, h] at hshown
      cases hshown
  · exact live_received_other hm

lemma live_received_own (hm : event.messageId.bind present = some messageId)
    (hnew : event.eventId ∉ state.recentEventIds)
    (h : state.shows messageId = false) :
    live (receiveEvent state event) messageId = entered messageId (live state messageId) event := by
  rw [receiveEvent, if_neg hnew, entered]
  cases event.body with
  | syncRequired => rfl
  | event body =>
    simp only [hm, h, Bool.false_eq_true, if_false]
    rw [live, find_setLive, messageId_updateLive, messageId_currentLive, if_pos rfl]
    rfl

lemma recentEventIds_subset {id : Id} (h : id ∈ (receiveEvent state event).recentEventIds) :
    id ∈ state.recentEventIds ∨ id = event.eventId := by
  by_cases hknown : event.eventId ∈ state.recentEventIds
  · rw [receiveEvent_known hknown] at h
    exact Or.inl h
  · cases hb : event.body with
    | syncRequired =>
      rw [receiveEvent_ignored (Or.inr hb)] at h
      exact Or.inl h
    | event body =>
      rw [recentEventIds_received hknown hb, recentIds] at h
      simpa using List.mem_of_mem_drop h

lemma Fresh.tail {events : List PublicConversationEvent} (h : Fresh state (event :: events)) :
    Fresh (receiveEvent state event) events := by
  obtain ⟨hne, hd⟩ := List.nodup_cons.mp h.distinct
  refine ⟨hd, fun e he hmem => ?_⟩
  rcases recentEventIds_subset hmem with hmem | heq
  · exact h.unknown e (List.mem_cons_of_mem _ he) hmem
  · exact hne (List.mem_map.mpr ⟨e, he, heq⟩)

end Entries

section Independence

variable {locale : Collation} {state : ChatState} {events : List PublicConversationEvent}

lemma messages_of_received : (received locale state events).messages = state.messages := by
  induction events generalizing state with
  | nil => rfl
  | cons event events ih => exact ih.trans messages_received

lemma live_of_shown {messageId : Id} (h : state.shows messageId = true) :
    live (received locale state events) messageId = live state messageId := by
  induction events generalizing state with
  | nil => rfl
  | cons event events ih =>
    refine (ih ?_).trans (live_received_shown h)
    exact (shows_received messageId).trans h

lemma live_of_empty : live (received locale state events) "" = live state "" := by
  induction events generalizing state with
  | nil => rfl
  | cons event events ih =>
    refine ih.trans (live_received_other fun h => ?_)
    obtain ⟨id, -, hid⟩ := Option.bind_eq_some_iff.mp h
    rw [present] at hid
    split at hid
    · cases hid
    · rename_i hne
      exact hne (Option.some.inj hid)

lemma live_of_about {messageId : Id} (hp : present messageId = some messageId) (hf : Fresh state events)
    (h : state.shows messageId = false) : live (received locale state events) messageId =
      (about messageId events).foldl (entered messageId) (live state messageId) := by
  induction events generalizing state with
  | nil => rfl
  | cons event events ih =>
    change live (received locale (receiveEvent state event) events) messageId = _
    rw [ih hf.tail ((shows_received messageId).trans h), about, about, List.filter_cons]
    by_cases hm : event.messageId = some messageId
    · have hown : event.messageId.bind present = some messageId := by rw [hm, Option.bind_some, hp]
      rw [live_received_own hown (hf.unknown event List.mem_cons_self) h, if_pos (decide_eq_true hm),
        List.foldl_cons]
    · have hother : event.messageId.bind present ≠ some messageId := by
        intro hbind
        obtain ⟨id, hid, hpresent⟩ := Option.bind_eq_some_iff.mp hbind
        rw [present] at hpresent
        split at hpresent
        · cases hpresent
        · exact hm (hid.trans hpresent)
      rw [live_received_other hother, if_neg (by simpa using hm)]

/-- Two orders of events that agree on each message make the same live messages, and leave the messages. -/
theorem messages_stream_independently (locale : Collation) (state : ChatState)
    {left right : List PublicConversationEvent} (hleft : Fresh state left) (hright : Fresh state right)
    (h : ∀ messageId, about messageId left = about messageId right) :
    (∀ messageId, live (received locale state left) messageId = live (received locale state right) messageId) ∧
      (received locale state left).messages = (received locale state right).messages := by
  refine ⟨fun messageId => ?_, by rw [messages_of_received, messages_of_received]⟩
  by_cases hempty : messageId = ""
  · rw [hempty, live_of_empty, live_of_empty]
  · have hp : present messageId = some messageId := if_neg hempty
    cases hs : state.shows messageId with
    | true => rw [live_of_shown hs, live_of_shown hs]
    | false => rw [live_of_about hp hleft hs, live_of_about hp hright hs, h messageId]

def first : List PublicConversationEvent := [
  ⟨"e1", 1, 0, "c", some "r", some "m", .event .messageStarted⟩,
  ⟨"e2", 2, 0, "c", some "r", some "m", .event (.messageDelta "Hi")⟩,
  ⟨"e3", 3, 0, "c", some "r", none, .event .runCompleted⟩,
  ⟨"e4", 4, 0, "c", some "r'", some "n", .event (.toolStarted "t" "Search")⟩]

def second : List PublicConversationEvent := [
  ⟨"e4", 4, 0, "c", some "r'", some "n", .event (.toolStarted "t" "Search")⟩,
  ⟨"e1", 1, 0, "c", some "r", some "m", .event .messageStarted⟩,
  ⟨"e2", 2, 0, "c", some "r", some "m", .event (.messageDelta "Hi")⟩]

lemma about_first (messageId : Id) : about messageId first = about messageId second := by
  by_cases hm : messageId = "m"
  · rw [hm]
    decide
  · by_cases hn : messageId = "n"
    · rw [hn]
      decide
    · simp [about, first, second, Ne.symm hm, Ne.symm hn]

theorem two_messages_stream : (∀ messageId, live (received plain.locale initialChatState first) messageId =
    live (received plain.locale initialChatState second) messageId) ∧
      (received plain.locale initialChatState first).messages =
        (received plain.locale initialChatState second).messages :=
  messages_stream_independently plain.locale initialChatState ⟨by decide, by simp [initialChatState]⟩
    ⟨by decide, by simp [initialChatState]⟩ about_first

end Independence

end ChatCore.Client.LiveMessages
