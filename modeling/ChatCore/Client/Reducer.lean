import ChatCore.Client.Delivery

namespace ChatCore.Client.Reducer

open Protocol Services EventStore ChatState Delivery
open Streams (plain shown)

section Canonical

variable {locale : Collation} {message : MessageResource} {messages kept : List MessageResource} {messageId : Id}

def ids (messages : List MessageResource) : List Id := messages.map MessageResource.messageId

lemma ids_setMessage : ids (setMessage messages message) =
    if message.messageId ∈ ids messages then ids messages else ids messages ++ [message.messageId] := by
  have hany : (messages.any fun m => decide (m.messageId = message.messageId)) = true ↔
    message.messageId ∈ ids messages := by
    simp [ids]
  rw [setMessage]
  by_cases h : message.messageId ∈ ids messages
  · rw [if_pos h, if_pos (hany.mpr h), ids, List.map_map]
    refine List.map_congr_left fun m _ => ?_
    rw [Function.comp_apply]
    split
    · exact Eq.symm ‹_›
    · rfl
  · rw [if_neg h, if_neg fun ha => h (hany.mp ha), ids, List.map_append]
    rfl

lemma mem_ids_foldl : messageId ∈ ids (messages.foldl setMessage kept) ↔ messageId ∈ ids kept ∨
    messageId ∈ ids messages := by
  induction messages generalizing kept with
  | nil => simp [ids]
  | cons m messages ih =>
    rw [List.foldl_cons, ih, ids_setMessage]
    by_cases h : m.messageId ∈ ids kept
    · rw [if_pos h]
      constructor
      · exact Or.imp_right (List.mem_cons_of_mem _)
      · rintro (hk | hm)
        · exact Or.inl hk
        · rcases List.mem_cons.mp hm with rfl | hm
          · exact Or.inl h
          · exact Or.inr hm
    · rw [if_neg h]
      simp [ids, or_assoc]

lemma nodup_ids_foldl (h : (ids kept).Nodup) : (ids (messages.foldl setMessage kept)).Nodup := by
  induction messages generalizing kept with
  | nil => exact h
  | cons m messages ih =>
    rw [List.foldl_cons]
    refine ih ?_
    rw [ids_setMessage]
    split
    · exact h
    · rename_i hnew
      refine List.nodup_append.mpr ⟨h, List.nodup_singleton _, ?_⟩
      rintro x hx y hy rfl
      exact hnew (List.mem_singleton.mp hy ▸ hx)

def Precedes (locale : Collation) (left right : MessageResource) : Prop := left.sequence < right.sequence ∨
  (left.sequence = right.sequence ∧ locale.sortKey left.messageId < locale.sortKey right.messageId)

lemma before_trans (a b c : MessageResource) (hab : before locale a b = true) (hbc : before locale b c = true) :
    before locale a c = true := by
  simp only [before, Bool.or_eq_true, Bool.and_eq_true, decide_eq_true_eq] at hab hbc ⊢
  rcases hab with hab | ⟨hab, hab'⟩ <;> rcases hbc with hbc | ⟨hbc, hbc'⟩
  · exact Or.inl (hab.trans hbc)
  · exact Or.inl (hbc ▸ hab)
  · exact Or.inl (hab ▸ hbc)
  · exact Or.inr ⟨hab.trans hbc, hab'.trans hbc'⟩

lemma before_total (a b : MessageResource) : (before locale a b || before locale b a) = true := by
  simp only [before, Bool.or_eq_true, Bool.and_eq_true, decide_eq_true_eq]
  rcases lt_trichotomy a.sequence b.sequence with h | h | h
  · exact Or.inl (Or.inl h)
  · rcases le_total (locale.sortKey a.messageId) (locale.sortKey b.messageId) with hk | hk
    · exact Or.inl (Or.inr ⟨h, hk⟩)
    · exact Or.inr (Or.inr ⟨h.symm, hk⟩)
  · exact Or.inr (Or.inl h)

lemma precedes_of_before {a b : MessageResource} (h : before locale a b = true) (hne : a.messageId ≠ b.messageId) :
    Precedes locale a b := by
  simp only [before, Bool.or_eq_true, Bool.and_eq_true, decide_eq_true_eq] at h
  exact h.imp_right fun h => ⟨h.1, lt_of_le_of_ne h.2 fun he => hne (locale.injective he)⟩

lemma mem_ids_canonical : messageId ∈ ids (ChatState.canonicalMessages locale messages) ↔
    messageId ∈ ids messages := by
  rw [ChatState.canonicalMessages, ids, ((List.mergeSort_perm _ _).map _).mem_iff]
  have hfold : messageId ∈ ids (messages.foldl setMessage []) ↔ messageId ∈ ids [] ∨ messageId ∈ ids messages :=
    mem_ids_foldl
  simpa [ids] using hfold

lemma nodup_ids_canonical : (ids (ChatState.canonicalMessages locale messages)).Nodup :=
  ((List.mergeSort_perm _ _).map _).nodup_iff.mpr (nodup_ids_foldl List.nodup_nil)

lemma pairwise_canonical : (ChatState.canonicalMessages locale messages).Pairwise (Precedes locale) := by
  have hsorted : (ChatState.canonicalMessages locale messages).Pairwise fun a b => before locale a b = true :=
    List.pairwise_mergeSort before_trans before_total _
  have hdistinct : (ChatState.canonicalMessages locale messages).Pairwise fun a b => a.messageId ≠ b.messageId :=
    List.pairwise_map.mp nodup_ids_canonical
  exact (hsorted.and hdistinct).imp fun h => precedes_of_before h.1 h.2

lemma shows_iff {state : ChatState} : state.shows messageId = true ↔ messageId ∈ ids state.messages := by
  simp [ChatState.shows, ids]

end Canonical

structure Tidy (locale : Collation) (state : ChatState) : Prop where
  distinct : (ids state.messages).Nodup
  ordered : state.messages.Pairwise (Precedes locale)
  disjoint : ∀ live ∈ state.liveMessages, live.messageId ∉ ids state.messages

/-- A submitted message is not a live one. -/
def Submits (state : ChatState) : ChatStateAction → Prop
  | .messageSubmitted message => ∀ live ∈ state.liveMessages, live.messageId ≠ message.messageId
  | _ => True

instance (state : ChatState) : (a : ChatStateAction) → Decidable (Submits state a)
  | .messageSubmitted message => inferInstanceAs (Decidable (∀ live ∈ state.liveMessages, _ ≠ message.messageId))
  | .phaseChanged _ | .sessionLoaded _ | .snapshotLoaded
      .. | .conversationCleared | .liveCleared | .runCancelled ..
  | .runRetrying | .structuredInputSubmitted _ | .eventReceived _ | .cursorRestored .. | .cursorCleared
  | .connectionFailed _ | .errorRaised _ => .isTrue trivial

section Tidy

variable {locale : Collation} {state : ChatState} {a : ChatStateAction} {event : PublicConversationEvent}

lemma mem_setLive {lives : List LiveMessage} {live l : LiveMessage} (h : l ∈ setLive lives live) :
    l ∈ lives ∨ l = live := by
  rw [setLive] at h
  split at h
  · obtain ⟨m, hm, rfl⟩ := List.mem_map.mp h
    split
    · exact Or.inr rfl
    · exact Or.inl hm
  · simpa using h

lemma messageId_updateLive (current : LiveMessage) (body : EventBody) :
    (updateLive current body).messageId = current.messageId := by
  cases body <;> rfl

lemma messageId_currentLive (messageId : Id) : (state.currentLive messageId).messageId = messageId := by
  rw [currentLive]
  cases hf : state.liveMessages.find? fun live => decide (live.messageId = messageId) with
  | none => rfl
  | some live => simpa using List.find?_some hf

lemma messages_announced (next : ChatState) (body : EventBody) :
    (announced next event body).messages = next.messages := by
  cases body <;> rfl

lemma messages_received : (receiveEvent state event).messages = state.messages := by
  have hnext : ∀ body, (announced (recorded state event) event body).messages = state.messages :=
    messages_announced _
  rw [receiveEvent]
  split
  · rfl
  · cases event.body with
    | syncRequired => rfl
    | event body =>
      dsimp only
      split
      · exact hnext body
      · split
        · exact hnext body
        · exact hnext body

lemma mem_live_received {live : LiveMessage} (h : live ∈ (receiveEvent state event).liveMessages) :
    live ∈ state.liveMessages ∨ state.shows live.messageId = false := by
  rw [receiveEvent] at h
  split at h
  · exact Or.inl h
  · cases hb : event.body with
    | syncRequired =>
      rw [hb] at h
      exact Or.inl h
    | event body =>
      have hnext : (announced (recorded state event) event body).liveMessages = state.liveMessages :=
        liveMessages_announced _ _
      rw [hb] at h
      dsimp only at h
      split at h
      · exact Or.inl (hnext ▸ h)
      · rename_i messageId _
        split at h
        · exact Or.inl (hnext ▸ h)
        · rename_i hshown
          rcases mem_setLive h with h | rfl
          · exact Or.inl h
          · rw [messageId_updateLive, messageId_currentLive]
            exact Or.inr (Bool.not_eq_true _ ▸ hshown)

lemma Tidy.of_same {state' : ChatState} (h : Tidy locale state) (hm : state'.messages = state.messages)
    (hl : ∀ live ∈ state'.liveMessages, live ∈ state.liveMessages) : Tidy locale state' :=
  ⟨hm ▸ h.distinct, hm ▸ h.ordered, fun live hlive => hm ▸ h.disjoint live (hl live hlive)⟩

lemma tidy_snapshot (conversation : ConversationService.ConversationResource) (messages : List MessageResource) :
    Tidy locale (snapshotOf locale state conversation messages) := by
  refine ⟨nodup_ids_canonical, pairwise_canonical, fun live hlive hmem => ?_⟩
  have hnone := (List.mem_filter.mp hlive).2
  rw [Bool.not_eq_true', List.any_eq_false] at hnone
  obtain ⟨m, hm, hid⟩ := List.mem_map.mp hmem
  exact hnone m hm (decide_eq_true hid)

lemma Tidy.step (h : Tidy locale state) (ha : Submits state a) : Tidy locale (reduceChatState locale state a) := by
  cases a with
  | snapshotLoaded conversation messages =>
    simp only [reduceChatState]
    split
    · exact tidy_snapshot conversation messages
    · exact (tidy_snapshot conversation messages).of_same rfl fun _ hl => hl
  | conversationCleared =>
    exact ⟨List.nodup_nil, List.Pairwise.nil, fun live hl => absurd hl List.not_mem_nil⟩
  | liveCleared => exact h.of_same rfl fun live hl => absurd hl List.not_mem_nil
  | messageSubmitted message =>
    refine ⟨nodup_ids_canonical, pairwise_canonical, fun live hlive hmem => ?_⟩
    have hmem' := mem_ids_canonical.mp hmem
    rw [ids, List.map_append, List.mem_append] at hmem'
    rcases hmem' with hmem' | hmem'
    · exact h.disjoint live hlive hmem'
    · exact ha live hlive (List.mem_singleton.mp hmem')
  | structuredInputSubmitted =>
    simp only [reduceChatState]
    split
    · exact h.of_same rfl fun _ hl => hl
    · exact h
  | eventReceived event =>
    have hmessages : (reduceChatState locale state (.eventReceived event)).messages = state.messages :=
      messages_received
    refine ⟨hmessages ▸ h.distinct, hmessages ▸ h.ordered, fun live hlive => ?_⟩
    rw [hmessages]
    rcases mem_live_received hlive with hlive | hnew
    · exact h.disjoint live hlive
    · exact fun hmem => by rw [shows_iff.mpr hmem] at hnew; cases hnew
  | phaseChanged | sessionLoaded | runCancelled | runRetrying | cursorRestored | cursorCleared | connectionFailed
  | errorRaised => exact h.of_same rfl fun _ hl => hl

end Tidy

section Window

variable (locale : Collation)

def follow (s : ChatState × List Id) (a : ChatStateAction) : ChatState × List Id :=
  (reduceChatState locale s.1 a, if clearsCursor a then []
    else if reduceChatState locale s.1 a = s.1 then s.2 else s.2 ++ (receivedId a).toList)

def applied (actions : List ChatStateAction) : List Id := (actions.foldl (follow locale) (initialChatState, [])).2

variable {locale} {state : ChatState} {a : ChatStateAction} {event : PublicConversationEvent} {ids : List Id}

lemma recentIds_last (eventId : Id) :
    recentIds (ids.drop (ids.length - 100)) eventId = (ids ++ [eventId]).drop
      ((ids ++ [eventId]).length - 100) := by
  have hkeep : ids.drop (ids.length - 100) ++ [eventId] = (ids ++ [eventId]).drop (ids.length - 100) :=
    (List.drop_append_of_le_length (Nat.sub_le _ _)).symm
  have hsum : (ids.length - 100) + ((ids.drop (ids.length - 100)).length + 1 - 100) =
      (ids ++ [eventId]).length - 100 := by
    rw [List.length_drop, List.length_append, List.length_singleton]
    omega
  rw [recentIds, hkeep, List.drop_drop, hsum]

structure Windowed (s : ChatState × List Id) : Prop where
  recent : s.1.recentEventIds = s.2.drop (s.2.length - 100)
  nodup : s.1.recentEventIds.Nodup

lemma receiveEvent_ignored (h : event.eventId ∈ state.recentEventIds ∨ event.body = .syncRequired) :
    receiveEvent state event = state := by
  rcases h with h | h
  · exact receiveEvent_known h
  · rw [receiveEvent, h]
    split <;> rfl

lemma Windowed.step {s : ChatState × List Id} (h : Windowed s) : Windowed (follow locale s a) := by
  obtain ⟨state, ids⟩ := s
  cases hid : receivedId a with
  | some id =>
    obtain ⟨event, rfl, rfl⟩ := eq_of_receivedId hid
    by_cases hignored : event.eventId ∈ state.recentEventIds ∨ event.body = .syncRequired
    · have hsame : reduceChatState locale state (.eventReceived event) = state := receiveEvent_ignored hignored
      have hfollow : follow locale (state, ids) (.eventReceived event) = (state, ids) := by
        rw [follow, hsame, if_pos rfl]
        rfl
      rw [hfollow]
      exact h
    · obtain ⟨hnew, hbody⟩ := not_or.mp hignored
      cases hb : event.body with
      | syncRequired => exact absurd hb hbody
      | event body =>
        have hrecent := recentEventIds_received hnew hb
        have hlast : recentIds state.recentEventIds event.eventId =
            (ids ++ [event.eventId]).drop ((ids ++ [event.eventId]).length - 100) := by
          rw [h.recent]
          exact recentIds_last event.eventId
        have hmem : event.eventId ∈ (receiveEvent state event).recentEventIds := by
          rw [hrecent, recentIds, List.drop_append_of_le_length (by omega)]
          simp
        have hchanged : reduceChatState locale state (.eventReceived event) ≠ state := fun he =>
          hnew (congrArg ChatState.recentEventIds he ▸ hmem)
        have hfollow : follow locale (state, ids) (.eventReceived event) =
            (receiveEvent state event, ids ++ [event.eventId]) := by
          rw [follow, if_neg hchanged]
          rfl
        rw [hfollow]
        refine ⟨hrecent.trans hlast, ?_⟩
        have hnodup : (state.recentEventIds ++ [event.eventId]).Nodup := by
          refine List.nodup_append.mpr ⟨h.nodup, List.nodup_singleton _, ?_⟩
          rintro x hx y hy rfl
          exact hnew (List.mem_singleton.mp hy ▸ hx)
        rw [hrecent]
        exact hnodup.sublist (List.drop_sublist _ _)
  | none =>
    cases hc : clearsCursor a with
    | true =>
      have hempty : (reduceChatState locale state a).recentEventIds = [] := by
        cases a with
        | conversationCleared | cursorCleared => rfl
        | _ => cases hc
      rw [follow, hc]
      exact ⟨hempty, hempty ▸ List.nodup_nil⟩
    | false =>
      have hsame : (reduceChatState locale state a).recentEventIds = state.recentEventIds :=
        recentEventIds_of_quiet hid hc
      have hids : (follow locale (state, ids) a).2 = ids := by
        rw [follow, hc, hid]
        simp
      refine ⟨?_, hsame ▸ h.nodup⟩
      rw [hids]
      exact hsame.trans h.recent

lemma windowed (actions : List ChatStateAction) :
    Windowed (actions.foldl (follow locale) (initialChatState, [])) :=
  Transition.invariant ⟨rfl, List.nodup_nil⟩ (fun _ _ h => Windowed.step h) actions

lemma foldl_follow (s : ChatState × List Id) (actions : List ChatStateAction) :
    (actions.foldl (follow locale) s).1 = actions.foldl (reduceChatState locale) s.1 := by
  induction actions generalizing s with
  | nil => rfl
  | cons a actions ih => exact ih _

end Window

/-- Of every state that `reduceChatState` makes: its messages have different ids and are in order, none is
live, and its recent events are the last of those applied since the cursor was cleared, each ignored if it
comes again. -/
theorem state_invariants (locale : Collation) (actions : List ChatStateAction)
    (h : Transition.Along (reduceChatState locale) Submits initialChatState actions) :
    (ids (reduced locale actions).messages).Nodup ∧ (reduced locale actions).messages.Pairwise (Precedes locale) ∧
    (∀ live ∈ (reduced locale actions).liveMessages, live.messageId ∉ ids (reduced locale actions).messages) ∧
    (reduced locale actions).recentEventIds.Nodup ∧
    (reduced locale actions).recentEventIds =
      (applied locale actions).drop ((applied locale actions).length - min 100 (applied locale actions).length) ∧
    ∀ event : PublicConversationEvent, event.eventId ∈ (reduced locale actions).recentEventIds →
      reduceChatState locale (reduced locale actions) (.eventReceived event) = reduced locale actions := by
  have htidy : Tidy locale (reduced locale actions) := h.invariant (Tidy locale)
    ⟨List.nodup_nil, List.Pairwise.nil, fun _ hl => absurd hl List.not_mem_nil⟩ fun _ _ hs ha => hs.step ha
  have hwindowed : Windowed (actions.foldl (follow locale) (initialChatState, [])) := windowed actions
  obtain ⟨hrecent, hnodup⟩ := hwindowed
  rw [foldl_follow] at hrecent hnodup
  refine ⟨htidy.distinct, htidy.ordered, htidy.disjoint, hnodup, ?_, fun event he => receiveEvent_known he⟩
  have hlast : (applied locale actions).length - 100 =
      (applied locale actions).length - min 100 (applied locale actions).length := by omega
  exact hlast ▸ hrecent

section Scenario

def interrupting : List ChatStateAction := [.snapshotLoaded shown [], .eventReceived messageStarted,
  .eventReceived messageDelta, .eventReceived messageDelta,
  .messageSubmitted ⟨"m2", "c", 2, "p", .user, .completed, [.text "Wait"], 0, some 0⟩]

theorem interrupting_message_shown : (reduced plain.locale interrupting).recentEventIds = ["e1", "e2"] ∧
    (reduced plain.locale interrupting).liveMessages.map LiveMessage.text = ["Hi"] ∧
    ∀ live ∈ (reduced plain.locale interrupting).liveMessages,
      live.messageId ∉ ids (reduced plain.locale interrupting).messages :=
  ⟨by decide +kernel, by decide +kernel, (state_invariants plain.locale interrupting (by decide +kernel)).2.2.1⟩

end Scenario

end ChatCore.Client.Reducer
