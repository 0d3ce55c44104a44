import ChatCore.Client.LiveMessages
import ChatCore.Runs.Attribution
import ChatCore.Services.Histories
import Mathlib.Data.List.DropRight
import Mathlib.Data.List.Infix

namespace ChatCore.Client.LiveText

open Protocol Services ConversationService EventStore ChatState Delivery Reducer LiveMessages
open Database (MessageStatus)
open Streams (plain shown)

section Text

def bodyAbout (messageId : Id) (event : PublicConversationEvent) : Option EventBody := match event.body with
  | .event body => if event.messageId.bind present = some messageId then some body else none
  | .syncRequired => none

def deltas (bodies : List EventBody) : String := String.join (bodies.filterMap fun
  | .messageDelta delta => some delta
  | _ => none)

def isStarted : EventBody → Bool
  | .messageStarted => true
  | _ => false

def isCompleted : EventBody → Bool
  | .messageCompleted _ => true
  | _ => false

lemma deltas_append (bodies bodies' : List EventBody) :
    deltas (bodies ++ bodies') = deltas bodies ++ deltas bodies' := by
  rw [deltas, List.filterMap_append, String.join_append, deltas, deltas]

lemma text_updateLive (l : LiveMessage) {body : EventBody} (h : isCompleted body = false) :
    (updateLive l body).text = l.text ++ deltas [body] := by
  cases body with
  | messageDelta delta => simp [updateLive, deltas]
  | messageCompleted parts => cases h
  | _ => simp [updateLive, deltas]

lemma text_foldl (l : LiveMessage) {bodies : List EventBody} (h : ∀ body ∈ bodies, isCompleted body = false) :
    (bodies.foldl updateLive l).text = l.text ++ deltas bodies := by
  induction bodies generalizing l with
  | nil => simp [deltas]
  | cons body bodies ih =>
    obtain ⟨hbody, hbodies⟩ := List.forall_mem_cons.mp h
    rw [List.foldl_cons, ih _ hbodies, text_updateLive l hbody, String.append_assoc, ← deltas_append]
    rfl

variable {state : ChatState} {event : PublicConversationEvent} {messageId : Id}

lemma live_received_none (h : bodyAbout messageId event = none) :
    live (receiveEvent state event) messageId = live state messageId := by
  cases hb : event.body with
  | syncRequired => rw [receiveEvent_ignored (Or.inr hb)]
  | event body =>
    refine live_received_other fun hm => ?_
    rw [bodyAbout, hb] at h
    simp [hm] at h

lemma live_received_some {body : EventBody} (h : bodyAbout messageId event = some body)
    (hnew : event.eventId ∉ state.recentEventIds) (hs : state.shows messageId = false) :
    live (receiveEvent state event) messageId =
      some (updateLive ((live state messageId).getD (liveMessage messageId)) body) := by
  cases hb : event.body with
  | syncRequired => simp [bodyAbout, hb] at h
  | event body' =>
    simp only [bodyAbout, hb, Option.ite_none_right_eq_some, Option.some.injEq] at h
    obtain ⟨hm, rfl⟩ := h
    rw [live_received_own hm hnew hs, entered, hb]

end Text

section Snapshots

/-- What comes to a client about its conversation: an event of the stream, or a snapshot. -/
inductive Arrival
  | event (event : PublicConversationEvent)
  | snapshot (conversation : ConversationResource) (messages : List MessageResource)
  deriving DecidableEq

def Arrival.action : Arrival → ChatStateAction
  | .event e => .eventReceived e
  | .snapshot conversation messages => .snapshotLoaded conversation messages

def Arrival.event? : Arrival → Option PublicConversationEvent
  | .event e => some e
  | .snapshot .. => none

def shownAfter (locale : Collation) (arrivals : List Arrival) :
    ChatState := reduced locale (arrivals.map Arrival.action)

def bodies (messageId : Id) (arrivals : List Arrival) : List EventBody :=
  (arrivals.filterMap Arrival.event?).filterMap (bodyAbout messageId)

def isFinal : MessageStatus → Bool
  | .completed | .failed | .cancelled => true
  | .pending | .streaming => false

/-- The message has not been completed by an event, and no snapshot has shown it as ended. -/
def undecided (messageId : Id) (arrivals : List Arrival) : Bool :=
  (bodies messageId arrivals).all (fun body => !isCompleted body) && arrivals.all fun
    | .event _ => true
    | .snapshot _ messages => messages.all fun m => !(decide (m.messageId = messageId) && isFinal m.status)

def lastSnapshot (arrivals : List Arrival) : List MessageResource := arrivals.foldl (fun messages a => match a with
  | .event _ => messages
  | .snapshot _ messages' => messages') []

/-- Once an event of the message has been received, its live text is that of all its deltas so far. -/
def Streams (locale : Collation) (messageId : Id) (arrivals : List Arrival) : Prop :=
  bodies messageId arrivals ≠ [] →
  ∃ l, live (shownAfter locale arrivals) messageId = some l ∧ l.text = deltas (bodies messageId arrivals)

variable {locale : Collation} {arrivals : List Arrival} {messageId : Id}

lemma shownAfter_append (a : Arrival) :
    shownAfter locale (arrivals ++ [a]) = reduceChatState locale (shownAfter locale arrivals) a.action := by
  rw [shownAfter, List.map_append, reduced_append]
  rfl

lemma bodies_append (a : Arrival) : bodies messageId (arrivals ++ [a]) =
    bodies messageId arrivals ++ (a.event?.bind (bodyAbout messageId)).toList := by
  rw [bodies, List.filterMap_append, List.filterMap_append, bodies]
  refine congrArg _ ?_
  cases a with
  | snapshot conversation messages => rfl
  | event event =>
    cases h : bodyAbout messageId event with
    | none =>
      simp only [List.filterMap_cons, List.filterMap_nil, Arrival.event?, Option.bind_some, h, Option.toList_none]
    | some body =>
      simp only [List.filterMap_cons, List.filterMap_nil, Arrival.event?, Option.bind_some, h, Option.toList_some]

lemma lastSnapshot_append (a : Arrival) : lastSnapshot (arrivals ++ [a]) = match a with
    | .event _ => lastSnapshot arrivals
    | .snapshot _ messages => messages := by
  rw [lastSnapshot, List.foldl_concat]
  cases a <;> rfl

lemma find_filter (keeps : Id → Bool) (lives : List LiveMessage) :
    ((lives.filter fun l => keeps l.messageId).find? fun l => decide (l.messageId = messageId)) =
      if keeps messageId then lives.find? fun l => decide (l.messageId = messageId) else none := by
  induction lives with
  | nil => simp
  | cons l lives ih =>
    by_cases hid : l.messageId = messageId
    · cases hk : keeps messageId with
      | true => simp [hid, hk]
      | false =>
        rw [List.filter_cons, hid, hk]
        rw [hk] at ih
        exact ih
    · cases hk : keeps l.messageId with
      | true => simpa [List.filter_cons, hid, hk] using ih
      | false => simpa [List.filter_cons, hid, hk] using ih

lemma live_snapshot {state : ChatState} (conversation : ConversationResource) (messages : List MessageResource) :
    live (reduceChatState locale state (.snapshotLoaded conversation messages)) messageId =
      if messageId ∈ ids messages then none else live state messageId := by
  have hlive : live (snapshotOf locale state conversation messages) messageId =
      if messageId ∈ ids messages then none else live state messageId := by
    refine (find_filter (fun id => !(ChatState.canonicalMessages locale messages).any fun message =>
      decide (message.messageId = id)) state.liveMessages).trans ?_
    by_cases hm : messageId ∈ ids messages
    · obtain ⟨m, hmem, hid⟩ := List.mem_map.mp ((@mem_ids_canonical locale _ _).mpr hm)
      have hany : ((ChatState.canonicalMessages locale messages).any fun message =>
          decide (message.messageId = messageId)) = true := List.any_eq_true.mpr ⟨m, hmem, decide_eq_true hid⟩
      rw [if_pos hm, hany]
      rfl
    · have hany : ((ChatState.canonicalMessages locale messages).any fun message =>
          decide (message.messageId = messageId)) = false := by
        refine List.any_eq_false.mpr fun m hmem hid => hm ?_
        exact mem_ids_canonical.mp (List.mem_map.mpr ⟨m, hmem, of_decide_eq_true hid⟩)
      rw [if_neg hm, hany]
      rfl
  simp only [reduceChatState]
  split
  · exact hlive
  · exact hlive

lemma ids_snapshot {state : ChatState} (conversation : ConversationResource) (messages : List MessageResource) :
    messageId ∈ ids (reduceChatState locale state (.snapshotLoaded conversation messages)).messages ↔
      messageId ∈ ids messages := by
  rw [← @mem_ids_canonical locale messages]
  simp only [reduceChatState]
  split <;> exact Iff.rfl

structure Follows (locale : Collation) (arrivals : List Arrival) : Prop where
  shown : ∀ messageId, (shownAfter locale arrivals).shows messageId = true ↔
    messageId ∈ ids (lastSnapshot arrivals)
  recent : ∀ id ∈ (shownAfter locale arrivals).recentEventIds,
    id ∈ (arrivals.filterMap Arrival.event?).map PublicConversationEvent.eventId
  hidden : ∀ messageId ∈ ids (lastSnapshot arrivals), live (shownAfter locale arrivals) messageId = none

lemma follows (locale : Collation) (arrivals : List Arrival) : Follows locale arrivals := by
  induction arrivals using List.reverseRecOn with
  | nil => exact ⟨by simp [shownAfter, reduced, initialChatState, ChatState.shows, lastSnapshot, ids],
      by simp [shownAfter, reduced, initialChatState], fun _ _ => rfl⟩
  | append_singleton arrivals a ih =>
    refine ⟨fun messageId => ?_, fun id hid => ?_, fun messageId hm => ?_⟩
    · rw [shownAfter_append, lastSnapshot_append]
      cases a with
      | event event => exact (Bool.eq_iff_iff.mp (shows_received messageId)).trans (ih.shown messageId)
      | snapshot conversation messages => exact shows_iff.trans (ids_snapshot conversation messages)
    · rw [List.filterMap_append, List.map_append, List.mem_append]
      rw [shownAfter_append] at hid
      cases a with
      | event event =>
        rcases recentEventIds_subset hid with hid | rfl
        · exact Or.inl (ih.recent id hid)
        · exact Or.inr (by simp [Arrival.event?])
      | snapshot conversation messages =>
        refine Or.inl (ih.recent id ?_)
        rwa [Arrival.action, recentEventIds_of_quiet rfl rfl] at hid
    · rw [shownAfter_append]
      rw [lastSnapshot_append] at hm
      cases a with
      | event event => exact (live_received_shown ((ih.shown messageId).mpr hm)).trans (ih.hidden messageId hm)
      | snapshot conversation messages => exact (live_snapshot conversation messages).trans (if_pos hm)

lemma live_of_unshown (hd : ((arrivals.filterMap Arrival.event?).map PublicConversationEvent.eventId).Nodup)
    (h : ∀ earlier, earlier <+: arrivals → bodies messageId earlier ≠ [] →
      messageId ∉ ids (lastSnapshot earlier)) :
    live (shownAfter locale arrivals) messageId = if bodies messageId arrivals = [] then none
      else some ((bodies messageId arrivals).foldl updateLive (liveMessage messageId)) := by
  induction arrivals using List.reverseRecOn with
  | nil => rfl
  | append_singleton arrivals a ih =>
    rw [List.filterMap_append, List.map_append] at hd
    have hlive := ih hd.of_append_left fun earlier he => h earlier (he.trans (List.prefix_append _ _))
    have hlast := h (arrivals ++ [a]) (List.prefix_refl _)
    rw [bodies_append] at hlast ⊢
    rw [shownAfter_append]
    cases a with
    | snapshot conversation messages =>
      have hnil : ((Arrival.snapshot conversation messages).event?.bind (bodyAbout messageId)).toList = [] := rfl
      rw [hnil, List.append_nil] at hlast ⊢
      rw [Arrival.action, live_snapshot, hlive]
      split
      · rename_i hm
        rw [if_pos]
        by_contra hne
        rw [lastSnapshot_append] at hlast
        exact hlast hne hm
      · rfl
    | event event =>
      cases hb : bodyAbout messageId event with
      | none =>
        have hnil : ((Arrival.event event).event?.bind (bodyAbout messageId)).toList = [] := by
          simp [Arrival.event?, hb]
        rw [hnil, List.append_nil]
        exact (live_received_none hb).trans hlive
      | some body =>
        have hone : ((Arrival.event event).event?.bind (bodyAbout messageId)).toList = [body] := by
          simp [Arrival.event?, hb]
        rw [hone] at hlast ⊢
        have hf := follows locale arrivals
        have hnew : event.eventId ∉ (shownAfter locale arrivals).recentEventIds := by
          intro hmem
          refine (List.nodup_append.mp hd).2.2 _ (hf.recent _ hmem) event.eventId ?_ rfl
          simp [Arrival.event?]
        have hs : (shownAfter locale arrivals).shows messageId = false := by
          have hlist := hlast (List.append_ne_nil_of_right_ne_nil _ (List.cons_ne_nil _ _))
          rw [lastSnapshot_append] at hlist
          rw [← Bool.not_eq_true, hf.shown]
          exact hlist
        refine (live_received_some hb hnew hs).trans ?_
        rw [hlive, if_neg (List.append_ne_nil_of_right_ne_nil _ (List.cons_ne_nil _ _)), List.foldl_concat]
        split
        · rename_i hnil
          rw [hnil]
          rfl
        · rfl

lemma undecided_bodies (h : undecided messageId arrivals = true) :
    ∀ body ∈ bodies messageId arrivals, isCompleted body = false := by
  obtain ⟨hbodies, -⟩ := Bool.and_eq_true_iff.mp h
  intro body hbody
  simpa using List.all_eq_true.mp hbodies body hbody

lemma undecided_earlier {earlier : List Arrival} (he : earlier <+: arrivals)
    (h : undecided messageId arrivals = true) :
    undecided messageId earlier = true := by
  obtain ⟨later, rfl⟩ := he
  rw [undecided, bodies, List.filterMap_append, List.filterMap_append, List.all_append, List.all_append,
    Bool.and_eq_true, Bool.and_eq_true, Bool.and_eq_true] at h
  rw [undecided, Bool.and_eq_true]
  exact ⟨h.1.1, h.2.1⟩

/-- A message that is neither completed by an event nor shown as ended streams if and only if, once it has begun,
no snapshot that was loaded last has it. -/
theorem live_text_kept_iff (locale : Collation) (messageId : Id) (arrivals : List Arrival)
    (hd : ((arrivals.filterMap Arrival.event?).map PublicConversationEvent.eventId).Nodup) :
    (∀ earlier, earlier <+: arrivals → undecided messageId earlier = true → Streams locale messageId earlier) ↔
      ∀ earlier, earlier <+: arrivals → undecided messageId earlier = true → bodies messageId earlier ≠ [] →
        messageId ∉ ids (lastSnapshot earlier) := by
  constructor
  · intro h earlier he hu hb hm
    obtain ⟨l, hl, -⟩ := h earlier he hu hb
    rw [(follows locale earlier).hidden messageId hm] at hl
    cases hl
  · intro h earlier he hu hb
    have hd' : ((earlier.filterMap Arrival.event?).map PublicConversationEvent.eventId).Nodup := by
      refine hd.sublist (List.Sublist.map _ (List.Sublist.filterMap _ he.sublist))
    have hlive := @live_of_unshown locale _ messageId hd' fun first hf =>
      h first (hf.trans he) (undecided_earlier hf hu)
    refine ⟨_, hlive.trans (if_neg hb), ?_⟩
    rw [text_foldl _ (undecided_bodies hu)]
    simp [liveMessage]

def begins : List Arrival := [.snapshot shown [], .event messageStarted, .event messageDelta]

theorem streamed_text_kept : Streams plain.locale "m" begins := by
  refine (live_text_kept_iff plain.locale "m" begins (by decide)).mpr (fun earlier he _ _ hm => ?_) begins
    (List.prefix_refl _) (by decide)
  rw [← List.mem_inits] at he
  revert earlier
  decide

end Snapshots

section Executions

/-- What the deltas appended after the last `message.started`. -/
def sinceStarted (bodies : List EventBody) : List EventBody := bodies.rtakeWhile fun body => !isStarted body

def untilStarted (bodies : List EventBody) : List EventBody := bodies.rdropWhile fun body => !isStarted body

variable {locale : Collation} {state : ChatState} {messageId : Id}

lemma live_of_bodies {events : List PublicConversationEvent} (hf : Fresh state events)
    (hs : state.shows messageId = false) : live (received locale state events) messageId =
      (events.filterMap (bodyAbout messageId)).foldl
        (fun entry body => some (updateLive (entry.getD (liveMessage messageId)) body)) (live state messageId) := by
  induction events generalizing state with
  | nil => rfl
  | cons event events ih =>
    refine (ih hf.tail ((shows_received messageId).trans hs)).trans ?_
    cases hb : bodyAbout messageId event with
    | none => rw [live_received_none hb, List.filterMap_cons_none hb]
    | some body =>
      rw [live_received_some hb (hf.unknown event List.mem_cons_self) hs, List.filterMap_cons_some hb,
        List.foldl_cons]

lemma foldl_entries (l : LiveMessage) (bodies : List EventBody) :
    bodies.foldl (fun entry body => some (updateLive (entry.getD (liveMessage messageId)) body)) (some l) =
      some (bodies.foldl updateLive l) := by
  induction bodies generalizing l with
  | nil => rfl
  | cons body bodies ih => exact ih _

lemma append_eq_right {text text' : String} : text ++ text' = text' ↔ text = "" := by
  constructor
  · intro h
    have hlist := congrArg String.toList h
    rw [String.toList_append] at hlist
    exact String.toList_eq_nil_iff.mp (List.append_left_eq_self.mp hlist)
  · rintro rfl
    exact String.empty_append

/-- Before the message is completed, its live text is that of the deltas since it was last started if and only if
no delta came before. -/
theorem restarted_text_iff (locale : Collation) (state : ChatState) (messageId : Id)
    (events : List PublicConversationEvent) (hf : Fresh state events) (hs : state.shows messageId = false)
    (hl : live state messageId = none) (hb : events.filterMap (bodyAbout messageId) ≠ [])
    (hc : ∀ body ∈ events.filterMap (bodyAbout messageId), isCompleted body = false) :
    (live (received locale state events) messageId).map LiveMessage.text =
        some (deltas (sinceStarted (events.filterMap (bodyAbout messageId)))) ↔
      deltas (untilStarted (events.filterMap (bodyAbout messageId))) = "" := by
  have htext : (live (received locale state events) messageId).map LiveMessage.text =
      some (deltas (events.filterMap (bodyAbout messageId))) := by
    rw [live_of_bodies hf hs, hl]
    cases hbodies : events.filterMap (bodyAbout messageId) with
    | nil => exact absurd hbodies hb
    | cons body bodies =>
      rw [hbodies] at hc
      have hfold := @foldl_entries messageId (updateLive (liveMessage messageId) body) bodies
      rw [List.foldl_cons, Option.getD_none, hfold, Option.map_some]
      have hall := text_foldl (liveMessage messageId) hc
      rw [List.foldl_cons] at hall
      rw [hall]
      simp [liveMessage]
  have hsplit : deltas (events.filterMap (bodyAbout messageId)) =
      deltas (untilStarted (events.filterMap (bodyAbout messageId))) ++
        deltas (sinceStarted (events.filterMap (bodyAbout messageId))) := by
    rw [← deltas_append, untilStarted, sinceStarted, List.rdropWhile_append_rtakeWhile]
  rw [htext, hsplit, Option.some.injEq, append_eq_right]

end Executions

section Scenario

def writes (i : ℕ) (body : EventBody) (eventId : Id) : List Runs.Action :=
  Runs.yields i (some "answer") body :: Runs.handles i eventId

def answering : List Runs.Action := Runs.executing ++ writes 0 .messageStarted "first" ++
  writes 0 (.messageDelta "Hel") "second"

def listed (actions : List Runs.Action) : List MessageResource :=
  match ((MessageService.list Runs.plain Runs.visitor "conversation" ⟨none, 50⟩).run
    (Runs.reached actions).db).1 with
  | .ok page => page.data
  | .error _ => []

def published (actions : List Runs.Action) : List PublicConversationEvent :=
  (Runs.reached actions).appended.map PersistedEvent.toPublic

def answer : ConversationResource := ⟨"conversation", "tenant", "site", "visitor", "agent", .active, [], 0, 0⟩

def overtaken : List Arrival := .snapshot answer (listed Runs.executing) ::
  (published (answering.take 8)).map .event ++ [.snapshot answer (listed answering)] ++
    ((published answering).drop 1).map .event

def isListed (m : Database.Message) : Bool := MessageService.ofConversation Runs.visitor "conversation" m &&
  (none : Option ℕ).all fun cursor => decide (cursor < m.sequence)

lemma listed_eq {actions : List Runs.Action} {c : Database.Conversation} {rows : List Database.Message}
    (hc : (Database.conversations.matching (inConversation Runs.visitor "conversation")
      (Runs.reached actions).db).head? = some c)
    (hrows : Database.messages.matching isListed (Runs.reached actions).db = rows)
    (hs : rows.Pairwise fun a b => MessageService.sequenceFirst a b = true) (hl : rows.length ≤ 50) :
    listed actions = rows.map mapMessage := by
  have hfound : (requireConversation Runs.visitor "conversation").exec (Runs.reached actions).db
      (Runs.reached actions).db = (.ok c, (Runs.reached actions).db, (Runs.reached actions).db) := by
    refine (Relational.Program.exec_bind_ok (Relational.Relation.exec_selectFirst _ _ _ _)).trans ?_
    rw [hc]
    rfl
  have hrun : (MessageService.list Runs.plain Runs.visitor "conversation" ⟨none, 50⟩).run
    (Runs.reached actions).db =
      (.ok ⟨((rows.take 51).take 50).map mapMessage, paginate 50 (fun tail =>
        encodeMessageCursor Runs.plain tail.sequence) (rows.take 51)⟩, (Runs.reached actions).db) := by
    refine Relational.Program.run_of_exec (c := (Runs.reached actions).db) ?_
    refine (Relational.Program.exec_bind_ok hfound).trans ?_
    refine (Relational.Program.exec_bind_ok (Relational.Relation.exec_selectFrom _ _ _ _)).trans ?_
    change Relational.Program.exec (pure (Page.mk _ _)) _ _ = _
    change Database.messages.matching _ _ = rows at hrows
    unfold isListed at hrows
    rw [hrows, List.mergeSort_of_pairwise hs]
    rfl
  rw [listed, hrun]
  dsimp only
  rw [List.take_take, List.take_of_length_le (by omega)]

lemma listed_answering : (listed answering).map (fun m => (m.messageId, m.status)) =
    [("message", .completed), ("answer", .streaming)] := by
  cases hc : (Database.conversations.matching (inConversation Runs.visitor "conversation")
      (Runs.reached answering).db).head? with
  | none => exact absurd hc (by decide +kernel)
  | some c =>
    rw [listed_eq hc rfl (by decide +kernel) (by decide +kernel)]
    decide +kernel

lemma lastSnapshot_events (arrivals : List Arrival) (events : List PublicConversationEvent) :
    lastSnapshot (arrivals ++ events.map .event) = lastSnapshot arrivals := by
  induction events using List.reverseRecOn with
  | nil => rw [List.map_nil, List.append_nil]
  | append_singleton events event ih =>
    rw [List.map_append, ← List.append_assoc]
    exact (lastSnapshot_append (.event event)).trans ih

lemma undecided_overtaken : undecided "answer" overtaken = true := by
  have hfinal :
      ((listed answering).all fun m => !(decide (m.messageId = "answer") && isFinal m.status)) = true := by
    have hstatuses : ((listed answering).map fun m => (m.messageId, m.status)).all (fun m =>
        !(decide (m.1 = "answer") && isFinal m.2)) = true := by
      rw [listed_answering]
      decide
    rwa [List.all_map] at hstatuses
  rw [undecided, Bool.and_eq_true, overtaken, List.all_append, List.all_append, Bool.and_eq_true, Bool.and_eq_true]
  refine ⟨by decide +kernel, ⟨by decide +kernel, ?_⟩, by decide +kernel⟩
  rw [List.all_cons, List.all_nil, Bool.and_true]
  exact hfinal

theorem listed_message_loses_text : (listed answering).map (fun m => (m.messageId, m.status)) =
      [("message", .completed), ("answer", .streaming)] ∧
    deltas (bodies "answer" overtaken) = "Hel" ∧ live (shownAfter plain.locale overtaken) "answer" = none ∧
    ¬ ∀ earlier, earlier <+: overtaken → undecided "answer" earlier = true →
      Streams plain.locale "answer" earlier := by
  have hnone : live (shownAfter plain.locale overtaken) "answer" = none := by
    refine (follows plain.locale overtaken).hidden "answer" ?_
    rw [overtaken, lastSnapshot_events, lastSnapshot_append]
    have hids : ids (listed answering) = ["message", "answer"] := by
      have h := congrArg (List.map Prod.fst) listed_answering
      rwa [List.map_map] at h
    rw [hids]
    exact List.mem_cons_of_mem _ (List.mem_singleton_self _)
  refine ⟨listed_answering, by decide +kernel, hnone, fun h => ?_⟩
  obtain ⟨l, hl, -⟩ := h overtaken (List.prefix_refl _) undecided_overtaken (by decide +kernel)
  rw [hnone] at hl
  cases hl

def reclaimed (actions : List Runs.Action) : Runs.State := Runs.reached (actions ++
  [.signal 0 .crash, .claim 0 Runs.patience Runs.asStored 2000000 true])

def claimedAgain : Database.AgentRun where
  runId := "run"
  tenantId := "tenant"
  siteId := "site"
  conversationId := "conversation"
  triggerMessageId := "message"
  triggerType := .message
  assistantMessageId := "answer"
  agentRef := "agent"
  status := .running
  attempt := 2
  availableAt := 0
  claimedAt := some 2000000
  leaseExpiresAt := some 3000000
  cancelRequestedAt := none
  errorCode := none
  createdAt := 0
  updatedAt := 2000000
  completedAt := none

def answeredIn (events : ℕ) : Database.Conversation :=
  { Histories.conversing 2 with
    nextEventSequence := events + 1 }

def contextIn (events : ℕ) (s : Runs.State) : RunWorker.RunContext where
  request := Histories.requestOf claimedAgain (Histories.greeting "message" 1) (answeredIn events)
    ⟨"visitor", "tenant", "site", "", 0⟩ "user" [] s.db
  assistantParticipantId := "assistant"
  scope := Runs.visitor

def executedIn (phase : Runs.Phase) : Runs.Execution where
  process := 0
  options := Runs.patience
  now := 2000000
  run := claimedAgain
  aborted := false
  phase := phase

lemma step_load {s : Runs.State} {i : ℕ} {e : Runs.Execution} {draw : Runs.Draw} {context : RunWorker.RunContext}
    (he : s.executions[i]? = some e) (hp : e.phase = .loading)
    (h : (RunWorker.loadContext e.run draw.orders).run s.db = (.ok context, s.db)) :
    s.step Runs.lone (.work i draw) = s.put i (e.goto (.pulling context)) := by
  have hcall : e.call draw = some (.loadContext e.run draw.orders) := by rw [Runs.Execution.call, hp]
  have hrun : (body Runs.lone (.loadContext e.run draw.orders)).run s.db = (.ok (.context context), s.db) := by
    refine (Relational.Program.run_map _ _ _).trans ?_
    rw [h]
    rfl
  have hresume : e.resume Runs.lone.platform (.ok (.context context)) = e.goto (.pulling context) := by
    rw [Runs.Execution.resume]
    simp only [hp]
  simp only [Runs.State.step, he, hcall, Runs.State.work, hrun, Runs.State.appendedBy, List.append_nil, hresume]

structure Loads (events : ℕ) (s : Runs.State) : Prop where
  execution : s.executions[1]? = some (executedIn .loading)
  trigger : (Database.messages.matching (Histories.isTrigger claimedAgain) s.db).head? =
    some (Histories.greeting "message" 1)
  conversation : (Database.conversations.matching
    (fun c => RunWorker.ofConversation claimedAgain c.tenantId c.siteId
    c.conversationId) s.db).head? = some (answeredIn events)
  principal : (Database.principals.matching
    (fun p => decide (p.tenantId = "tenant") && decide (p.siteId = "site") &&
    decide (p.principalId = "visitor")) s.db).head? = some ⟨"visitor", "tenant", "site", "", 0⟩
  user : Histories.participantOf claimedAgain ⟨Runs.asStored, Runs.asStored⟩ s.db .user = some "user"
  agent : Histories.participantOf claimedAgain ⟨Runs.asStored, Runs.asStored⟩ s.db .agent = some "assistant"
  inputs : Database.structuredInputRequests.matching (RunWorker.isResolved claimedAgain) s.db = []
  ordered : (Histories.transcript claimedAgain s.db).Pairwise fun a b => a.sequence < b.sequence
  triggered : ((Histories.transcript claimedAgain s.db).drop
    ((Histories.transcript claimedAgain s.db).length - 1000)).any
    (fun m => decide (m.messageId = "message")) = true

lemma step_loads {events : ℕ} {s : Runs.State} (h : Loads events s) :
    s.step Runs.lone (Runs.next 1 "") = s.put 1 (executedIn (.pulling (contextIn events s))) := by
  refine step_load h.execution rfl
    (Histories.run_loadContext h.trigger h.conversation h.principal h.user h.agent ?_ ?_)
  · change List.mapM RunWorker.resolvedInput
      (Relational.Arrangement.sorted _ _ (Database.structuredInputRequests.matching
      (RunWorker.isResolved claimedAgain) s.db)) = _
    rw [h.inputs, Relational.Arrangement.sorted]
    exact congrArg _ List.mergeSort_nil
  · have hhistory := Histories.historyOf_of_pairwise h.ordered
    rw [RunWorker.validateConnectorRunRequestContext, Bool.and_eq_true, Bool.and_eq_true]
    change (_ ∧ (Histories.historyOf claimedAgain s.db).any _ = true) ∧
      (Histories.historyOf claimedAgain s.db).all _ = true
    rw [hhistory, List.any_map, List.all_map]
    refine ⟨⟨rfl, h.triggered⟩, List.all_eq_true.mpr fun m hm => ?_⟩
    have hof := (List.mem_filter.mp (List.mem_of_mem_drop hm)).2
    exact (Bool.and_eq_true_iff.mp hof).2

def reclaiming (actions : List Runs.Action) : List Runs.Action := actions ++ [.signal 0 .crash,
  .claim 0 Runs.patience Runs.asStored 2000000 true] ++ Runs.next 1 "" ::
    (writes 1 .messageStarted "third" ++ writes 1 (.messageDelta "Hello") "fourth")

lemma published_reclaiming {events : ℕ} {actions : List Runs.Action} (h : Loads events (reclaimed actions)) :
    published (reclaiming actions) = (Transition.exec (Runs.State.step Runs.lone)
      ((reclaimed actions).put 1 (executedIn (.pulling (contextIn events (reclaimed actions)))))
        (writes 1 .messageStarted "third" ++ writes 1 (.messageDelta "Hello") "fourth")).appended.map
          PersistedEvent.toPublic := by
  rw [published, reclaiming, Runs.reached, Runs.reach, Transition.exec_append]
  change List.map _ (Transition.exec _ (reclaimed actions) (Runs.next 1 "" :: _)).appended = _
  rw [Transition.exec_cons, step_loads h]

def ofAnswer (eventId : Id) (sequence : ℕ) (body : EventBody) : PublicConversationEvent :=
  ⟨eventId, sequence, 0, "conversation", some "run", some "answer", .event body⟩

lemma published_retried : published (reclaiming answering) = [ofAnswer "first" 1 .messageStarted,
    ofAnswer "second" 2 (.messageDelta "Hel"), ofAnswer "third" 3 .messageStarted,
    ofAnswer "fourth" 4 (.messageDelta "Hello")] := by
  rw [@published_reclaiming 2 _ (by constructor <;> decide +kernel)]
  decide +kernel

theorem retried_text_repeated :
    deltas (sinceStarted ((published (reclaiming answering)).filterMap (bodyAbout "answer"))) = "Hello" ∧
    (live (received plain.locale initialChatState (published (reclaiming answering))) "answer").map
      LiveMessage.text =
      some "HelHello" := by
  rw [published_retried]
  decide +kernel

def begun : List Runs.Action := Runs.executing ++ writes 0 .messageStarted "first"

lemma published_restarted : published (reclaiming begun) = [ofAnswer "first" 1 .messageStarted,
    ofAnswer "third" 2 .messageStarted, ofAnswer "fourth" 3 (.messageDelta "Hello")] := by
  rw [@published_reclaiming 1 _ (by constructor <;> decide +kernel)]
  decide +kernel

theorem restarted_text_once :
    (live (received plain.locale initialChatState (published (reclaiming begun))) "answer").map LiveMessage.text =
      some (deltas (sinceStarted ((published (reclaiming begun)).filterMap (bodyAbout "answer")))) := by
  refine (restarted_text_iff plain.locale initialChatState "answer" (published (reclaiming begun)) ?_ rfl
    rfl ?_ ?_).mpr ?_
  · rw [published_restarted]
    exact ⟨by decide, fun _ _ => List.not_mem_nil⟩
  all_goals rw [published_restarted]
  all_goals decide +kernel

end Scenario

end ChatCore.Client.LiveText
