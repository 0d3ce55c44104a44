import ChatCore.Client.ChatClient
import ChatCore.Cooperative.Owners
import ChatCore.Transition.Steps
import Mathlib.Data.String.Basic

namespace ChatCore.Client.Streams

open Cooperative ChatClient Protocol Services ConversationService
open Program hiding pure

variable {options : ChatClientOptions}

def streamOf : Job → Option ℕ
  | .stream stream _ _ | .events stream => some stream
  | .getConversation .. | .listMessages .. | .externalUpdate => none

def announces : ChatStateAction → Bool
  | .phaseChanged phase => decide (phase = .bootstrapping) || decide (phase = .reconnecting)
  | _ => true

structure Coherent (c : ChatClient options) (live : List ℕ) : Prop where
  phases : ∀ a ∈ c.screen.actions, announces a = true
  latest : ∀ n, c.controllers[n]? = some false → c.streamAbort = some n
  numbered : ∀ t ∈ c.timers, t.1 < c.timersSet
  distinct : (c.timers.map Prod.fst).Nodup
  reconnect : ∀ t ∈ c.timers, t.2 = .reconnect → c.reconnectTimer = some t.1
  streams : live.Nodup
  opened : ∀ n ∈ live, n < c.controllers.length
  waiting : (∃ t ∈ c.timers, t.2 = .reconnect) → ∀ n ∈ live, c.controllers[n]? = some true

lemma Coherent.of_subperm {c : ChatClient options} {live live' : List ℕ} (hl : live.Subperm live')
    (h : Coherent c live') : Coherent c live where
  phases := h.phases
  latest := h.latest
  numbered := h.numbered
  distinct := h.distinct
  reconnect := h.reconnect
  streams := by
    obtain ⟨l, hperm, hsub⟩ := hl
    exact hperm.nodup_iff.mp (h.streams.sublist hsub)
  opened n hn := h.opened n (hl.subset hn)
  waiting ht n hn := h.waiting ht n (hl.subset hn)

section Updates

variable {c c' : ChatClient options} {live : List ℕ}

def vitals (c : ChatClient options) :=
  (c.screen, c.controllers, c.streamAbort, c.timers, c.timersSet, c.reconnectTimer)

lemma Coherent.quiet (h : Coherent c live) (heq : vitals c' = vitals c) : Coherent c' live := by
  simp only [vitals, Prod.mk.injEq] at heq
  obtain ⟨hscreen, hcontrollers, habort, htimers, hset, hreconnect⟩ := heq
  refine ⟨?_, ?_, ?_, ?_, ?_, h.streams, ?_, ?_⟩
  · rw [hscreen]; exact h.phases
  · rw [hcontrollers, habort]; exact h.latest
  · rw [htimers, hset]; exact h.numbered
  · rw [htimers]; exact h.distinct
  · rw [htimers, hreconnect]; exact h.reconnect
  · rw [hcontrollers]; exact h.opened
  · rw [htimers, hcontrollers]; exact h.waiting

lemma Coherent.dispatch (h : Coherent c live) {a : ChatStateAction} (ha : announces a = true) :
    Coherent { c with screen := c.screen.dispatch a } live where
  phases b hb := by
    rcases List.mem_append.mp hb with hb | hb
    · exact h.phases b hb
    · rw [List.mem_singleton.mp hb]
      exact ha
  latest := h.latest
  numbered := h.numbered
  distinct := h.distinct
  reconnect := h.reconnect
  streams := h.streams
  opened := h.opened
  waiting := h.waiting

lemma aborted_all (h : ∀ n, c.controllers[n]? = some false → c.streamAbort = some n) (n : ℕ) :
    c.abort.controllers[n]? ≠ some false := by
  intro hn
  cases hs : c.streamAbort with
  | none =>
    rw [ChatClient.abort, hs] at hn
    exact absurd (h n hn) (by rw [hs]; exact fun h => nomatch h)
  | some stream =>
    rw [ChatClient.abort, hs] at hn
    dsimp only at hn
    rw [List.getElem?_set] at hn
    split at hn
    · split at hn <;> cases hn
    · rename_i hne
      rw [h n hn, Option.some.injEq] at hs
      exact hne hs.symm

lemma length_abort (c : ChatClient options) : c.abort.controllers.length = c.controllers.length := by
  rw [ChatClient.abort]
  split
  · exact List.length_set
  · rfl

lemma timers_abort (c : ChatClient options) : c.abort.timers = c.timers ∧ c.abort.timersSet = c.timersSet ∧
    c.abort.screen = c.screen ∧ c.abort.reconnectTimer = c.reconnectTimer := by
  rw [ChatClient.abort]
  split <;> exact ⟨rfl, rfl, rfl, rfl⟩

lemma abort_getElem (h : ∀ n, c.controllers[n]? = some false → c.streamAbort = some n) {n : ℕ}
    (hn : n < c.controllers.length) : c.abort.controllers[n]? = some true := by
  rw [← length_abort c] at hn
  cases hb : c.abort.controllers[n]? with
  | none => exact absurd (List.getElem?_eq_none_iff.mp hb) (Nat.not_le.mpr hn)
  | some b =>
    cases b with
    | false => exact absurd hb (aborted_all h n)
    | true => rfl

lemma Coherent.abort (h : Coherent c live) : Coherent c.abort live := by
  obtain ⟨htimers, hset, hscreen, hreconnect⟩ := timers_abort c
  refine ⟨?_, fun n hn => absurd hn (aborted_all h.latest n), ?_, ?_, ?_, h.streams, fun n hn =>
    ?_, fun _ n hn => ?_⟩
  · rw [hscreen]
    exact h.phases
  · rw [htimers, hset]
    exact h.numbered
  · rw [htimers]
    exact h.distinct
  · rw [htimers, hreconnect]
    exact h.reconnect
  · rw [length_abort]
    exact h.opened n hn
  · exact abort_getElem h.latest (h.opened n hn)

lemma Coherent.clearTimer (h : Coherent c live) (timer : Option ℕ) : Coherent (c.clearTimer timer) live where
  phases := h.phases
  latest := h.latest
  numbered t ht := h.numbered t (List.mem_of_mem_filter ht)
  distinct := h.distinct.sublist (List.filter_sublist.map _)
  reconnect t ht := h.reconnect t (List.mem_of_mem_filter ht)
  streams := h.streams
  opened := h.opened
  waiting := fun ⟨t, ht, hr⟩ => h.waiting ⟨t, List.mem_of_mem_filter ht, hr⟩

lemma distinct_setTimer (h : Coherent c live) (timer : Timer) :
    ((c.timers ++ [(c.timersSet, timer)]).map Prod.fst).Nodup := by
  rw [List.map_append, List.nodup_append]
  refine ⟨h.distinct, List.nodup_singleton _, fun n hn m hm => ?_⟩
  obtain ⟨t, ht, rfl⟩ := List.mem_map.mp hn
  rw [List.mem_singleton.mp hm]
  exact Nat.ne_of_lt (h.numbered t ht)

lemma numbered_setTimer (h : Coherent c live) (timer : Timer) :
    ∀ t ∈ c.timers ++ [(c.timersSet, timer)], t.1 < c.timersSet + 1 := by
  intro t ht
  rcases List.mem_append.mp ht with ht | ht
  · exact Nat.lt_succ_of_lt (h.numbered t ht)
  · rw [List.mem_singleton.mp ht]
    exact Nat.lt_succ_self _

lemma Coherent.renewal (h : Coherent c live) : Coherent (c.setTimer .renewal) live := by
  have hold : ∀ t ∈ c.timers ++ [(c.timersSet, Timer.renewal)], t.2 = .reconnect → t ∈ c.timers := by
    intro t ht hr
    rcases List.mem_append.mp ht with ht | ht
    · exact ht
    · rw [List.mem_singleton.mp ht] at hr
      cases hr
  exact ⟨h.phases, h.latest, numbered_setTimer h _, distinct_setTimer h _, fun t ht hr =>
    h.reconnect t (hold t ht hr) hr,
    h.streams, h.opened, fun ⟨t, ht, hr⟩ => h.waiting ⟨t, hold t ht hr, hr⟩⟩

lemma aborted_eq_false {n : ℕ} (hn : n < c.controllers.length) (ha : c.aborted n = false) :
    c.controllers[n]? = some false := by
  rw [ChatClient.aborted, List.getD_eq_getElem?_getD, List.getElem?_eq_getElem hn, Option.getD_some] at ha
  rw [List.getElem?_eq_getElem hn, ha]

lemma Coherent.reconnecting {n : ℕ} (h : Coherent c (n :: live)) (ha : c.aborted n = false) :
    Coherent { c.setTimer .reconnect with
      reconnectTimer := some c.timersSet
      reconnectAttempt := c.reconnectAttempt + 1 } live := by
  have hfalse := aborted_eq_false (h.opened n List.mem_cons_self) ha
  have hnone : ∀ t ∈ c.timers, t.2 ≠ .reconnect := by
    intro t ht hr
    have htrue := h.waiting ⟨t, ht, hr⟩ n List.mem_cons_self
    rw [hfalse] at htrue
    cases htrue
  obtain ⟨hnew, hlive⟩ := List.nodup_cons.mp h.streams
  refine ⟨h.phases, h.latest, numbered_setTimer h _, distinct_setTimer h _, fun t ht hr => ?_, hlive,
    fun m hm => h.opened m (List.mem_cons_of_mem _ hm), fun _ m hm => ?_⟩
  · rcases List.mem_append.mp ht with ht | ht
    · exact absurd hr (hnone t ht)
    · rw [List.mem_singleton.mp ht]
  · change c.controllers[m]? = some true
    have hlt := h.opened m (List.mem_cons_of_mem _ hm)
    cases hb : c.controllers[m]? with
    | none => exact absurd (List.getElem?_eq_none_iff.mp hb) (Nat.not_le.mpr hlt)
    | some b =>
      cases b with
      | true => rfl
      | false =>
        have hsame := (h.latest m hb).symm.trans (h.latest n hfalse)
        rw [Option.some.inj hsame] at hm
        exact absurd hm hnew

lemma Coherent.opening (h : Coherent c live) :
    Coherent { c.abort.clearTimer c.reconnectTimer with
      controllers := c.abort.controllers ++ [false]
      streamAbort := some c.controllers.length } (c.controllers.length :: live) := by
  have habort := h.abort
  obtain ⟨htimers, hset, hscreen, hreconnect⟩ := timers_abort c
  have hnone : ∀ t ∈ (c.abort.clearTimer c.reconnectTimer).timers, t.2 ≠ .reconnect := by
    intro t ht hr
    obtain ⟨hm, hne⟩ := List.mem_filter.mp ht
    rw [← hreconnect, habort.reconnect t hm hr] at hne
    exact absurd rfl (of_decide_eq_true hne)
  have hcleared := habort.clearTimer c.reconnectTimer
  refine ⟨hcleared.phases, fun n hn => ?_, hcleared.numbered, hcleared.distinct, fun t ht hr =>
    absurd hr (hnone t ht), ?_,
    fun n hn => ?_, fun ⟨t, ht, hr⟩ => absurd hr (hnone t ht)⟩
  · change (c.abort.controllers ++ [false])[n]? = some false at hn
    change some c.controllers.length = some n
    rcases Nat.lt_trichotomy n c.abort.controllers.length with hlt | rfl | hlt
    · rw [List.getElem?_append_left hlt] at hn
      exact absurd hn (aborted_all h.latest n)
    · rw [length_abort]
    · rw [List.getElem?_eq_none (by rw [List.length_append]; exact hlt)] at hn
      cases hn
  · refine List.nodup_cons.mpr ⟨fun hm => ?_, h.streams⟩
    exact absurd (h.opened _ hm) (Nat.lt_irrefl _)
  · change n < (c.abort.controllers ++ [false]).length
    rw [List.length_append, length_abort, List.length_singleton]
    rcases List.mem_cons.mp hn with rfl | hn
    · exact Nat.lt_succ_self _
    · exact Nat.lt_succ_of_lt (h.opened n hn)

end Updates

section Routines

variable {α : Type} {own : Option ℕ}

abbrev Kept (own : Option ℕ) (p : Routine options α) : Prop := Keeps streamOf Coherent own p

lemma kept_quiet {f : ChatClient options → ChatClient options} (h : ∀ c, vitals (f c) = vitals c) :
    Kept own (modifyClient f) := keeps_modify fun c _ hc => hc.quiet (h c)

lemma kept_dispatch {a : ChatStateAction} (h : announces a = true) :
    Kept own (dispatch a : Routine options Unit) := keeps_modify fun _ _ hc => hc.dispatch h

lemma kept_abort : Kept own (modifyClient ChatClient.abort : Routine options Unit) :=
  keeps_modify fun _ _ hc => hc.abort

lemma kept_perform (request : Request) : Kept own (perform request : Routine options _) := keeps_call request

lemma kept_settle {p : Routine options α} (h : Kept own p) : Kept own (settle p) := h.settle .turn

lemma kept_createId : Kept own (createId : Routine options Id) :=
  keeps_of_get fun _ => (kept_quiet (by intro c; rfl)).bind fun _ => keeps_pure _

lemma kept_raiseError (error : ChatError) : Kept own (raiseError error : Routine options Unit) := kept_dispatch rfl

lemma kept_requireStarted : Kept own (requireStarted : Routine options Unit) := by
  refine keeps_of_get fun c => ?_
  split
  · exact keeps_throw _
  · exact keeps_pure _

lemma kept_requireConversation : Kept own (requireConversation : Routine options _) := by
  refine kept_requireStarted.bind fun _ => keeps_of_get fun c => ?_
  split
  · exact keeps_pure _
  · exact keeps_throw _

lemma kept_persist : Kept own (persist : Routine options Unit) :=
  (kept_quiet (by intro c; rfl)).bind fun _ => keeps_of_get fun _ =>
    (kept_perform _).andFinally (kept_quiet (by intro c; rfl))

lemma kept_sessionLoaded (session : PublicSession) : Kept own (do
    dispatch (.sessionLoaded session)
    settle persist
    scheduleRenewal : Routine options Unit) := by
  refine (kept_dispatch rfl).bind fun _ => (kept_settle kept_persist).bind fun _ =>
    keeps_modify fun c live hc => ?_
  exact (hc.clearTimer c.renewalTimer).renewal.quiet rfl

lemma kept_bootstrapSession (idempotencyKey : Id) :
    Kept own (bootstrapSession idempotencyKey : Routine options Unit) := by
  refine keeps_of_get fun c => (kept_perform _).bind fun response => ?_
  dsimp only
  split
  · exact (kept_quiet (by intro c; rfl)).bind fun _ => kept_sessionLoaded _
  · exact kept_sessionLoaded _

lemma kept_renewSession : Kept own (renewSession : Routine options Unit) := by
  refine keeps_of_get fun c => ?_
  split
  · exact kept_perform .renewal
  · split
    · exact keeps_throw _
    · refine (kept_quiet (by intro c; rfl)).bind fun _ => kept_createId.bind fun idempotencyKey => ?_
      exact (kept_settle (kept_bootstrapSession idempotencyKey)).andFinally (kept_quiet (by intro c; rfl))

lemma kept_ensureFreshSession : Kept own (ensureFreshSession : Routine options Unit) := by
  refine keeps_of_get fun c => ?_
  split
  · exact keeps_pure _
  · split
    · exact keeps_pure _
    · exact kept_settle kept_renewSession

lemma kept_reauthenticate {command : Routine options α} (h : Kept own command) (error : ChatError) :
    Kept own (reauthenticate command error) := by
  unfold reauthenticate
  split
  · exact keeps_throw _
  · exact (kept_settle kept_renewSession).bind fun _ => h

lemma kept_runAuthenticated {command : Routine options α} (h : Kept own command) :
    Kept own (runAuthenticated command) :=
  (kept_settle kept_ensureFreshSession).bind fun _ => h.tryCatch (kept_reauthenticate h)

lemma kept_runCommand {command : Routine options α} (h : Kept own command) : Kept own (runCommand command) :=
  (kept_settle (kept_runAuthenticated h)).tryCatch fun error => (kept_raiseError error).bind fun _ => keeps_throw _

lemma kept_openStream : Kept own (openStream : Routine options Unit) := by
  refine keeps_get fun c live hc => ?_
  split
  · exact keeps_pure () c live hc
  · split
    · exact keeps_pure () c live hc
    · refine ⟨own, Or.inl rfl, rfl, hc.opening.of_subperm ?_⟩
      exact (List.perm_append_comm_assoc ..).subperm

lemma kept_loading (load : ℕ) (request : Request) (conversationId : Id) (succeeds : request.Reply → Load → Load) :
    Kept own (loading load request conversationId succeeds : Routine options Unit) :=
  Keeps.tryCatch
    ((kept_runAuthenticated (kept_perform request)).bind fun _ => kept_quiet (by intro c; rfl)) fun _ =>
    kept_quiet (by intro c; rfl)

lemma kept_getConversationAndMessages (conversationId : Id) :
    Kept own (getConversationAndMessages conversationId : Routine options _) :=
  keeps_of_get fun _ => (kept_quiet (by intro c; rfl)).bind fun _ => (keeps_fork rfl).bind fun _ =>
    (keeps_fork rfl).bind fun _ => kept_perform _

lemma kept_snapshotLoaded (conversationId : Id) (conversation : Services.ConversationService.ConversationResource)
    (messages : List Services.MessageResource) : Kept own (do
      modifyClient fun c => { c with persisted := { c.persisted with conversationId := some conversationId } }
      dispatch (.snapshotLoaded conversation messages)
      settle persist
      openStream : Routine options Unit) :=
  (kept_quiet (by intro c; rfl)).bind fun _ => (kept_dispatch rfl).bind fun _ =>
    (kept_settle kept_persist).bind fun _ =>
    kept_openStream

lemma kept_loadConversation (conversationId : Id) :
    Kept own (loadConversation conversationId : Routine options Unit) := by
  refine (kept_getConversationAndMessages conversationId).bind fun reply => keeps_of_get fun c => ?_
  split
  · exact (kept_dispatch rfl).bind fun _ => kept_snapshotLoaded conversationId reply.1 reply.2
  · exact kept_snapshotLoaded conversationId reply.1 reply.2

lemma kept_reload : Kept own (reload : Routine options Unit) := by
  refine keeps_of_get fun c => ?_
  split
  · exact kept_settle (kept_loadConversation _)
  · exact keeps_pure _

lemma kept_synchronize : Kept own (synchronize : Routine options Unit) := by
  refine keeps_of_get fun c => ?_
  split
  · exact keeps_pure _
  · exact (kept_getConversationAndMessages _).bind fun reply => kept_dispatch rfl

lemma kept_handleEvent (event : Services.EventStore.PublicConversationEvent) :
    Kept own (handleEvent event : Routine options Unit) := by
  unfold handleEvent
  split
  · refine (kept_quiet (by intro c; rfl)).bind fun _ => (kept_dispatch rfl).bind fun _ => ?_
    refine (kept_dispatch rfl).bind fun _ => (kept_settle kept_synchronize).bind fun _ => ?_
    exact (kept_settle kept_persist).bind fun _ => kept_abort.bind fun _ => kept_openStream
  · refine (kept_dispatch rfl).bind fun _ => (kept_quiet (by intro c; rfl)).bind fun _ => ?_
    split
    · exact (kept_settle kept_synchronize).bind fun _ => (kept_settle kept_persist).bind fun _ =>
        kept_quiet (by intro c; rfl)
    · exact (kept_settle kept_persist).bind fun _ => kept_quiet (by intro c; rfl)

lemma kept_applyExternalState (next : PersistedChatState) :
    Kept own (applyExternalState next : Routine options Unit) := by
  refine keeps_of_get fun c => (kept_quiet (by intro c; rfl)).bind fun _ => ?_
  split
  · exact keeps_pure _
  · split
    · split
      · exact kept_settle (kept_loadConversation _)
      · exact kept_abort.bind fun _ => kept_dispatch rfl
    · split
      · refine (kept_settle kept_synchronize).bind fun _ => ?_
        split
        · exact keeps_of_get fun c => kept_dispatch rfl
        · exact keeps_pure _
      · exact keeps_pure _

lemma kept_applyExternalUpdate : Kept own (applyExternalUpdate : Routine options Unit) := by
  refine (keeps_pause Request.turn).bind fun _ => keeps_of_get fun c => ?_
  split
  · exact kept_quiet (by intro c; rfl)
  · refine (kept_quiet (by intro c; rfl)).bind fun _ => Keeps.bind ?_ fun _ => keeps_fork rfl
    exact (kept_settle (kept_applyExternalState _)).tryCatch fun error => kept_raiseError error

lemma kept_starting (persisted : Option PersistedChatState) :
    Kept own (starting persisted : Routine options Unit) := by
  have hrest : Kept own (do
      settle persist
      reload : Routine options Unit) := (kept_settle kept_persist).bind fun _ => kept_reload
  refine (kept_quiet (by intro c; rfl)).bind fun _ => kept_createId.bind fun key => ?_
  refine (kept_settle (kept_bootstrapSession key)).bind fun _ => keeps_of_get fun c => ?_
  dsimp only
  split
  · exact (kept_dispatch rfl).bind fun _ => hrest
  · exact hrest

lemma kept_start : Kept own (start : Routine options Unit) := by
  refine keeps_of_get fun c => ?_
  split
  · exact keeps_pure _
  · refine (kept_quiet (by intro c; rfl)).bind fun _ => (kept_dispatch rfl).bind fun _ => ?_
    refine Keeps.tryCatch ?_ fun error => (kept_raiseError error).bind fun _ => keeps_throw _
    exact (kept_perform .load).bind kept_starting

lemma kept_created (conversation : Services.ConversationService.ConversationResource) : Kept own (do
    modifyClient fun c => { c with
      persisted := { c.persisted.withoutCursor with conversationId := some conversation.conversationId } }
    dispatch .cursorCleared
    dispatch (.snapshotLoaded conversation [])
    settle persist
    openStream
    return conversation : Routine options _) :=
  (kept_quiet (by intro c; rfl)).bind fun _ => (kept_dispatch rfl).bind fun _ => (kept_dispatch rfl).bind fun _ =>
    (kept_settle kept_persist).bind fun _ => kept_openStream.bind fun _ => keeps_pure _

lemma kept_createConversation : Kept own (createConversation : Routine options _) := by
  refine kept_requireStarted.bind fun _ => kept_createId.bind fun key => ?_
  refine (kept_settle (kept_runCommand (kept_perform _))).bind fun conversation => keeps_of_get fun c => ?_
  split
  · exact (kept_dispatch rfl).bind fun _ => kept_created conversation
  · exact kept_created conversation

lemma kept_selectConversation (conversationId : Id) :
    Kept own (selectConversation conversationId : Routine options Unit) := by
  refine kept_requireStarted.bind fun _ => keeps_of_get fun c => ?_
  split
  · exact (kept_quiet (by intro c; rfl)).bind fun _ => (kept_dispatch rfl).bind fun _ =>
      kept_settle (kept_loadConversation conversationId)
  · exact kept_settle (kept_loadConversation conversationId)

lemma kept_sendMessage (parts : List String) : Kept own (sendMessage parts : Routine options _) :=
  kept_requireConversation.bind fun _ => kept_createId.bind fun _ =>
    (kept_settle (kept_runCommand (kept_perform _))).bind fun _ =>
    (kept_dispatch rfl).bind fun _ => kept_openStream.bind fun _ => keeps_pure _

lemma kept_createEmailHandoff (email : String) : Kept own (createEmailHandoff email : Routine options _) :=
  kept_requireConversation.bind fun _ => kept_createId.bind fun _ =>
    (kept_settle (kept_runCommand (kept_perform _))).bind fun _ =>
    kept_openStream.bind fun _ => keeps_pure _

lemma kept_cancel : Kept own (cancel : Routine options _) :=
  kept_requireConversation.bind fun _ => kept_createId.bind fun _ =>
    (kept_settle (kept_runCommand (kept_perform _))).bind fun _ =>
    (kept_dispatch rfl).bind fun _ => keeps_pure _

lemma kept_submitted (conversationId requestId : Id) (value : Option String) : Kept own (do
    let idempotencyKey ← createId
    let result : Services.StructuredInputService.InputResource ←
      settle (runCommand (perform (.submitStructuredInput conversationId requestId value idempotencyKey)))
    dispatch (.structuredInputSubmitted requestId)
    openStream
    return result : Routine options _) :=
  kept_createId.bind fun _ => (kept_settle (kept_runCommand (kept_perform _))).bind fun _ =>
    (kept_dispatch rfl).bind fun _ => kept_openStream.bind fun _ => keeps_pure _

lemma kept_submitStructuredInput (requestId : Id) (value : Option String) :
    Kept own (submitStructuredInput requestId value : Routine options _) := by
  refine kept_requireConversation.bind fun _ => keeps_of_get fun c => ?_
  split
  · exact (keeps_throw _).bind fun _ => kept_submitted _ requestId value
  · exact kept_submitted _ requestId value

lemma kept_retryRun : Kept own (retryRun : Routine options Unit) :=
  kept_requireConversation.bind fun _ => kept_createId.bind fun _ =>
    (kept_settle (kept_runCommand (kept_perform _))).bind fun _ =>
    (kept_dispatch rfl).bind fun _ => kept_openStream

lemma kept_retry : Kept own (retry : Routine options Unit) := by
  have hrest : Kept own (do
      modifyClient ChatClient.abort
      dispatch (.phaseChanged .bootstrapping)
      settle (runCommand (settle renewSession))
      reload : Routine options Unit) :=
    kept_abort.bind fun _ => (kept_dispatch rfl).bind fun _ =>
      (kept_settle (kept_runCommand (kept_settle kept_renewSession))).bind fun _ => kept_reload
  refine keeps_of_get fun c => ?_
  split
  · exact (keeps_throw _).bind fun _ => hrest
  · exact hrest

lemma kept_recoverActiveSession : Kept own (recoverActiveSession : Routine options Unit) := by
  refine (kept_settle kept_ensureFreshSession).bind fun _ => keeps_of_get fun c => ?_
  split
  · exact kept_openStream
  · exact keeps_pure _

lemma kept_destroy : Kept own (destroy : Routine options Unit) := keeps_modify fun c _ hc =>
  ((hc.abort.clearTimer c.reconnectTimer).clearTimer c.renewalTimer).quiet rfl

lemma kept_reaction (stimulus : Stimulus) : Kept own (reaction stimulus : Routine options Unit) := by
  cases stimulus with
  | start => exact kept_start
  | createConversation => exact kept_createConversation.discard
  | selectConversation conversationId => exact kept_selectConversation conversationId
  | sendMessage parts => exact (kept_sendMessage parts).discard
  | createEmailHandoff email => exact (kept_createEmailHandoff email).discard
  | cancel => exact kept_cancel.discard
  | submitStructuredInput requestId value => exact (kept_submitStructuredInput requestId value).discard
  | retryRun => exact kept_retryRun
  | retry => exact kept_retry
  | destroy => exact kept_destroy
  | stored next =>
    refine keeps_of_get fun c => ?_
    split
    · exact keeps_pure _
    · split
      · exact keeps_pure _
      · refine (kept_quiet (by intro c; rfl)).bind fun _ => ?_
        split
        · exact keeps_fork rfl
        · exact keeps_pure _
  | recovered =>
    refine keeps_of_get fun c => ?_
    split
    · exact (kept_settle kept_recoverActiveSession).tryCatch fun error => kept_raiseError error
    · exact keeps_pure _
  | due timer =>
    refine keeps_of_get fun c => ?_
    split
    · exact keeps_pure _
    · refine (keeps_modify fun c _ hc => hc.clearTimer (some timer)).bind fun _ => ?_
      split
      · exact kept_openStream
      · exact (kept_settle kept_renewSession).tryCatch fun error => kept_raiseError error
  | clock now => exact kept_quiet (by intro c; rfl)

end Routines

section Tasks

variable {stream : ℕ}

lemma Keeps.completes {α : Type} {own : Option ℕ} {p : Routine options α} (h : Kept own p) {c : ChatClient options}
    {live : List ℕ} (hc : Coherent c (own.toList ++ live)) : Completes streamOf Coherent own p c own live := by
  have hweaken : ∀ (c : ChatClient options) live, Coherent c (own.toList ++ live) → Coherent c live :=
    fun c live hc =>
    hc.of_subperm (List.sublist_append_right _ _).subperm
  exact h.meets hc (fun _ c live => hweaken c live) (fun _ c live => hweaken c live)

lemma meets_ended {E : ChatError → ChatClient options → Option ℕ → List ℕ → Prop} {c : ChatClient options}
    {live : List ℕ} (cause : Option ChatError) (hc : Coherent c (stream :: live)) :
    Meets streamOf Coherent (some stream) (fun _ c _ live => Coherent c live) E (ended stream cause)
      c (some stream)
      live := by
  refine ⟨rfl, hc, fun r c live hc => ?_⟩
  have hlive : Coherent c live := hc.of_subperm (List.sublist_cons_self _ _).subperm
  change Meets _ _ _ _ _ (if _ then _ else _) _ _ _
  split
  · rename_i ha
    have hfalse : c.aborted stream = false := by simpa using ha
    change Meets _ _ _ _ _ (if _ then _ else _) _ _ _
    split
    · exact hlive
    · cases cause with
      | none => exact (hc.dispatch (a := .phaseChanged .reconnecting) rfl).reconnecting hfalse
      | some error =>
        exact (hc.dispatch (a := .connectionFailed (toClientError error true)) rfl).reconnecting hfalse
  · exact hlive

lemma meets_failed {E : ChatError → ChatClient options → Option ℕ → List ℕ → Prop} {c : ChatClient options}
    {live : List ℕ} (error : ChatError) (hc : Coherent c (stream :: live)) :
    Meets streamOf Coherent (some stream) (fun _ c _ live => Coherent c live) E (failed stream error)
      c (some stream)
      live := by
  change Meets _ _ _ _ _ (if _ then _ else _) _ _ _
  split
  · refine Meets.tryCatch (Meets.bind ?_)
    refine Keeps.meets (kept_settle kept_renewSession) hc (fun _ c live hc => ?_) fun e c live hc =>
      meets_ended (some e) hc
    change Meets _ _ _ _ _ (if _ then _ else _) _ _ _
    split
    · refine Meets.bind (Keeps.meets kept_openStream hc (fun _ c live hc => ?_) fun e c live hc => ?_)
      · exact meets_ended none hc
      · exact meets_ended (some e) hc
    · exact meets_ended none hc
  · exact meets_ended (some error) hc

lemma completes_streamEvents {c : ChatClient options} {live : List ℕ} (conversationId : Id)
    (lastEventId : Option Id)
    (hc : Coherent c (stream :: live)) :
    Completes streamOf Coherent (some stream) (streamEvents stream conversationId lastEventId) c
      (some stream) live := by
  refine Meets.tryCatch (Meets.bind ?_)
  refine Keeps.meets (kept_settle kept_ensureFreshSession) hc (fun _ c live hc => ?_) fun e c live hc =>
    meets_ended (some e) hc
  refine Meets.tryCatch (Meets.bind ?_)
  refine Keeps.meets (kept_perform _) hc (fun _ c live hc => ?_) fun e c live hc => meets_failed e hc
  exact ⟨none, Or.inr ⟨rfl, rfl⟩, hc⟩

lemma completes_parseEvents {c : ChatClient options} {live : List ℕ} (hc : Coherent c (stream :: live)) :
    Completes streamOf Coherent (some stream) (parseEvents stream) c (some stream) live := by
  refine Meets.tryCatch (Meets.bind ?_)
  refine Keeps.meets (kept_perform _) hc (fun events c live hc => ?_) fun e c live hc => meets_failed e hc
  cases events with
  | none => exact meets_ended none hc
  | some events =>
    refine Meets.bind
      (Keeps.meets (keeps_forM (fun event => kept_settle (kept_handleEvent event)) events) hc
      (fun _ c live hc => ?_) fun e c live hc => ?_)
    · exact ⟨none, Or.inr ⟨rfl, rfl⟩, hc⟩
    · exact meets_failed e hc

lemma completes_body (job : Job) (c : ChatClient options) (live : List ℕ)
    (hc : Coherent c ((streamOf job).toList ++ live)) :
    Completes streamOf Coherent (streamOf job) (body job) c (streamOf job) live := by
  cases job with
  | stream stream conversationId lastEventId => exact completes_streamEvents conversationId lastEventId hc
  | events stream => exact completes_parseEvents hc
  | getConversation load conversationId => exact Keeps.completes (kept_loading load _ conversationId _) hc
  | listMessages load conversationId => exact Keeps.completes (kept_loading load _ conversationId _) hc
  | externalUpdate => exact Keeps.completes kept_applyExternalUpdate hc

end Tasks

section Runs

/-- What happens to a client: something from outside, or a reply to a request of one of its functions. -/
inductive Action
  | happens (stimulus : Stimulus)
  | answers (task : ℕ) (request : Request) (reply : Except ChatError request.Reply)

def step (r : Running options) : Action → Running options
  | .happens stimulus => r.happens stimulus
  | .answers task request reply => r.answers task request reply

def run (options : ChatClientOptions) (actions : List Action) : Running options :=
  Transition.exec step (begun options) actions

/-- The streams of the calls of `streamEvents` that have not ended and are not aborted. -/
def streaming (t : Running options) : List ℕ :=
  (Traced.live streamOf t.tasks).filter fun stream => !t.state.aborted stream

/-- The reconnect timers that are pending. -/
def reconnecting (t : Running options) :
    List (ℕ × Timer) := t.state.timers.filter fun t => decide (t.2 = .reconnect)

lemma coherent_initial (options : ChatClientOptions) : Coherent (ChatClient.initial options) [] where
  phases a ha := absurd ha List.not_mem_nil
  latest n hn := by cases hn
  numbered t ht := absurd ht List.not_mem_nil
  distinct := List.nodup_nil
  reconnect t ht := absurd ht List.not_mem_nil
  streams := List.nodup_nil
  opened n hn := absurd hn List.not_mem_nil
  waiting _ n hn := absurd hn List.not_mem_nil

lemma sound_step {t : Running options} (h : t.Sound streamOf Coherent) (a : Action) :
    (step t a).Sound streamOf Coherent := by
  have hJ : ∀ (c : ChatClient options) live live', live.Subperm live' → Coherent c live' → Coherent c live :=
    fun c live live' hl hc => hc.of_subperm hl
  cases a with
  | happens stimulus =>
    exact h.invoke hJ completes_body fun c live hc => Keeps.completes (kept_reaction stimulus) hc
  | answers task request reply =>
    change (if _ then _ else _ : Running options).Sound streamOf Coherent
    split
    · exact h.resume hJ completes_body task request reply
    · exact h

lemma sound_run (options : ChatClientOptions) (actions : List Action) :
    (run options actions).Sound streamOf Coherent := by
  have hbegun : (begun options).Sound streamOf Coherent :=
    ⟨coherent_initial options, fun task hm => absurd hm List.not_mem_nil⟩
  exact Transition.invariant hbegun (fun t a ht => sound_step ht a) actions

lemma length_le_one {α : Type} {l : List α} (hl : l.Nodup) (h : ∀ a ∈ l, ∀ b ∈ l, a = b) : l.length ≤ 1 := by
  rcases l with _ | ⟨a, _ | ⟨b, l⟩⟩
  · exact Nat.zero_le _
  · exact Nat.le_refl _
  · have hab := h a List.mem_cons_self b (List.mem_cons_of_mem _ List.mem_cons_self)
    exact absurd (hab ▸ List.mem_cons_self) (List.nodup_cons.mp hl).1

lemma false_of_streaming {t : Running options} (h : Coherent t.state (Traced.live streamOf t.tasks)) {stream : ℕ}
    (hm : stream ∈ streaming t) : t.state.controllers[stream]? = some false := by
  obtain ⟨hlive, ha⟩ := List.mem_filter.mp hm
  exact aborted_eq_false (h.opened stream hlive) (by simpa using ha)

/-- In every run of a client, at most one stream is at work, at most one reconnect timer is pending, and never
both. -/
theorem one_stream_at_a_time (options : ChatClientOptions) (actions : List Action) :
    (streaming (run options actions)).length ≤ 1 ∧ (reconnecting (run options actions)).length ≤ 1 ∧
      (streaming (run options actions) = [] ∨ reconnecting (run options actions) = []) := by
  have h := (sound_run options actions).holds
  refine ⟨?_, ?_, ?_⟩
  · refine length_le_one (h.streams.filter _) fun n hn m hm => ?_
    have hn' := h.latest n (false_of_streaming h hn)
    exact Option.some.inj (hn'.symm.trans (h.latest m (false_of_streaming h hm)))
  · have hdistinct := List.Nodup.of_map _ h.distinct
    refine length_le_one (hdistinct.filter _) fun t ht u hu => ?_
    obtain ⟨htimer, hr⟩ := List.mem_filter.mp ht
    obtain ⟨hutimer, hr'⟩ := List.mem_filter.mp hu
    have heq := (h.reconnect t htimer (of_decide_eq_true hr)).symm.trans
      (h.reconnect u hutimer (of_decide_eq_true hr'))
    exact List.inj_on_of_nodup_map h.distinct htimer hutimer (Option.some.inj heq)
  · by_cases hr : reconnecting (run options actions) = []
    · exact Or.inr hr
    · left
      obtain ⟨t, ht⟩ := List.exists_mem_of_ne_nil _ hr
      obtain ⟨htimer, hreconnect⟩ := List.mem_filter.mp ht
      refine List.eq_nil_iff_forall_not_mem.mpr fun n hn => ?_
      have htrue := h.waiting ⟨t, htimer, of_decide_eq_true hreconnect⟩ n (List.mem_of_mem_filter hn)
      rw [false_of_streaming h hn] at htrue
      cases htrue

end Runs

section Scenario

def plain : ChatClientOptions :=
  ⟨⟨String, inferInstance, fun text => text, Function.injective_id⟩, fun _ => "key", 60000⟩

def shown : ConversationResource := ⟨"c", "t", "s", "p", "agent", .active, [], 0, 0⟩

def saved (conversationId lastEventId : Option Id) (lastEventSequence : Option ℕ) : Request :=
  .save ⟨some "browser", conversationId, lastEventId, lastEventSequence⟩

def turn (task : ℕ) : Action := .answers task .turn (.ok ())

def connecting : List Action := [
  .happens .start, .answers 0 .load (.ok none),
  .answers 0 (.bootstrap none "key") (.ok ⟨⟨"t", "s", "p", "session", 1000000⟩, some "browser"⟩),
  .answers 0 (saved none none none) (.ok ()), turn 0, turn 0, .answers 0 (saved none none none) (.ok ()), turn 0,
  .happens (.selectConversation "c"), turn 2, turn 3, .answers 2 (.getConversation "c") (.ok shown),
  .answers 3 (.listMessages "c") (.ok []), .answers 1 (.loaded 0 "c") (.ok (shown, [])),
  .answers 1 (saved (some "c") none none) (.ok ()), turn 1, turn 1, turn 4]

end Scenario

end ChatCore.Client.Streams
