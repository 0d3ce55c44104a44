import ChatCore.Client.Reducer
import ChatCore.Client.Streams
import ChatCore.Cooperative.Sources

namespace ChatCore.Client.Replies

open Cooperative ChatClient Protocol Services ConversationService EventStore
open Program hiding pure

variable {options : ChatClientOptions}

abbrev Answers (options : ChatClientOptions) := Got (ChatClient options) ChatError Request.Reply

def deselects (c : ChatClient options) : Bool := c.externalUpdates.head?.any fun next =>
  decide (next.conversationId ≠ c.persisted.conversationId) && (next.conversationId.bind present).isNone

def showsOther (c : ChatClient options) (conversationId : Id) : Bool :=
  c.state.conversation.any fun shown => decide (shown.conversationId ≠ conversationId)

def clears (c : ChatClient options) : (request : Request) → Except ChatError request.Reply → Bool
  | .loaded _ conversationId, .ok _ => showsOther c conversationId
  | .createConversation _, .ok _ => true
  | .turn, _ => deselects c
  | _, _ => false

def Replied (got : Answers options) (request : Request) (a : request.Reply) : Prop :=
  ∃ c, (c, ⟨request, .ok a⟩) ∈ got

def Told (got : Answers options) : ChatStateAction → Prop
  | .sessionLoaded session => ∃ identity key browser, Replied got (.bootstrap identity key) ⟨session, browser⟩
  | .snapshotLoaded conversation messages =>
      (∃ load id, Replied got (.loaded load id) (conversation, messages)) ∨
        (∃ key, Replied got (.createConversation key) conversation) ∧ messages = []
  | .conversationCleared => ∃ c request reply, (c, ⟨request, reply⟩) ∈ got ∧ clears c request reply = true
  | .messageSubmitted message => ∃ id parts key, Replied got (.submitMessage id parts key) message
  | .eventReceived event => ∃ stream events, Replied got (.read stream) (some events) ∧ event ∈ events
  | _ => True

structure Noted (got : Answers options) (results results' : ℕ → Id → Load) : Prop where
  conversation : ∀ load id, (results' load id).conversation = (results load id).conversation ∨
    ∃ conversation, Replied got (.getConversation id) conversation ∧ (results' load id).conversation =
      some conversation
  messages : ∀ load id, (results' load id).messages = (results load id).messages ∨
    ∃ messages, Replied got (.listMessages id) messages ∧ (results' load id).messages = some messages

structure Allowed (got : Answers options) (c c' : ChatClient options) : Prop where
  results : Noted got c.results c'.results
  screen : c'.screen = c.screen ∨ ∃ a, Told got a ∧ c'.screen = c.screen.dispatch a

section Growth

variable {got got' : Answers options} (h : got ⊆ got')

include h

lemma Replied.mono {request : Request} {a : request.Reply} (hr : Replied got request a) :
    Replied got' request a := by
  obtain ⟨c, hc⟩ := hr
  exact ⟨c, h hc⟩

lemma told_mono {b : ChatStateAction} (hb : Told got b) : Told got' b := by
  cases b with
  | sessionLoaded session =>
    obtain ⟨identity, key, browser, hr⟩ := hb
    exact ⟨identity, key, browser, hr.mono h⟩
  | snapshotLoaded conversation messages =>
    rcases hb with ⟨load, id, hr⟩ | ⟨⟨key, hr⟩, hnil⟩
    · exact Or.inl ⟨load, id, hr.mono h⟩
    · exact Or.inr ⟨⟨key, hr.mono h⟩, hnil⟩
  | conversationCleared =>
    obtain ⟨c, request, reply, hm, hclears⟩ := hb
    exact ⟨c, request, reply, h hm, hclears⟩
  | messageSubmitted message =>
    obtain ⟨id, parts, key, hr⟩ := hb
    exact ⟨id, parts, key, hr.mono h⟩
  | eventReceived event =>
    obtain ⟨stream, events, hr, hevent⟩ := hb
    exact ⟨stream, events, hr.mono h, hevent⟩
  | _ => trivial

lemma Noted.mono {results results' : ℕ → Id → Load} (hn : Noted got results results') :
    Noted got' results results' where
  conversation load id := (hn.conversation load id).imp_right fun ⟨conversation, hr, hsome⟩ =>
    ⟨conversation, hr.mono h, hsome⟩
  messages load id := (hn.messages load id).imp_right fun ⟨messages, hr, hsome⟩ => ⟨messages, hr.mono h, hsome⟩

lemma Allowed.mono {c c' : ChatClient options} (ha : Allowed got c c') : Allowed got' c c' :=
  ⟨ha.results.mono h, ha.screen.imp_right fun ⟨b, hb, hscreen⟩ => ⟨b, told_mono h hb, hscreen⟩⟩

end Growth

lemma noted_refl (got : Answers options) (results : ℕ → Id → Load) : Noted got results results :=
  ⟨fun _ _ => Or.inl rfl, fun _ _ => Or.inl rfl⟩

section Routines

variable {α : Type} {got : Answers options} {c : ChatClient options}

abbrev Honest (p : Routine options α) : Prop := Tells Allowed p

abbrev HonestAfter (got : Answers options) (c : ChatClient options) (p : Routine options α) : Prop :=
  p.Traces Allowed (fun _ _ _ => True) (fun _ _ _ => True) got c

def contents (c : ChatClient options) := (c.screen, c.results)

lemma allowed_quiet {c' : ChatClient options} (h : contents c' = contents c) : Allowed got c c' := by
  obtain ⟨hscreen, hresults⟩ := Prod.mk.inj h
  exact ⟨hresults ▸ noted_refl got _, Or.inl hscreen⟩

lemma allowed_refl (got : Answers options) (c : ChatClient options) : Allowed got c c := allowed_quiet rfl

lemma honest_quiet {f : ChatClient options → ChatClient options} (h : ∀ c, contents (f c) = contents c) :
    Honest (modifyClient f) := tells_modify fun _ c => allowed_quiet (h c)

lemma allowed_dispatch {a : ChatStateAction} (h : Told got a) (c : ChatClient options) :
    Allowed got c { c with screen := c.screen.dispatch a } := ⟨noted_refl _ _, Or.inr ⟨a, h, rfl⟩⟩

lemma honest_dispatch {a : ChatStateAction} (h : ∀ got : Answers options, Told got a) :
    Honest (dispatch a : Routine options Unit) :=
  tells_modify fun got c => allowed_dispatch (h got) c

lemma after_quiet {f : ChatClient options → ChatClient options} {p : Routine options α}
    (h : ∀ c, contents (f c) = contents c) (hp : HonestAfter got (f c) p) :
    HonestAfter got c (modifyClient f >>= fun _ => p) := traces_modify_bind (allowed_quiet (h c)) hp

lemma after_dispatch {a : ChatStateAction} {p : Routine options α} (h : Told got a)
    (hp : HonestAfter got { c with screen := c.screen.dispatch a } p) :
    HonestAfter got c (dispatch a >>= fun _ => p) :=
  traces_modify_bind (allowed_dispatch h c) hp

lemma after_dispatched {a : ChatStateAction} (h : Told got a) :
    HonestAfter got c (dispatch a : Routine options Unit) :=
  ⟨allowed_dispatch h c, trivial⟩

lemma after_get {f : ChatClient options → Routine options α} (h : HonestAfter got c (f c)) :
    HonestAfter got c (getClient >>= f) := traces_get allowed_refl h

lemma honest_get {f : ChatClient options → Routine options α} (h : ∀ c, Honest (f c)) : Honest (getClient >>= f) :=
  tells_get allowed_refl h

lemma contents_abort (c : ChatClient options) : contents c.abort = contents c := by
  rw [ChatClient.abort]
  split <;> rfl

lemma honest_abort : Honest (modifyClient ChatClient.abort : Routine options Unit) := honest_quiet contents_abort

lemma honest_settle {p : Routine options α} (h : Honest p) : Honest (settle p) := h.settle .turn

lemma honest_createId : Honest (createId : Routine options Id) :=
  honest_get fun _ => (honest_quiet (by intro c; rfl)).bind fun _ => tells_pure _

lemma honest_raiseError (error : ChatError) : Honest (raiseError error : Routine options Unit) :=
  honest_dispatch fun _ => trivial

lemma honest_requireStarted : Honest (requireStarted : Routine options Unit) := by
  refine honest_get fun c => ?_
  split
  · exact tells_throw _
  · exact tells_pure _

lemma honest_requireConversation : Honest (requireConversation : Routine options _) := by
  refine honest_requireStarted.bind fun _ => honest_get fun c => ?_
  split
  · exact tells_pure _
  · exact tells_throw _

lemma honest_persist : Honest (persist : Routine options Unit) :=
  (honest_quiet (by intro c; rfl)).bind fun _ => honest_get fun _ =>
    (tells_call _).andFinally (honest_quiet (by intro c; rfl))

lemma after_sessionLoaded (session : PublicSession) (h : Told got (.sessionLoaded session)) :
    HonestAfter got c (do
    dispatch (.sessionLoaded session)
    settle persist
    scheduleRenewal : Routine options Unit) :=
  after_dispatch h (((honest_settle honest_persist).bind fun _ => honest_quiet (by intro c; rfl)) _ _)

lemma honest_bootstrapSession (idempotencyKey : Id) :
    Honest (bootstrapSession idempotencyKey : Routine options Unit) := by
  refine honest_get fun c got c' => Traces.bind (traces_call (fun c' response => ?_) fun _ _ _ => trivial)
  have htold : Told
    ((c', ⟨.bootstrap (c.persisted.browserIdentity.bind present) idempotencyKey, .ok response⟩) :: got)
      (.sessionLoaded response.session) := ⟨_, _, _, c', List.mem_cons_self⟩
  dsimp only
  split
  · exact after_quiet (by intro c; rfl) (after_sessionLoaded _ htold)
  · exact after_sessionLoaded _ htold

lemma honest_renewSession : Honest (renewSession : Routine options Unit) := by
  refine honest_get fun c => ?_
  split
  · exact tells_call Request.renewal
  · split
    · exact tells_throw _
    · refine (honest_quiet (by intro c; rfl)).bind fun _ => honest_createId.bind fun idempotencyKey => ?_
      exact (honest_settle (honest_bootstrapSession idempotencyKey)).andFinally (honest_quiet (by intro c; rfl))

lemma honest_ensureFreshSession : Honest (ensureFreshSession : Routine options Unit) := by
  refine honest_get fun c => ?_
  split
  · exact tells_pure _
  · split
    · exact tells_pure _
    · exact honest_settle honest_renewSession

lemma honest_reauthenticate {command : Routine options α} (h : Honest command) (error : ChatError) :
    Honest (reauthenticate command error) := by
  unfold reauthenticate
  split
  · exact tells_throw _
  · exact (honest_settle honest_renewSession).bind fun _ => h

lemma honest_runAuthenticated {command : Routine options α} (h : Honest command) :
    Honest (runAuthenticated command) :=
  (honest_settle honest_ensureFreshSession).bind fun _ => h.tryCatch (honest_reauthenticate h)

lemma honest_runCommand {command : Routine options α} (h : Honest command) : Honest (runCommand command) :=
  (honest_settle (honest_runAuthenticated h)).tryCatch fun error =>
    (honest_raiseError error).bind fun _ => tells_throw _

section Requests

variable (request : Request) {Q : Answers options → ChatClient options → request.Reply → Prop}

lemma after_runAuthenticated (h : ∀ got c a, Replied got request a → Q got c a) :
    (runAuthenticated (perform request) : Routine options _).Traces Allowed Q (fun _ _ _ => True) got c := by
  have hperform : ∀ {E} got c, (∀ got c e, E got c e) →
      (perform request : Routine options _).Traces Allowed Q E got c := fun got c hE =>
    traces_call (fun c a => h _ c a ⟨c, List.mem_cons_self⟩) hE
  refine Traces.bind ((honest_settle honest_ensureFreshSession).traces (fun got c _ => ?_) fun _ _ _ => trivial)
  refine Traces.tryCatch (hperform got c fun got c error => ?_)
  unfold reauthenticate
  split
  · trivial
  · exact Traces.bind
      ((honest_settle honest_renewSession).traces (fun got c _ => hperform got c fun _ _ _ => trivial)
      fun _ _ _ => trivial)

lemma after_settledCommand (h : ∀ got c a, Replied got request a → Q got c a) :
    (settle (runCommand (perform request)) : Routine options _).Traces Allowed Q (fun _ _ _ => True) got c := by
  refine Traces.settle (Traces.tryCatch (Traces.settle ?_))
  refine (after_runAuthenticated request fun got c a hr _ c' _ c'' => ?_).mono (fun _ _ _ hQ => hQ)
    fun got c error _ _ c' => ?_
  · exact h _ c'' a (hr.mono (List.subset_cons_of_subset _ (List.subset_cons_self _ _)))
  · exact Traces.bind ((honest_raiseError error).traces (fun _ _ _ _ _ => trivial) fun _ _ _ => fun _ _ => trivial)

end Requests

lemma honest_openStream : Honest (openStream : Routine options Unit) := by
  refine honest_get fun c => ?_
  split
  · exact tells_pure _
  · split
    · exact tells_pure _
    · refine Tells.bind (honest_quiet fun c => ?_) fun _ => tells_fork _
      exact contents_abort c

lemma after_snapshotLoaded (conversationId : Id) (conversation : ConversationResource)
    (messages : List MessageResource)
    (h : Told got (.snapshotLoaded conversation messages)) : HonestAfter got c (do
      modifyClient fun c => { c with persisted := { c.persisted with conversationId := some conversationId } }
      dispatch (.snapshotLoaded conversation messages)
      settle persist
      openStream : Routine options Unit) :=
  after_quiet (by intro c; rfl) (after_dispatch h
    (((honest_settle honest_persist).bind fun _ => honest_openStream) _ _))

lemma after_getConversationAndMessages {conversationId : Id}
    {Q : Answers options → ChatClient options → ConversationResource × List MessageResource → Prop}
    (h : ∀ load got c reply, Q ((c, ⟨.loaded load conversationId, .ok reply⟩) :: got) c reply) :
    (getConversationAndMessages conversationId : Routine options _).Traces Allowed Q (fun _ _ _ => True) got c := by
  have hcall : (perform (.loaded c.loads conversationId) : Routine options _).Traces Allowed Q
    (fun _ _ _ => True) got c :=
    traces_call (h _ got) fun _ _ _ => trivial
  exact traces_get allowed_refl (traces_modify_bind (allowed_quiet rfl) hcall)

lemma honest_loadConversation (conversationId : Id) :
    Honest (loadConversation conversationId : Routine options Unit) := by
  refine fun got c => Traces.bind (after_getConversationAndMessages fun load got c reply => after_get ?_)
  have htold : Told ((c, ⟨.loaded load conversationId, .ok reply⟩) :: got) (.snapshotLoaded reply.1 reply.2) :=
    Or.inl ⟨load, conversationId, c, List.mem_cons_self⟩
  split
  · rename_i hother
    exact after_dispatch ⟨c, _, _, List.mem_cons_self, hother⟩ (after_snapshotLoaded conversationId _ _ htold)
  · exact after_snapshotLoaded conversationId _ _ htold

lemma honest_reload : Honest (reload : Routine options Unit) := by
  refine honest_get fun c => ?_
  split
  · exact honest_settle (honest_loadConversation _)
  · exact tells_pure _

lemma honest_synchronize : Honest (synchronize : Routine options Unit) := by
  refine honest_get fun c => ?_
  split
  · exact tells_pure _
  · rename_i conversationId _
    refine fun got c => Traces.bind (after_getConversationAndMessages fun load got c reply => ?_)
    exact after_dispatched (a := .snapshotLoaded reply.1 reply.2)
      (Or.inl ⟨load, conversationId, c, List.mem_cons_self⟩)

lemma honest_loading {load : ℕ} {request : Request} {conversationId : Id} {succeeds : request.Reply → Load → Load}
    (h : ∀ got results a, Replied got request a → @Noted options got results fun l id =>
      if l = load ∧ id = conversationId then succeeds a (results l id) else results l id) :
    Honest (loading load request conversationId succeeds : Routine options Unit) := by
  refine fun got c => Traces.tryCatch (Traces.bind ?_)
  refine (after_runAuthenticated request fun got c a hr => ?_).mono (fun _ _ _ hQ => hQ) fun got c error _ => ?_
  · exact ⟨⟨h got c.results a hr, Or.inl rfl⟩, trivial⟩
  · refine ⟨⟨⟨fun l id => Or.inl ?_, fun l id => Or.inl ?_⟩, Or.inl rfl⟩, trivial⟩
    · dsimp only
      split <;> rfl
    · dsimp only
      split <;> rfl

lemma after_handleEvent {event : PublicConversationEvent} (h : Told got (.eventReceived event)) :
    HonestAfter got c (handleEvent event : Routine options Unit) := by
  unfold handleEvent
  split
  · refine after_quiet (by intro c; rfl) (after_dispatch trivial (after_dispatch trivial ?_))
    exact ((honest_settle honest_synchronize).bind fun _ => (honest_settle honest_persist).bind fun _ =>
      honest_abort.bind fun _ => honest_openStream) _ _
  · refine after_dispatch h (after_quiet (by intro c; rfl) ?_)
    split
    · exact ((honest_settle honest_synchronize).bind fun _ => (honest_settle honest_persist).bind fun _ =>
        honest_quiet (by intro c; rfl)) _ _
    · exact ((honest_settle honest_persist).bind fun _ => honest_quiet (by intro c; rfl)) _ _

lemma after_handleEvents {stream : ℕ} {events later : List PublicConversationEvent} (hlater : later ⊆ events)
    (hread : Replied got (.read stream) (some events)) :
    HonestAfter got c (later.forM fun event => settle (handleEvent event) : Routine options Unit) := by
  induction later generalizing got c with
  | nil => trivial
  | cons event later ih =>
    obtain ⟨hevent, hrest⟩ := List.cons_subset.mp hlater
    have hhandled : HonestAfter got c (handleEvent event : Routine options Unit) :=
      after_handleEvent ⟨stream, events, hread, hevent⟩
    refine Traces.bind (Traces.settle ((hhandled.grows (List.Subset.refl got)).mono (fun got' _ _ h _ _ => ?_)
      fun _ _ _ _ _ _ => trivial))
    exact ih hrest (hread.mono (List.subset_cons_of_subset _ h.2))

lemma honest_scheduleReconnect (cause : Option ChatError) :
    Honest (scheduleReconnect cause : Routine options Unit) := by
  refine honest_get fun c => ?_
  split
  · exact tells_pure _
  · cases cause with
    | none =>
      exact (honest_dispatch (a := .phaseChanged .reconnecting) fun _ => trivial).bind fun _ =>
        honest_quiet (by intro c; rfl)
    | some error =>
      exact (honest_dispatch (a := .connectionFailed _) fun _ => trivial).bind fun _ =>
        honest_quiet (by intro c; rfl)

lemma honest_ended (stream : ℕ) (cause : Option ChatError) :
    Honest (ended stream cause : Routine options Unit) := by
  refine (tells_pause Request.turn).bind fun _ => honest_get fun c => ?_
  split
  · exact honest_scheduleReconnect cause
  · exact tells_pure _

lemma honest_failed (stream : ℕ) (error : ChatError) : Honest (failed stream error : Routine options Unit) := by
  refine honest_get fun c => ?_
  split
  · refine Tells.tryCatch ((honest_settle honest_renewSession).bind fun _ => honest_get fun c => ?_) fun error =>
      honest_ended _ _
    split
    · exact honest_openStream.bind fun _ => honest_ended _ _
    · exact honest_ended _ _
  · exact honest_ended _ _

lemma honest_streamEvents (stream : ℕ) (conversationId : Id) (lastEventId : Option Id) :
    Honest (streamEvents stream conversationId lastEventId : Routine options Unit) := by
  refine Tells.tryCatch ((honest_settle honest_ensureFreshSession).bind fun _ => ?_) fun error => honest_ended _ _
  refine Tells.tryCatch ?_ (honest_failed stream)
  exact (tells_call (Request.connect stream conversationId lastEventId)).bind fun _ => tells_fork _

lemma honest_parseEvents (stream : ℕ) : Honest (parseEvents stream : Routine options Unit) := by
  refine Tells.tryCatch (fun got c => Traces.bind ?_) (honest_failed stream)
  refine traces_call (fun c events => ?_) fun _ _ _ => trivial
  cases events with
  | none => exact honest_ended stream none _ _
  | some events =>
    exact Traces.bind ((after_handleEvents (List.Subset.refl events) ⟨c, List.mem_cons_self⟩).mono
      (fun got c _ _ => tells_fork _ got c) fun _ _ _ _ => trivial)

lemma honest_applyExternalState (next : PersistedChatState)
    (h : (next.conversationId ≠ c.persisted.conversationId → next.conversationId.bind present = none →
      Told got .conversationCleared)) : HonestAfter got c (applyExternalState next : Routine options Unit) := by
  refine after_get (after_quiet (by intro c; rfl) ?_)
  split
  · trivial
  · split
    · rename_i hchanged
      split
      · exact honest_settle (honest_loadConversation _) _ _
      · rename_i hnone
        exact after_quiet contents_abort (after_dispatched (h hchanged hnone))
    · split
      · refine ((honest_settle honest_synchronize).bind fun _ => ?_) _ _
        split
        · exact honest_get fun c => honest_dispatch fun _ => trivial
        · exact tells_pure _
      · trivial

lemma honest_applyExternalUpdate : Honest (applyExternalUpdate : Routine options Unit) := by
  refine fun got c answer c => after_get ?_
  split
  · exact honest_quiet (by intro c; rfl) _ _
  · rename_i next rest hupdates
    refine after_quiet (by intro c; rfl) (Traces.bind (Traces.tryCatch (Traces.settle ?_)))
    refine (honest_applyExternalState next fun hchanged hnone => ⟨c, .turn, answer, List.mem_cons_self, ?_⟩).mono
      (fun got c _ _ _ c => tells_fork _ _ c) fun got c error _ _ c => ?_
    · have hchanged' : next.conversationId ≠ c.persisted.conversationId := hchanged
      simp [clears, deselects, hupdates, hchanged', hnone]
    · exact (honest_raiseError error).traces (fun got c _ => tells_fork _ got c) (fun _ _ _ => trivial)

lemma honest_starting (persisted : Option PersistedChatState) :
    Honest (starting persisted : Routine options Unit) := by
  have hrest : Honest (do
      settle persist
      reload : Routine options Unit) := (honest_settle honest_persist).bind fun _ => honest_reload
  refine (honest_quiet (by intro c; rfl)).bind fun _ => honest_createId.bind fun key => ?_
  refine (honest_settle (honest_bootstrapSession key)).bind fun _ => honest_get fun c => ?_
  dsimp only
  split
  · exact (honest_dispatch (a := .cursorRestored _ _) fun _ => trivial).bind fun _ => hrest
  · exact hrest

lemma honest_start : Honest (start : Routine options Unit) := by
  refine honest_get fun c => ?_
  split
  · exact tells_pure _
  · refine (honest_quiet (by intro c; rfl)).bind fun _ =>
      (honest_dispatch (a := .phaseChanged .bootstrapping) fun _ => trivial).bind fun _ => ?_
    refine Tells.tryCatch ?_ fun error => (honest_raiseError error).bind fun _ => tells_throw _
    exact (tells_call Request.load).bind honest_starting

lemma after_created (conversation : ConversationResource) (h : Told got (.snapshotLoaded conversation [])) :
    HonestAfter got c (do
      modifyClient fun c => { c with
        persisted := { c.persisted.withoutCursor with conversationId := some conversation.conversationId } }
      dispatch .cursorCleared
      dispatch (.snapshotLoaded conversation [])
      settle persist
      openStream
      return conversation : Routine options _) :=
  after_quiet (by intro c; rfl) (after_dispatch trivial (after_dispatch h
    (((honest_settle honest_persist).bind fun _ => honest_openStream.bind fun _ => tells_pure _) _ _)))

lemma honest_createConversation : Honest (createConversation : Routine options _) := by
  refine honest_requireStarted.bind fun _ => honest_createId.bind fun key => fun got c => Traces.bind ?_
  refine after_settledCommand (.createConversation key) fun got c conversation hr => after_get ?_
  have htold : Told got (.snapshotLoaded conversation []) := Or.inr ⟨⟨key, hr⟩, rfl⟩
  obtain ⟨c', hc'⟩ := hr
  split
  · exact after_dispatch ⟨c', _, _, hc', rfl⟩ (after_created conversation htold)
  · exact after_created conversation htold

lemma honest_selectConversation (conversationId : Id) :
    Honest (selectConversation conversationId : Routine options Unit) := by
  refine honest_requireStarted.bind fun _ => honest_get fun c => ?_
  split
  · exact (honest_quiet (by intro c; rfl)).bind fun _ =>
      (honest_dispatch (a := .cursorCleared) fun _ => trivial).bind fun _ =>
        honest_settle (honest_loadConversation conversationId)
  · exact honest_settle (honest_loadConversation conversationId)

lemma honest_sendMessage (parts : List String) : Honest (sendMessage parts : Routine options _) := by
  refine honest_requireConversation.bind fun conversation => honest_createId.bind fun key => fun got c =>
    Traces.bind ?_
  refine after_settledCommand (.submitMessage conversation.conversationId parts key) fun got c message hr => ?_
  exact after_dispatch ⟨_, _, _, hr⟩ ((honest_openStream.bind fun _ => tells_pure _) _ _)

lemma honest_command {β : Type} {f : ConversationResource → Id → Request} {g : ∀ conversation key,
    (f conversation key).Reply → Routine options β}
    (hg : ∀ conversation key a, Honest (g conversation key a)) : Honest (do
      let conversation ← requireConversation
      let idempotencyKey ← createId
      let a ← settle (runCommand (perform (f conversation idempotencyKey)))
      g conversation idempotencyKey a) :=
  honest_requireConversation.bind fun conversation => honest_createId.bind fun key =>
    (honest_settle (honest_runCommand (tells_call _))).bind (hg conversation key)

lemma honest_submitted (conversationId requestId : Id) (value : Option String) : Honest (do
    let idempotencyKey ← createId
    let result : StructuredInputService.InputResource ←
      settle (runCommand (perform (.submitStructuredInput conversationId requestId value idempotencyKey)))
    dispatch (.structuredInputSubmitted requestId)
    openStream
    return result : Routine options _) :=
  honest_createId.bind fun _ => (honest_settle (honest_runCommand (tells_call _))).bind fun _ =>
    (honest_dispatch (a := .structuredInputSubmitted _) fun _ => trivial).bind fun _ =>
      honest_openStream.bind fun _ =>
      tells_pure _

lemma honest_submitStructuredInput (requestId : Id) (value : Option String) :
    Honest (submitStructuredInput requestId value : Routine options _) := by
  refine honest_requireConversation.bind fun _ => honest_get fun c => ?_
  split
  · exact (tells_throw _).bind fun _ => honest_submitted _ requestId value
  · exact honest_submitted _ requestId value

lemma honest_retry : Honest (retry : Routine options Unit) := by
  have hrest : Honest (do
      modifyClient ChatClient.abort
      dispatch (.phaseChanged .bootstrapping)
      settle (runCommand (settle renewSession))
      reload : Routine options Unit) :=
    honest_abort.bind fun _ => (honest_dispatch (a := .phaseChanged .bootstrapping) fun _ => trivial).bind fun _ =>
      (honest_settle (honest_runCommand (honest_settle honest_renewSession))).bind fun _ => honest_reload
  refine honest_get fun c => ?_
  split
  · exact (tells_throw _).bind fun _ => hrest
  · exact hrest

lemma honest_recoverActiveSession : Honest (recoverActiveSession : Routine options Unit) := by
  refine (honest_settle honest_ensureFreshSession).bind fun _ => honest_get fun c => ?_
  split
  · exact honest_openStream
  · exact tells_pure _

lemma honest_reaction (stimulus : Stimulus) : Honest (reaction stimulus : Routine options Unit) := by
  have hopened : ∀ {β : Type} (b : β), Honest (do openStream; return b : Routine options β) := fun b =>
    honest_openStream.bind fun _ => tells_pure b
  cases stimulus with
  | start => exact honest_start
  | createConversation => exact honest_createConversation.discard
  | selectConversation conversationId => exact honest_selectConversation conversationId
  | sendMessage parts => exact (honest_sendMessage parts).discard
  | createEmailHandoff email =>
    exact (honest_command (f := fun c key => .createEmailHandoff c.conversationId email key) fun _ _ a =>
      hopened a).discard
  | cancel =>
    refine (honest_command (f := fun c key => .cancel c.conversationId key) fun _ _ outcome => ?_).discard
    exact (honest_dispatch (a := .runCancelled _ _) fun _ => trivial).bind fun _ => tells_pure outcome
  | submitStructuredInput requestId value => exact (honest_submitStructuredInput requestId value).discard
  | retryRun =>
    refine honest_command (f := fun c key => .retry c.conversationId key) fun _ _ _ => ?_
    exact (honest_dispatch (a := .runRetrying) fun _ => trivial).bind fun _ => honest_openStream
  | retry => exact honest_retry
  | destroy => exact honest_quiet contents_abort
  | stored next =>
    refine honest_get fun c => ?_
    split
    · exact tells_pure _
    · split
      · exact tells_pure _
      · refine (honest_quiet (by intro c; rfl)).bind fun _ => ?_
        split
        · exact tells_fork _
        · exact tells_pure _
  | recovered =>
    refine honest_get fun c => ?_
    split
    · exact (honest_settle honest_recoverActiveSession).tryCatch fun error => honest_raiseError error
    · exact tells_pure _
  | due timer =>
    refine honest_get fun c => ?_
    split
    · exact tells_pure _
    · refine (honest_quiet (by intro c; rfl)).bind fun _ => ?_
      split
      · exact honest_openStream
      · exact (honest_settle honest_renewSession).tryCatch fun error => honest_raiseError error
  | clock now => exact honest_quiet (by intro c; rfl)

lemma honest_body (job : Job) : Honest (body job : Routine options Unit) := by
  cases job with
  | stream stream conversationId lastEventId => exact honest_streamEvents stream conversationId lastEventId
  | events stream => exact honest_parseEvents stream
  | getConversation load conversationId =>
    refine honest_loading fun got results conversation hr => ⟨fun l id => ?_, fun l id => Or.inl ?_⟩
    · split
      · rename_i hsame
        exact Or.inr ⟨conversation, hsame.2 ▸ hr, rfl⟩
      · exact Or.inl rfl
    · split <;> rfl
  | listMessages load conversationId =>
    refine honest_loading fun got results messages hr => ⟨fun l id => Or.inl ?_, fun l id => ?_⟩
    · split <;> rfl
    · split
      · rename_i hsame
        exact Or.inr ⟨messages, hsame.2 ▸ hr, rfl⟩
      · exact Or.inl rfl
  | externalUpdate => exact honest_applyExternalUpdate

end Routines

end ChatCore.Client.Replies
