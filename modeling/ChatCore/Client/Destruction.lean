import ChatCore.Client.Careless
import ChatCore.Client.Streams
import ChatCore.Cooperative.Guards

namespace ChatCore.Client.Destruction

open Cooperative ChatClient Protocol Services EventStore
open Program hiding pure throw

variable {options : ChatClientOptions} {α β : Type}

section Guarding

def Tracked (c : ChatClient options) : Prop := ∀ t ∈ c.timers, t.2 = .renewal → c.renewalTimer = some t.1

structure Evolves (c c' : ChatClient options) : Prop where
  controllers : c.controllers.length ≤ c'.controllers.length
  timersSet : c.timersSet ≤ c'.timersSet
  tracked : Tracked c → Tracked c'

structure Still (c : ChatClient options) : Prop where
  destroyed : c.destroyed = true
  timers : c.timers = []
  aborted : ∀ n < c.controllers.length, c.aborted n = true

def Begins (job : Job) (c : ChatClient options) : Prop := match job with
  | .stream stream _ _ | .events stream => stream < c.controllers.length
  | .getConversation .. | .listMessages .. | .externalUpdate => True

def guard : Guard (ChatClient options) Job Request where
  Evolves := Evolves
  refl _ := ⟨Nat.le_refl _, Nat.le_refl _, id⟩
  trans h h' := ⟨h.1.trans h'.1, h.2.trans h'.2, fun ht => h'.3 (h.3 ht)⟩
  Still := Still
  guarded := transports
  Begins _ := Begins
  begins_mono {_ job _ _} h hb := match job, hb with
    | .stream _ _ _, hb | .events _, hb => Nat.lt_of_lt_of_le hb h.controllers
    | .getConversation _ _, _ | .listMessages _ _, _ | .externalUpdate, _ => trivial

end Guarding

section Rules

abbrev Exclusion (options : ChatClientOptions) (α : Type) :=
  Excluded (ChatClient options) ChatError Job Request.Reply α

def Covers (Bad : Exclusion options α) : Prop :=
  ∀ (c : ChatClient options) (request : Request) reply p, Careless c request reply p → Bad c request reply p

lemma Covers.bind {Bad : Exclusion options β} (h : Covers Bad) (f : α → Routine options β) :
    Covers fun c request reply (p : Routine options α) => Bad c request reply (p >>= f) :=
  fun c request reply _ hp => h c request reply _ (hp.bind f)

lemma Covers.tryCatch {Bad : Exclusion options α} (h : Covers Bad) (handler : ChatError → Routine options α) :
    Covers fun c request reply (p : Routine options α) => Bad c request reply (p.tryCatch handler) :=
  fun c request reply _ hp => h c request reply _ (hp.tryCatch handler)

structure Later (c : ChatClient options) (still : Bool) (c' : ChatClient options) : Prop where
  evolves : Evolves c c'
  stays : still = true → Still c'

abbrev Ends (Bad : Exclusion options α) (base : ChatClient options) (still : Bool) (p : Routine options α)
    (c : ChatClient options) : Prop :=
  Obeys guard Bad (fun still _ => Later base still) (fun still _ => Later base still) still p c

def Heeds (base : ChatClient options) (N : ChatClient options → Prop) (p : Routine options α) : Prop :=
  ∀ Bad : Exclusion options α, Covers Bad → ∀ still c, (still = true → N c) → Later base still c →
    Ends Bad base still p c

abbrev Sober (base : ChatClient options) (p : Routine options α) : Prop := Heeds base (fun _ => True) p

abbrev Checked (base : ChatClient options) (p : Routine options α) : Prop := Heeds base (fun c => ¬ Headlong c p) p

abbrev Awake (base : ChatClient options) (p : Routine options α) : Prop := Heeds base (fun _ => False) p

def Prompt (p : Routine options α) : Prop :=
  ∀ (Bad : Exclusion options α) base still c, Later base still c →
    Obeys guard Bad (fun still' _ c' => still' = still ∧ Later base still' c')
      (fun still' _ c' => still' = still ∧ Later base still' c') still p c

variable {base c c' : ChatClient options} {still : Bool} {N : ChatClient options → Prop}

lemma Evolves.trans {c'' : ChatClient options} (h : Evolves c c') (h' : Evolves c' c'') : Evolves c c'' :=
  guard.trans h h'

lemma Later.goes (h : Later base still c) (hc : Evolves c c') {still' : Bool} (hs : still' = true → Still c') :
    Later base still' c' := ⟨h.evolves.trans hc, hs⟩

def alarms (c : ChatClient options) := (c.destroyed, c.controllers, c.timers, c.timersSet, c.renewalTimer)

lemma evolves_quiet (h : alarms c' = alarms c) : Evolves c c' ∧ (Still c → Still c') := by
  simp only [alarms, Prod.mk.injEq] at h
  obtain ⟨hdestroyed, hcontrollers, htimers, hset, hrenewal⟩ := h
  refine ⟨⟨?_, ?_, fun ht => ?_⟩, fun hs => ⟨?_, ?_, fun n hn => ?_⟩⟩
  · rw [hcontrollers]
  · rw [hset]
  · rw [Tracked, htimers, hrenewal]
    exact ht
  · rw [hdestroyed]
    exact hs.destroyed
  · rw [htimers]
    exact hs.timers
  · rw [hcontrollers] at hn
    rw [ChatClient.aborted, hcontrollers]
    exact hs.aborted n hn

lemma Later.quiet (h : Later base still c) (heq : alarms c' = alarms c) : Later base still c' :=
  h.goes (evolves_quiet heq).1 fun hs => (evolves_quiet heq).2 (h.stays hs)

lemma evolves_abort (c : ChatClient options) : Evolves c c.abort ∧ (Still c → Still c.abort) := by
  obtain ⟨htimers, hset, -, -⟩ := Streams.timers_abort c
  have hlength := Streams.length_abort c
  have hrest : c.abort.renewalTimer = c.renewalTimer ∧ c.abort.destroyed = c.destroyed := by
    rw [ChatClient.abort]
    split <;> exact ⟨rfl, rfl⟩
  refine ⟨⟨?_, ?_, fun ht => ?_⟩, fun hs => ⟨?_, ?_, fun n hn => ?_⟩⟩
  · rw [hlength]
  · rw [hset]
  · rw [Tracked, htimers, hrest.1]
    exact ht
  · rw [hrest.2]
    exact hs.destroyed
  · rw [htimers]
    exact hs.timers
  · rw [hlength] at hn
    have hn' := hs.aborted n hn
    cases hstream : c.streamAbort with
    | none => rwa [ChatClient.abort, hstream]
    | some stream =>
      rw [ChatClient.abort, hstream]
      rw [ChatClient.aborted, List.getD_eq_getElem?_getD] at hn' ⊢
      dsimp only
      rw [List.getElem?_set]
      split
      · split
        · rfl
        · omega
      · exact hn'

lemma prompt_pure (a : α) : Prompt (pure a : Routine options α) := fun _ _ _ _ h => ⟨rfl, h⟩

lemma prompt_throw (e : ChatError) : Prompt (throw e : Routine options α) := fun _ _ _ _ h => ⟨rfl, h⟩

lemma Prompt.bind {p : Routine options α} {f : α → Routine options β} (hp : Prompt p) (hf : ∀ a, Prompt (f a)) :
    Prompt (p >>= f) := by
  refine fun Bad base still c h => Obeys.bind ((hp _ base still c h).mono ?_ fun _ _ _ h => h)
  rintro _ a c' ⟨rfl, hc'⟩
  exact hf a Bad base _ c' hc'

lemma prompt_get {f : ChatClient options → Routine options α} (hf : ∀ (Bad : Exclusion options α) base still c,
    Later base still c → Obeys guard Bad (fun still' _ c' => still' = still ∧ Later base still' c')
      (fun still' _ c' => still' = still ∧ Later base still' c') still (f c) c) : Prompt (getClient >>= f) :=
  fun Bad base still c h => ⟨guard.refl c, h.stays, hf Bad base still c h⟩

lemma prompt_of_get {f : ChatClient options → Routine options α} (hf : ∀ c, Prompt (f c)) :
    Prompt (getClient >>= f) :=
  prompt_get fun Bad base still c h => hf c Bad base still c h

lemma prompt_quiet {f : ChatClient options → ChatClient options} (hf : ∀ c, alarms (f c) = alarms c) :
    Prompt (modifyClient f) := fun _ _ _ c h =>
  ⟨(evolves_quiet (hf c)).1, (h.quiet (hf c)).stays, rfl, h.quiet (hf c)⟩

lemma prompt_abort : Prompt (modifyClient ChatClient.abort : Routine options Unit) := fun _ _ _ c h =>
  ⟨(evolves_abort c).1, fun hs => (evolves_abort c).2 (h.stays hs), rfl,
    h.goes (evolves_abort c).1 fun hs => (evolves_abort c).2 (h.stays hs)⟩

lemma prompt_dispatch (a : ChatStateAction) : Prompt (dispatch a : Routine options Unit) :=
  prompt_quiet fun _ => rfl

lemma prompt_createId : Prompt (createId : Routine options Id) :=
  prompt_of_get fun _ => (prompt_quiet (by intro c; rfl)).bind fun _ => prompt_pure _

lemma prompt_raiseError (error : ChatError) : Prompt (raiseError error : Routine options Unit) := prompt_dispatch _

lemma prompt_requireStarted : Prompt (requireStarted : Routine options Unit) := by
  refine prompt_of_get fun c => ?_
  split
  · exact prompt_throw _
  · exact prompt_pure _

lemma prompt_requireConversation : Prompt (requireConversation : Routine options _) := by
  refine prompt_requireStarted.bind fun _ => prompt_of_get fun c => ?_
  split
  · exact prompt_pure _
  · exact prompt_throw _

lemma Heeds.mono {N' : ChatClient options → Prop} {p : Routine options α} (hp : Heeds base N p)
    (h : ∀ c, N' c → N c) :
    Heeds base N' p := fun Bad hBad still c hN => hp Bad hBad still c fun hs => h c (hN hs)

lemma Heeds.sober {p : Routine options α} (hp : Sober base p) : Heeds base N p := hp.mono fun _ _ => trivial

lemma Checked.of_headlong {p : Routine options α} (h : ∀ c, Headlong c p) (hp : Awake base p) : Checked base p :=
  hp.mono fun c hc => hc (h c)

lemma Prompt.sober {p : Routine options α} (hp : Prompt p) : Sober base p := fun Bad _ still c _ h =>
  (hp Bad base still c h).mono (fun _ _ _ hc => hc.2) fun _ _ _ hc => hc.2

lemma Prompt.first {P : Prop} {p : Routine options α} {f : α → Routine options β} (hp : Prompt p)
    (hf : ∀ a, Heeds base (fun _ => P) (f a)) : Heeds base (fun _ => P) (p >>= f) := by
  refine fun Bad hBad still c hP h => Obeys.bind ((hp _ base still c h).mono ?_ fun _ _ _ hc => hc.2)
  rintro _ a c' ⟨rfl, hc'⟩
  exact hf a Bad hBad _ c' hP hc'

lemma Heeds.bind {p : Routine options α} {f : α → Routine options β} (hp : Heeds base N p)
    (hf : ∀ a, Sober base (f a)) :
    Heeds base N (p >>= f) := fun Bad hBad still c hN h =>
  Obeys.bind ((hp _ (hBad.bind f) still c hN h).mono
    (fun still' a c' hc => hf a Bad hBad still' c' (fun _ => trivial) hc) fun _ _ _ hc => hc)

lemma Heeds.tryCatch {p : Routine options α} {handler : ChatError → Routine options α} (hp : Heeds base N p)
    (hh : ∀ e, Sober base (handler e)) : Heeds base N (Program.tryCatch p handler) := fun Bad hBad still c hN h =>
  Obeys.tryCatch ((hp _ (hBad.tryCatch handler) still c hN h).mono (fun _ _ _ hc => hc)
    fun still' e c' hc => hh e Bad hBad still' c' (fun _ => trivial) hc)

lemma Heeds.discard {p : Routine options α} (hp : Heeds base N p) : Heeds base N (discard p) := by
  change Heeds base N (p >>= _)
  exact hp.bind fun _ => (prompt_pure ()).sober

lemma heeds_await {request : Request} {next : Except ChatError request.Reply → Routine options α}
    (hr : ∀ c, N c → transports request = false) (hn : ∀ reply, Checked base (next reply)) :
    Heeds base N (.await request next) := by
  refine fun Bad hBad still c hN h => ⟨fun hs => hr c (hN hs), fun still' reply c' hc hreply => ?_⟩
  refine hn reply Bad hBad still' c' (fun hs hhead => ?_) (h.goes hc fun hs => (hreply hs).1)
  exact (hreply hs).2 (hBad _ _ _ _ ⟨next, rfl, hhead⟩)

lemma heeds_perform_bind {request : Request} {f : request.Reply → Routine options α}
    (hr : ∀ c, N c → transports request = false) (hf : ∀ a, Checked base (f a)) :
    Heeds base N (perform request >>= f) := by
  refine heeds_await hr fun reply => ?_
  cases reply with
  | error e => exact (prompt_throw e).sober.sober
  | ok a => exact hf a

lemma heeds_perform_tryCatch {request : Request} {handler : ChatError → Routine options request.Reply}
    (hr : ∀ c, N c → transports request = false) (hh : ∀ e, Checked base (handler e)) :
    Heeds base N (Program.tryCatch (perform request) handler) := by
  refine heeds_await hr fun reply => ?_
  cases reply with
  | error e => exact hh e
  | ok a => exact (prompt_pure a).sober.sober

lemma heeds_perform {request : Request} (hr : ∀ c, N c → transports request = false) :
    Heeds base N (perform request : Routine options _) := by
  refine heeds_await hr fun reply => ?_
  cases reply with
  | error e => exact (prompt_throw e).sober.sober
  | ok a => exact (prompt_pure a).sober.sober

lemma sober_nextTurn : Sober base (nextTurn : Routine options Unit) :=
  heeds_await (fun _ _ => rfl) fun _ => (prompt_pure ()).sober.sober

lemma Heeds.settle_bind {p : Routine options α} {f : α → Routine options β} (hp : Heeds base N p)
    (hf : ∀ a, Checked base (f a)) : Heeds base N (settle p >>= f) := by
  refine fun Bad hBad still c hN h => Obeys.bind (Obeys.bind (Obeys.tryCatch ?_))
  refine (hp _ (((hBad.bind f).bind _).tryCatch _) still c hN h).mono ?_ ?_
  · refine fun still' a c' hlater => ⟨fun _ => rfl, fun still'' reply c'' hc hreply => ?_⟩
    refine hf a Bad hBad still'' c'' (fun hs hhead => ?_) (hlater.goes hc fun hs => (hreply hs).1)
    exact (hreply hs).2 (hBad _ _ _ _ ⟨_, rfl, hhead⟩)
  · exact fun still' e c' hlater => ⟨fun _ => rfl, fun still'' reply c'' hc hreply =>
      hlater.goes hc fun hs => (hreply hs).1⟩

lemma Heeds.settle_tryCatch {p : Routine options α} {handler : ChatError → Routine options α} (hp : Heeds base N p)
    (hh : ∀ e, Checked base (handler e)) : Heeds base N (Program.tryCatch (settle p) handler) := by
  refine fun Bad hBad still c hN h => Obeys.tryCatch (Obeys.bind (Obeys.tryCatch ?_))
  refine (hp _ (((hBad.tryCatch handler).bind _).tryCatch _) still c hN h).mono ?_ ?_
  · exact fun still' a c' hlater => ⟨fun _ => rfl, fun still'' reply c'' hc hreply =>
      hlater.goes hc fun hs => (hreply hs).1⟩
  · refine fun still' e c' hlater => ⟨fun _ => rfl, fun still'' reply c'' hc hreply => ?_⟩
    refine hh e Bad hBad still'' c'' (fun hs hhead => ?_) (hlater.goes hc fun hs => (hreply hs).1)
    exact (hreply hs).2 (hBad _ _ _ _ ⟨_, rfl, hhead⟩)

lemma Heeds.settle {p : Routine options α} (hp : Heeds base N p) : Heeds base N (settle p) :=
  (hp.tryCatch fun e => sober_nextTurn.bind fun _ => (prompt_throw e).sober).bind fun a =>
    sober_nextTurn.bind fun _ => (prompt_pure a).sober

lemma heeds_get {f : ChatClient options → Routine options α}
    (hf : ∀ Bad : Exclusion options α, Covers Bad → ∀ still c,
    (still = true → N c) → Later base still c → Ends Bad base still (f c) c) : Heeds base N (getClient >>= f) :=
  fun Bad hBad still c hN h => ⟨guard.refl c, h.stays, hf Bad hBad still c hN h⟩

lemma heeds_of_get {f : ChatClient options → Routine options α} (hf : ∀ c, Heeds base N (f c)) :
    Heeds base N (getClient >>= f) := heeds_get fun Bad hBad still c hN h => hf c Bad hBad still c hN h

end Rules

section Sessions

variable {base : ChatClient options} {N : ChatClient options → Prop}

lemma sober_persist : Sober base (persist : Routine options Unit) := by
  refine (prompt_quiet (by intro c; rfl)).first fun _ => heeds_of_get fun c => ?_
  have hcleared : Prompt (modifyClient fun c => { c with ignoreStorage := false } : Routine options Unit) :=
    prompt_quiet (by intro c; rfl)
  exact ((heeds_perform fun _ _ => rfl).tryCatch fun e =>
    hcleared.first fun _ => (prompt_throw e).sober).bind fun a =>
    hcleared.first fun _ => (prompt_pure a).sober

lemma evolves_renewal (c : ChatClient options) :
    Evolves c { (c.clearTimer c.renewalTimer).setTimer .renewal with renewalTimer := some c.timersSet } := by
  refine ⟨Nat.le_refl _, Nat.le_succ _, fun ht t hm hr => ?_⟩
  rcases List.mem_append.mp hm with hm | hm
  · obtain ⟨hold, hne⟩ := List.mem_filter.mp hm
    exact absurd (ht t hold hr).symm (of_decide_eq_true hne)
  · rw [List.mem_singleton.mp hm]
    rfl

lemma awake_scheduleRenewal : Awake base (scheduleRenewal : Routine options Unit) := by
  intro Bad hBad still c hN h
  cases still with
  | true => exact (hN rfl).elim
  | false => exact ⟨evolves_renewal c, fun hs => (by cases hs), h.goes (evolves_renewal c) fun hs => by cases hs⟩

lemma sober_sessionLoaded (session : PublicSession) : Sober base (do
    dispatch (.sessionLoaded session)
    settle persist
    scheduleRenewal : Routine options Unit) :=
  (prompt_dispatch _).first fun _ => sober_persist.settle_bind fun _ =>
    .of_headlong (fun _ => .scheduling) awake_scheduleRenewal

lemma awake_bootstrapSession (key : Id) : Awake base (bootstrapSession key : Routine options Unit) := by
  refine heeds_of_get fun c => heeds_perform_bind (fun _ h => h.elim) fun response => ?_
  dsimp only
  split
  · exact Heeds.sober ((prompt_quiet (by intro c; rfl)).first fun _ => sober_sessionLoaded _)
  · exact (sober_sessionLoaded _).sober

lemma heeds_renewSession : Heeds base (fun c => ¬ Renewable c) (renewSession : Routine options Unit) := by
  refine heeds_get fun Bad hBad still c hN h => ?_
  split
  · have hshared : Sober base (perform .renewal : Routine options Unit) := heeds_perform fun _ _ => rfl
    exact hshared Bad hBad still c (fun _ => trivial) h
  · rename_i hidle
    split
    · exact h
    · rename_i hidentity
      cases still with
      | true =>
        rw [Option.isNone_iff_eq_none, ← ne_eq, Option.ne_none_iff_isSome] at hidentity
        exact absurd ⟨by simpa using hidle, hidentity⟩ (hN rfl)
      | false =>
        have hended : Prompt (modifyClient fun c => { c with renewing := false } : Routine options Unit) :=
          prompt_quiet (by intro c; rfl)
        have hrest : Awake base (do
            modifyClient fun c => { c with renewing := true }
            let idempotencyKey ← createId
            (ChatClient.settle (bootstrapSession idempotencyKey)).andFinally
              (modifyClient fun c => { c with renewing := false }) :
            Routine options Unit) :=
          (prompt_quiet (by intro c; rfl)).first fun _ => prompt_createId.first fun key =>
            ((awake_bootstrapSession key).settle.tryCatch fun e => hended.first fun _ =>
              (prompt_throw e).sober).bind
              fun a => hended.first fun _ => (prompt_pure a).sober
        exact hrest Bad hBad false c (fun hs => by cases hs) h

lemma awake_renewSession : Awake base (renewSession : Routine options Unit) :=
  heeds_renewSession.mono fun _ h => h.elim

lemma sober_ensureFreshSession : Sober base (ensureFreshSession : Routine options Unit) := by
  refine heeds_get fun Bad hBad still c _ h => ?_
  split
  · exact h
  · split
    · exact h
    · rename_i hstale
      cases still with
      | true => simp [(h.stays rfl).destroyed] at hstale
      | false => exact awake_renewSession.settle Bad hBad false c (fun hs => by cases hs) h

structure Commanded (base : ChatClient options) (command : Routine options α) : Prop where
  repeating : Checked base command
  commanding : Checked base (Program.tryCatch command (reauthenticate command))

lemma checked_reauthenticate {command : Routine options α} (h : Checked base command) (error : ChatError) :
    Checked base (reauthenticate command error) := by
  by_cases he : isAuthenticationError error = true
  · have hrenewal : Heeds base (fun c => ¬ Renewable c) (reauthenticate command error) := by
      rw [reauthenticate, he]
      exact heeds_renewSession.settle_bind fun _ => h
    exact hrenewal.mono fun c hc hr => hc (.refused command error he hr)
  · have hthrow : Sober base (reauthenticate command error) := by
      rw [reauthenticate, Bool.eq_false_iff.mpr he]
      exact (prompt_throw error).sober
    exact hthrow.sober

lemma commanded_request {request : Request} (ht : transports request = true) :
    Commanded base (perform request : Routine options _) := by
  have hrepeating : Checked base (perform request : Routine options _) :=
    .of_headlong (fun _ => .repeating (.request request ht)) (heeds_perform fun _ h => h.elim)
  exact ⟨hrepeating, .of_headlong (fun _ => .commanding (.request request ht))
    (heeds_perform_tryCatch (fun _ h => h.elim) (checked_reauthenticate hrepeating))⟩

lemma commanded_renewal : Commanded base (settle renewSession : Routine options Unit) := by
  have hrepeating : Checked base (settle renewSession : Routine options Unit) :=
    heeds_renewSession.settle.mono fun c hc hr => hc (.repeating (.renewal hr))
  exact ⟨hrepeating, (heeds_renewSession.settle_tryCatch (checked_reauthenticate hrepeating)).mono fun c hc hr =>
    hc (.commanding (.renewal hr))⟩

lemma sober_runAuthenticated {command : Routine options α} (h : Commanded base command) :
    Sober base (runAuthenticated command) := sober_ensureFreshSession.settle_bind fun _ => h.commanding

lemma sober_runCommand {command : Routine options α} (h : Commanded base command) :
    Sober base (runCommand command) :=
  (sober_runAuthenticated h).settle.tryCatch fun error => (prompt_raiseError error).first fun _ =>
    (prompt_throw _).sober

end Sessions

section Conversations

variable {base c : ChatClient options} {still : Bool}

lemma evolves_opening (c : ChatClient options) :
    Evolves c { c.abort.clearTimer c.reconnectTimer with
      controllers := c.abort.controllers ++ [false]
      streamAbort := some c.controllers.length } := by
  obtain ⟨habort, -⟩ := evolves_abort c
  refine ⟨?_, habort.timersSet, fun ht t hm hr => habort.tracked ht t (List.mem_of_mem_filter hm) hr⟩
  change _ ≤ (c.abort.controllers ++ [false]).length
  rw [List.length_append]
  exact Nat.le_add_right_of_le habort.controllers

lemma prompt_openStream : Prompt (openStream : Routine options Unit) := by
  refine prompt_get fun Bad base still c h => ?_
  split
  · exact ⟨rfl, h⟩
  · split
    · exact ⟨rfl, h⟩
    · rename_i hrunning
      cases still with
      | true => exact absurd (h.stays rfl).destroyed hrunning
      | false =>
        refine ⟨evolves_opening c, fun hs => (by cases hs), ?_, rfl,
          h.goes (evolves_opening c) fun hs => by cases hs⟩
        change c.controllers.length < (c.abort.controllers ++ [false]).length
        rw [List.length_append, Streams.length_abort]
        exact Nat.lt_succ_self _

lemma sober_openStream : Sober base (openStream : Routine options Unit) := prompt_openStream.sober

lemma prompt_fork {job : Job} (h : ∀ c : ChatClient options, Begins job c) :
    Prompt (.fork job : Routine options Unit) :=
  fun _ _ _ c hlater => ⟨h c, rfl, hlater⟩

lemma prompt_record (load : ℕ) (conversationId : Id) (f : Load → Load) :
    Prompt (record load conversationId f : Routine options Unit) := prompt_quiet (by intro c; rfl)

lemma sober_loading {load : ℕ} {request : Request} {conversationId : Id} {succeeds : request.Reply → Load → Load}
    (ht : transports request = true) :
    Sober base (loading load request conversationId succeeds : Routine options Unit) :=
  Heeds.tryCatch
    ((sober_runAuthenticated (commanded_request ht)).bind fun _ => (prompt_record _ _ _).sober) fun _ =>
    (prompt_record _ _ _).sober

lemma sober_getConversationAndMessages (conversationId : Id) :
    Sober base (getConversationAndMessages conversationId : Routine options _) :=
  heeds_of_get fun _ => (prompt_quiet (by intro c; rfl)).first fun _ => Prompt.first (prompt_fork fun _ => trivial)
    fun _ => Prompt.first (prompt_fork fun _ => trivial) fun _ => heeds_perform fun _ _ => rfl

lemma sober_snapshotLoaded (conversationId : Id) (conversation : ConversationService.ConversationResource)
    (messages : List MessageResource) : Sober base (do
      modifyClient fun c => { c with persisted := { c.persisted with conversationId := some conversationId } }
      dispatch (.snapshotLoaded conversation messages)
      settle persist
      openStream : Routine options Unit) :=
  (prompt_quiet (by intro c; rfl)).first fun _ => (prompt_dispatch _).first fun _ =>
    sober_persist.settle.bind fun _ =>
    sober_openStream

lemma sober_loadConversation (conversationId : Id) :
    Sober base (loadConversation conversationId : Routine options Unit) := by
  refine (sober_getConversationAndMessages conversationId).bind fun reply => heeds_of_get fun c => ?_
  split
  · exact (prompt_dispatch _).first fun _ => sober_snapshotLoaded conversationId reply.1 reply.2
  · exact sober_snapshotLoaded conversationId reply.1 reply.2

lemma sober_reload : Sober base (reload : Routine options Unit) := by
  refine heeds_of_get fun c => ?_
  split
  · exact (sober_loadConversation _).settle
  · exact (prompt_pure ()).sober

lemma sober_synchronize : Sober base (synchronize : Routine options Unit) := by
  refine heeds_of_get fun c => ?_
  split
  · exact (prompt_pure ()).sober
  · exact (sober_getConversationAndMessages _).bind fun reply => (prompt_dispatch _).sober

end Conversations

section Jobs

variable {base c : ChatClient options} {still : Bool} {stream : ℕ}

lemma evolves_reconnecting (c : ChatClient options) : Evolves c { c.setTimer .reconnect with
    reconnectTimer := some c.timersSet
    reconnectAttempt := c.reconnectAttempt + 1 } := by
  refine ⟨Nat.le_refl _, Nat.le_succ _, fun ht t hm hr => ?_⟩
  rcases List.mem_append.mp hm with hm | hm
  · exact ht t hm hr
  · rw [List.mem_singleton.mp hm] at hr
    cases hr

lemma sober_scheduleReconnect (cause : Option ChatError) :
    Sober base (scheduleReconnect cause : Routine options Unit) := by
  refine heeds_get fun Bad hBad still c _ h => ?_
  split
  · exact h
  · rename_i hrunning
    cases still with
    | true => exact absurd (h.stays rfl).destroyed hrunning
    | false =>
      have hset : Awake base (modifyClient fun c => { c.setTimer .reconnect with
          reconnectTimer := some c.timersSet
          reconnectAttempt := c.reconnectAttempt + 1 } : Routine options Unit) := by
        intro Bad hBad still c hN h
        cases still with
        | true => exact (hN rfl).elim
        | false =>
          exact ⟨evolves_reconnecting c, fun hs => (by cases hs), h.goes (evolves_reconnecting c)
            fun hs => by cases hs⟩
      cases cause with
      | none => exact (prompt_dispatch _).first (fun _ => hset) Bad hBad false c (fun hs => by cases hs) h
      | some error => exact (prompt_dispatch _).first (fun _ => hset) Bad hBad false c (fun hs => by cases hs) h

lemma Later.aborted (h : Later base still c) (hn : stream < base.controllers.length) (hs : still = true) :
    c.aborted stream = true := (h.stays hs).aborted stream (Nat.lt_of_lt_of_le hn h.evolves.controllers)

lemma sober_ended (cause : Option ChatError) : Sober base (ended stream cause : Routine options Unit) := by
  refine sober_nextTurn.bind fun _ => heeds_of_get fun c => ?_
  split
  · exact sober_scheduleReconnect cause
  · exact (prompt_pure ()).sober

lemma sober_failed (hn : stream < base.controllers.length) (error : ChatError) :
    Sober base (failed stream error : Routine options Unit) := by
  refine heeds_get fun Bad hBad still c hN h => ?_
  split
  · rename_i hactive
    cases still with
    | true => rw [h.aborted hn rfl] at hactive; cases hactive
    | false =>
      have hrest : Awake base (Program.tryCatch (do
          settle renewSession
          let c ← getClient
          if !c.aborted stream then openStream
          ended stream none) fun error => ended stream (some error) : Routine options Unit) := by
        refine (awake_renewSession.settle.bind fun _ => heeds_of_get fun c => ?_).tryCatch fun e =>
          sober_ended (some e)
        split
        · exact sober_openStream.bind fun _ => sober_ended none
        · exact sober_ended none
      exact hrest Bad hBad false c (fun hs => by cases hs) h
  · exact sober_ended (some error) Bad hBad still c hN h

lemma sober_events (hn : stream < base.controllers.length) :
    Sober base (.fork (.events stream) : Routine options Unit) :=
  fun _ _ _ _ _ h => ⟨Nat.lt_of_lt_of_le hn h.evolves.controllers, h⟩

lemma sober_streamEvents (hn : stream < base.controllers.length) (conversationId : Id) (lastEventId : Option Id) :
    Sober base (streamEvents stream conversationId lastEventId : Routine options Unit) := by
  have hconnect : Awake base (connect stream conversationId lastEventId : Routine options Unit) :=
    ((heeds_perform fun _ h => h.elim).bind fun _ => sober_events hn).tryCatch (sober_failed hn)
  refine (sober_ensureFreshSession.settle_bind fun _ => ?_).tryCatch fun e => sober_ended (some e)
  exact .of_headlong (fun _ => .connecting stream conversationId lastEventId) hconnect

lemma sober_handleEvent (event : PublicConversationEvent) :
    Sober base (handleEvent event : Routine options Unit) := by
  unfold handleEvent
  split
  · refine (prompt_quiet (by intro c; rfl)).first fun _ => (prompt_dispatch _).first fun _ => ?_
    refine (prompt_dispatch _).first fun _ => sober_synchronize.settle.bind fun _ =>
      sober_persist.settle.bind fun _ => ?_
    exact prompt_abort.first fun _ => sober_openStream
  · refine (prompt_dispatch _).first fun _ => (prompt_quiet (by intro c; rfl)).first fun _ => ?_
    split
    · exact sober_synchronize.settle.bind fun _ => sober_persist.settle.bind fun _ =>
        (prompt_quiet (by intro c; rfl)).sober
    · exact sober_persist.settle.bind fun _ => (prompt_quiet (by intro c; rfl)).sober

lemma sober_handleEvents (events : List PublicConversationEvent) :
    Sober base (events.forM fun event => settle (handleEvent event) : Routine options Unit) := by
  induction events with
  | nil => exact (prompt_pure ()).sober
  | cons event events ih => exact (sober_handleEvent event).settle.bind fun _ => ih

lemma sober_parseEvents (hn : stream < base.controllers.length) :
    Sober base (parseEvents stream : Routine options Unit) := by
  refine Heeds.tryCatch (heeds_perform_bind (fun _ _ => rfl) fun events => ?_) (sober_failed hn)
  cases events with
  | none => exact (sober_ended none).sober
  | some events => exact ((sober_handleEvents events).bind fun _ => sober_events hn).sober

lemma sober_applyExternalState (next : PersistedChatState) :
    Sober base (applyExternalState next : Routine options Unit) := by
  refine heeds_of_get fun c => (prompt_quiet (by intro c; rfl)).first fun _ => ?_
  split
  · exact (prompt_pure ()).sober
  · split
    · split
      · exact (sober_loadConversation _).settle
      · exact (prompt_abort.bind fun _ => prompt_dispatch _).sober
    · split
      · refine sober_synchronize.settle.bind fun _ => ?_
        split
        · exact (prompt_of_get fun c => prompt_dispatch _).sober
        · exact (prompt_pure ()).sober
      · exact (prompt_pure ()).sober

lemma sober_applyExternalUpdate : Sober base (applyExternalUpdate : Routine options Unit) := by
  refine sober_nextTurn.bind fun _ => heeds_of_get fun c => ?_
  split
  · exact (prompt_quiet (by intro c; rfl)).sober
  · refine (prompt_quiet (by intro c; rfl)).first fun _ => Heeds.bind ?_ fun _ =>
      Prompt.sober (prompt_fork fun _ => trivial)
    exact (sober_applyExternalState _).settle.tryCatch fun e => (prompt_raiseError e).sober

lemma obeys_body (still : Bool) (job : Job) (c : ChatClient options) (hb : guard.Begins still job c)
    (hs : still = true → guard.Still c) :
    Obeys guard (fun c request reply p => Careless c request reply p) (fun _ _ _ => True) (fun _ _ _ => True) still
      (body job) c := by
  have hbase : Later c still c := ⟨guard.refl c, hs⟩
  have hsober : Sober c (body job : Routine options Unit) := by
    cases job with
    | stream stream conversationId lastEventId => exact sober_streamEvents hb conversationId lastEventId
    | events stream => exact sober_parseEvents hb
    | getConversation load conversationId => exact sober_loading rfl
    | listMessages load conversationId => exact sober_loading rfl
    | externalUpdate => exact sober_applyExternalUpdate
  exact (hsober _ (fun _ _ _ _ hp => hp) still c (fun _ => trivial) hbase).mono (fun _ _ _ _ => trivial)
    fun _ _ _ _ => trivial

end Jobs

section Methods

variable {base c : ChatClient options}

lemma sober_retry : Sober base (retry : Routine options Unit) := by
  have hrest : Sober base (do
      modifyClient ChatClient.abort
      dispatch (.phaseChanged .bootstrapping)
      settle (runCommand (settle renewSession))
      reload : Routine options Unit) :=
    prompt_abort.first fun _ => (prompt_dispatch _).first fun _ =>
      (sober_runCommand commanded_renewal).settle.bind fun _ => sober_reload
  refine heeds_of_get fun c => ?_
  split
  · exact (prompt_throw _).first fun _ => hrest
  · exact hrest

lemma awake_starting (persisted : Option PersistedChatState) :
    Awake base (starting persisted : Routine options Unit) := by
  have hrest : Sober base (do
      settle persist
      reload : Routine options Unit) := sober_persist.settle.bind fun _ => sober_reload
  refine (prompt_quiet (by intro c; rfl)).first fun _ => prompt_createId.first fun key => ?_
  refine (awake_bootstrapSession key).settle.bind fun _ => heeds_of_get fun c => ?_
  dsimp only
  split
  · exact (prompt_dispatch _).first fun _ => hrest
  · exact hrest

lemma sober_start : Sober base (start : Routine options Unit) := by
  refine heeds_of_get fun c => ?_
  split
  · exact (prompt_pure ()).sober
  · refine (prompt_quiet (by intro c; rfl)).first fun _ => (prompt_dispatch _).first fun _ =>
      Heeds.tryCatch ?_ fun e =>
      (prompt_raiseError e).first fun _ => (prompt_throw _).sober
    exact heeds_perform_bind (fun _ _ => rfl) fun persisted =>
      .of_headlong (fun _ => .starting persisted) (awake_starting persisted)

lemma sober_created (conversation : ConversationService.ConversationResource) : Sober base (do
    modifyClient fun c => { c with
      persisted := { c.persisted.withoutCursor with conversationId := some conversation.conversationId } }
    dispatch .cursorCleared
    dispatch (.snapshotLoaded conversation [])
    settle persist
    openStream
    return conversation : Routine options _) :=
  (prompt_quiet (by intro c; rfl)).first fun _ => (prompt_dispatch _).first fun _ =>
    (prompt_dispatch _).first fun _ =>
    sober_persist.settle.bind fun _ => sober_openStream.bind fun _ => (prompt_pure _).sober

lemma sober_createConversation : Sober base (createConversation : Routine options _) := by
  refine prompt_requireStarted.first fun _ => prompt_createId.first fun key => ?_
  refine (sober_runCommand (commanded_request rfl)).settle.bind fun conversation => heeds_of_get fun c => ?_
  split
  · exact (prompt_dispatch _).first fun _ => sober_created conversation
  · exact sober_created conversation

lemma sober_selectConversation (conversationId : Id) :
    Sober base (selectConversation conversationId : Routine options Unit) := by
  refine prompt_requireStarted.first fun _ => heeds_of_get fun c => ?_
  split
  · exact (prompt_quiet (by intro c; rfl)).first fun _ => (prompt_dispatch _).first fun _ =>
      (sober_loadConversation conversationId).settle
  · exact (sober_loadConversation conversationId).settle

lemma sober_command {request : ConversationService.ConversationResource → Id → Request}
    {next : (conversation : ConversationService.ConversationResource) → (key : Id) →
      (request conversation key).Reply →
      Routine options α} (ht : ∀ conversation key, transports (request conversation key) = true)
    (hn : ∀ conversation key reply, Sober base (next conversation key reply)) : Sober base (do
      let conversation ← requireConversation
      let key ← createId
      let reply ← settle (runCommand (perform (request conversation key)))
      next conversation key reply) :=
  prompt_requireConversation.first fun conversation => prompt_createId.first fun key =>
    (sober_runCommand (commanded_request (ht conversation key))).settle.bind fun reply => hn conversation key reply

lemma sober_sendMessage (parts : List String) : Sober base (sendMessage parts : Routine options _) :=
  sober_command (fun _ _ => rfl) fun _ _ _ => (prompt_dispatch _).first fun _ => sober_openStream.bind fun _ =>
    (prompt_pure _).sober

lemma sober_createEmailHandoff (email : String) : Sober base (createEmailHandoff email : Routine options _) :=
  sober_command (fun _ _ => rfl) fun _ _ _ => sober_openStream.bind fun _ => (prompt_pure _).sober

lemma sober_cancel : Sober base (cancel : Routine options _) :=
  sober_command (fun _ _ => rfl) fun _ _ _ => (prompt_dispatch _).first fun _ => (prompt_pure _).sober

lemma sober_retryRun : Sober base (retryRun : Routine options Unit) :=
  sober_command (fun _ _ => rfl) fun _ _ _ => (prompt_dispatch _).first fun _ => sober_openStream

lemma sober_submitted (conversationId requestId : Id) (value : Option String) : Sober base (do
    let idempotencyKey ← createId
    let result : StructuredInputService.InputResource ←
      settle (runCommand (perform (.submitStructuredInput conversationId requestId value idempotencyKey)))
    dispatch (.structuredInputSubmitted requestId)
    openStream
    return result : Routine options _) :=
  prompt_createId.first fun _ => (sober_runCommand (commanded_request rfl)).settle.bind fun _ =>
    (prompt_dispatch _).first fun _ => sober_openStream.bind fun _ => (prompt_pure _).sober

lemma sober_submitStructuredInput (requestId : Id) (value : Option String) :
    Sober base (submitStructuredInput requestId value : Routine options _) := by
  refine prompt_requireConversation.first fun _ => heeds_of_get fun c => ?_
  split
  · exact (prompt_throw _).first fun _ => sober_submitted _ requestId value
  · exact sober_submitted _ requestId value

lemma sober_recoverActiveSession : Sober base (recoverActiveSession : Routine options Unit) := by
  refine sober_ensureFreshSession.settle.bind fun _ => heeds_of_get fun c => ?_
  split
  · exact sober_openStream
  · exact (prompt_pure ()).sober

end Methods

section Stimuli

variable {base : ChatClient options}

lemma evolves_clearTimer (c : ChatClient options) (timer : Option ℕ) : Evolves c (c.clearTimer timer) :=
  ⟨Nat.le_refl _, Nat.le_refl _, fun ht t hm hr => ht t (List.mem_of_mem_filter hm) hr⟩

lemma still_clearTimer {c : ChatClient options} (h : Still c) (timer : Option ℕ) : Still (c.clearTimer timer) :=
  ⟨h.destroyed, by rw [ChatClient.clearTimer, h.timers]; rfl, h.aborted⟩

lemma sober_destroy : Sober base (destroy : Routine options Unit) := by
  intro Bad hBad still c _ h
  have hdestroyed : Evolves c { (c.abort.clearTimer c.reconnectTimer).clearTimer c.renewalTimer with
      destroyed := true } := by
    have hcleared := ((evolves_abort c).1.trans (evolves_clearTimer _ c.reconnectTimer)).trans
      (evolves_clearTimer _ c.renewalTimer)
    exact ⟨hcleared.controllers, hcleared.timersSet, hcleared.tracked⟩
  have hstays : still = true → Still { (c.abort.clearTimer c.reconnectTimer).clearTimer c.renewalTimer with
      destroyed := true } := by
    intro hs
    have hstill := still_clearTimer (still_clearTimer ((evolves_abort c).2 (h.stays hs)) c.reconnectTimer)
      c.renewalTimer
    exact ⟨rfl, hstill.timers, hstill.aborted⟩
  exact ⟨hdestroyed, hstays, h.goes hdestroyed hstays⟩

lemma sober_due (timer : ℕ) : Sober base (reaction (.due timer) : Routine options Unit) := by
  refine heeds_get fun Bad hBad still c _ h => ?_
  split
  · exact h
  · rename_i callback hfound
    cases still with
    | true =>
      rw [(h.stays rfl).timers] at hfound
      cases hfound
    | false =>
      have hcleared := evolves_clearTimer c (some timer)
      have hlater : Later base false (c.clearTimer (some timer)) := h.goes hcleared fun hs => by cases hs
      refine ⟨hcleared, fun hs => (by cases hs), ?_⟩
      cases callback with
      | reconnect => exact sober_openStream Bad hBad false _ (fun hs => by cases hs) hlater
      | renewal =>
        have hrenewal : Awake base (Program.tryCatch (settle renewSession) raiseError : Routine options Unit) :=
          awake_renewSession.settle.tryCatch fun e => (prompt_raiseError e).sober
        exact hrenewal Bad hBad false _ (fun hs => by cases hs) hlater

lemma sober_stored (next : Option PersistedChatState) :
    Sober base (reaction (.stored next) : Routine options Unit) := by
  refine heeds_of_get fun c => ?_
  split
  · exact (prompt_pure ()).sober
  · split
    · exact (prompt_pure ()).sober
    · refine (prompt_quiet (by intro c; rfl)).first fun _ => ?_
      split
      · exact Prompt.sober (prompt_fork fun _ => trivial)
      · exact (prompt_pure ()).sober

lemma sober_recovered : Sober base (reaction .recovered : Routine options Unit) := by
  refine heeds_of_get fun c => ?_
  split
  · exact sober_recoverActiveSession.settle.tryCatch fun e => (prompt_raiseError e).sober
  · exact (prompt_pure ()).sober

lemma sober_reaction (stimulus : Stimulus) : Sober base (reaction stimulus : Routine options Unit) := by
  cases stimulus with
  | start => exact sober_start
  | createConversation => exact sober_createConversation.discard
  | selectConversation conversationId => exact sober_selectConversation conversationId
  | sendMessage parts => exact (sober_sendMessage parts).discard
  | createEmailHandoff email => exact (sober_createEmailHandoff email).discard
  | cancel => exact sober_cancel.discard
  | submitStructuredInput requestId value => exact (sober_submitStructuredInput requestId value).discard
  | retryRun => exact sober_retryRun
  | retry => exact sober_retry
  | destroy => exact sober_destroy
  | stored next => exact sober_stored next
  | recovered => exact sober_recovered
  | due timer => exact sober_due timer
  | clock now => exact (prompt_quiet (by intro c; rfl)).sober

end Stimuli

section Runs

open Streams Transition

abbrev careless : Exclusion options Unit := fun c request reply p => Careless c request reply p

/-- The reply, if it comes to a task that waits for it, is not careless. -/
def Careful (r : Running options) : Action → Prop
  | .happens _ => True
  | .answers task request reply => r.state.admissible request reply = true → ∀ origin p,
      r.tasks[task]? = some (origin, p) → p.awaited = some request → ¬ Careless r.state request reply p

/-- No timer is pending after the step. Every request to the transport that is awaited was awaited before, and
not by the task that got a reply. -/
structure Quiet (r : Running options) (a : Action) : Prop where
  timers : (step r a).state.timers = []
  silent : Traced.Silent guard r (step r a)
  answered : ∀ task request reply before after, a = .answers task request reply → r.tasks[task]? = some before →
    before.2.awaited = some request → r.state.admissible request reply = true →
    (step r a).tasks[task]? = some after → Unguarded guard after.2

variable {r : Running options} {still : Bool}

lemma step_answers {task : ℕ} {request : Request} {reply : Except ChatError request.Reply}
    (h : r.state.admissible request reply = true) :
    step r (.answers task request reply) = r.resume body task request reply := if_pos h

lemma step_refused {task : ℕ} {request : Request} {reply : Except ChatError request.Reply}
    (h : ¬ r.state.admissible request reply = true) : step r (.answers task request reply) = r := if_neg h

lemma passes_step (h : r.Steady guard careless) (a : Action) (hs : still = true → Still r.state ∧ Careful r a) :
    r.Passes guard careless still (step r a) := by
  cases a with
  | happens stimulus =>
    refine Traced.passes_invoke obeys_body h (fun hstill => (hs hstill).1) ?_
    have hbase : Later r.state still r.state := ⟨guard.refl _, fun hstill => (hs hstill).1⟩
    exact (sober_reaction stimulus _ (fun _ _ _ _ hp => hp) still _ (fun _ => trivial) hbase).mono
      (fun _ _ _ _ => trivial) fun _ _ _ _ => trivial
  | answers task request reply =>
    by_cases hadmissible : r.state.admissible request reply = true
    · rw [step_answers hadmissible]
      exact Traced.passes_resume obeys_body h task request reply fun hstill =>
        ⟨(hs hstill).1, (hs hstill).2 hadmissible⟩
    · rw [step_refused hadmissible]
      exact ⟨guard.refl _, fun hstill => (hs hstill).1, h, fun _ _ _ hn _ => hn⟩

lemma steady_run (options : ChatClientOptions) (actions : List Action) :
    (run options actions).Steady guard careless ∧ Tracked (run options actions).state := by
  have hbegun : (begun options).Steady guard careless ∧ Tracked (begun options).state :=
    ⟨fun task hm => absurd hm List.not_mem_nil, fun t hm => absurd hm List.not_mem_nil⟩
  have hstep : ∀ (r : Running options) a, r.Steady guard careless ∧ Tracked r.state →
      (step r a).Steady guard careless ∧ Tracked (step r a).state := by
    rintro r a ⟨hsteady, htracked⟩
    have hpasses : r.Passes guard careless false (step r a) := passes_step hsteady a fun hs => by cases hs
    exact ⟨hpasses.steady, hpasses.evolves.tracked htracked⟩
  exact @Transition.invariant _ _ _ _ (fun r : Running options => r.Steady guard careless ∧ Tracked r.state) hbegun
    hstep actions

lemma still_destroyed {live : List ℕ} (hc : Coherent r.state live) (ht : Tracked r.state) :
    Still (step r (.happens .destroy)).state := by
  refine ⟨rfl, ?_, fun n hn => ?_⟩
  · change ((r.state.abort.clearTimer r.state.reconnectTimer).clearTimer r.state.renewalTimer).timers = []
    refine List.eq_nil_iff_forall_not_mem.mpr fun timer hm => ?_
    obtain ⟨hreconnect, hrenewal⟩ := List.mem_filter.mp hm
    obtain ⟨hm, hreconnect⟩ := List.mem_filter.mp hreconnect
    rw [(timers_abort r.state).1] at hm
    cases hkind : timer.2 with
    | reconnect => exact of_decide_eq_true hreconnect (hc.reconnect timer hm hkind).symm
    | renewal => exact of_decide_eq_true hrenewal (ht timer hm hkind).symm
  · change n < r.state.abort.controllers.length at hn
    change r.state.abort.controllers.getD n false = true
    rw [length_abort] at hn
    rw [List.getD_eq_getElem?_getD, abort_getElem hc.latest hn]
    rfl

/-- A client that is destroyed sets no timer and issues no request in a run without careless replies. -/
theorem destroyed_client_quiet (options : ChatClientOptions) (before after : List Action)
    (hcareful : Along step Careful (run options (before ++ [.happens .destroy])) after) :
    (run options (before ++ [.happens .destroy])).state.timers = [] ∧
      Along step Quiet (run options (before ++ [.happens .destroy])) after := by
  obtain ⟨hsteady, htracked⟩ := steady_run options before
  have hstill : Still (run options (before ++ [.happens .destroy])).state := by
    rw [run, exec_append]
    exact still_destroyed (sound_run options before).holds htracked
  refine ⟨hstill.timers, ?_⟩
  have hbegun := (steady_run options (before ++ [.happens .destroy])).1
  have hstep : ∀ (r : Running options) a, r.Steady guard careless ∧ Still r.state → Careful r a →
      ((step r a).Steady guard careless ∧ Still (step r a).state) ∧ Quiet r a := by
    rintro r a ⟨hsteady, hstill⟩ hcareful
    have hpasses : r.Passes guard careless true (step r a) := passes_step hsteady a fun _ => ⟨hstill, hcareful⟩
    have hsilent := hpasses.silent rfl
    refine ⟨⟨hpasses.steady, hpasses.stays rfl⟩, (hpasses.stays rfl).timers, hsilent, ?_⟩
    rintro task request reply before after rfl hbefore hrequest hadmissible hafter
    rw [step_answers hadmissible] at hafter hsilent
    exact hsilent.answered hbefore hrequest hafter
  exact @Along.achieves _ _ _ _ _ (fun r : Running options => r.Steady guard careless ∧ Still r.state) _ _ hcareful
    ⟨hbegun, hstill⟩ hstep

def Stirred (c : ChatClient options) (request : Request) (reply : Except ChatError request.Reply) :
    Option (Option Job × Routine options Unit) → Prop
  | some (_, .await request' next) => if h : request = request' then Stirs (next (h ▸ reply)) c else False
  | _ => False

def Stirring (r : Running options) : Action → Prop
  | .happens _ => False
  | .answers task request reply =>
    r.state.admissible request reply = true ∧ Stirred r.state request reply r.tasks[task]?

theorem stirring_of_not_careful {a : Action} (h : ¬ Careful r a) : Stirring r a := by
  cases a with
  | happens stimulus => exact absurd trivial h
  | answers task request reply =>
    simp only [Careful, not_forall, not_not] at h
    obtain ⟨hadmissible, origin, p, htask, -, hcareless⟩ := h
    obtain ⟨next, rfl, hstirs⟩ := careless_stirs hcareless
    refine ⟨hadmissible, ?_⟩
    rw [htask, Stirred, dif_pos rfl]
    exact hstirs

end Runs

section Scenario

open Streams Transition

instance decidableStirs : (p : Routine options α) → (c : ChatClient options) → Decidable (Stirs p c)
  | .pure _, _ | .throw _, _ => instDecidableFalse
  | .update write next, c => @instDecidableOr (c.timersSet < (write c).timersSet) _ (Nat.decLt _ _)
      (decidableStirs (next (write c)) (write c))
  | .start _ next, c => decidableStirs next c
  | .await request _, _ => instDecidableEqBool (transports request) true

instance decidableStirred (c : ChatClient options) (request : Request) (reply : Except ChatError request.Reply) :
    (task : Option (Option Job × Routine options Unit)) → Decidable (Stirred c request reply task)
  | some (_, .await request' next) =>
      inferInstanceAs (Decidable (if h : request = request' then Stirs (next (h ▸ reply)) c else False))
  | some (_, .pure _) | some (_, .throw _) | some (_, .update ..) | some (_, .start ..) | none =>
    instDecidableFalse

instance decidableStirring (r : Running options) : (a : Action) → Decidable (Stirring r a)
  | .happens _ => instDecidableFalse
  | .answers task request reply => inferInstanceAs
      (Decidable (r.state.admissible request reply = true ∧ Stirred r.state request reply r.tasks[task]?))

def aborting : List Action := [
  .answers 4 (.connect 0 "c" none) (.error (.error "This operation was aborted")), turn 4, .happens (.due 0),
  .answers 5 (.cancel "c" "key") (.error (.error "Failed to fetch")), turn 5, turn 5, .happens .recovered, turn 6]

theorem aborted_stream_quiet :
    (run plain (connecting ++ [.happens .cancel, turn 5] ++ [.happens .destroy])).state.timers = [] ∧
    Along step Quiet (run plain (connecting ++ [.happens .cancel, turn 5] ++ [.happens .destroy])) aborting := by
  have hquiet : Along step (fun r a => ¬ Stirring r a)
      (run plain (connecting ++ [.happens .cancel, turn 5] ++ [.happens .destroy])) aborting := by decide +kernel
  exact destroyed_client_quiet plain (connecting ++ [.happens .cancel, turn 5]) aborting
    (hquiet.mono fun r a hcalm => by_contra fun hcareless => hcalm (stirring_of_not_careful hcareless))

def calls : Stimulus → Bool
  | .stored _ | .recovered | .due _ | .clock _ => false
  | _ => true

def bootstrapping : List Action := [
  .answers 0 (.bootstrap none "key") (.ok ⟨⟨"t", "s", "p", "session", 1000000⟩, some "browser"⟩),
  .answers 0 (saved none none none) (.ok ()), turn 0]

def loading : List Action := [.happens .start, .answers 0 .load (.ok none)]

/-- A renewal timer is set for a destroyed client, and `cancel` is requested in the turn after `cancel` and
`destroy` are called. -/
theorem renewal_outlives_client :
    (run plain (loading ++ .happens .destroy :: bootstrapping)).state.timers = [(0, .renewal)] ∧
      ((run plain (connecting ++ [.happens .cancel, .happens .destroy, turn 5])).tasks[5]?.bind fun task =>
        task.2.awaited) = some (.cancel "c" "key") ∧
      ¬ ∀ (options : ChatClientOptions) (before after : List Action),
        (∀ stimulus, Action.happens stimulus ∈ after → calls stimulus = false) →
        (run options (before ++ [.happens .destroy])).state.timers = [] ∧
          Along step Quiet (run options (before ++ [.happens .destroy])) after := by
  have htimers : (run plain (loading ++ .happens .destroy :: bootstrapping)).state.timers = [(0, .renewal)] := by
    decide +kernel
  refine ⟨htimers, by decide +kernel, fun h => ?_⟩
  obtain ⟨-, hfirst, hsecond, hquiet, -⟩ := h plain loading bootstrapping fun stimulus hm => by
    simp [bootstrapping, turn] at hm
  have hstate : (run plain (loading ++ .happens .destroy :: bootstrapping)).state.timers = [] := hquiet.timers
  rw [htimers] at hstate
  cases hstate

end Scenario

end ChatCore.Client.Destruction
