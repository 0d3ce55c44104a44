import ChatCore.Runs.Closing

namespace ChatCore.Runs

open Protocol Relational Database Services

namespace Phase

def appends : Phase → Bool
  | .appending .. => true
  | _ => false

def reads : Phase → Bool
  | .loading | .pulling _ | .received .. | .materializing .. | .appending .. => true
  | _ => false

end Phase

namespace Life

variable {s : State} {runId : Id} {a : Action} {l l' : Life} {i : ℕ} {e e' : Execution}

section Terminal

/-- Events are appended only by the execution of the latest claim, and nobody claims the run when its terminal
event has been appended. -/
def EndsOnce (s : State) (runId : Id) (l : Life) : Action → Prop
  | .work i _ => ∀ e ∈ l.executions i, e.phase.appends = true → ∀ r ∈ l.run, e.run.attempt = r.attempt
  | .claim process options order now resolved => s.Claims runId (.claim process options order now resolved) →
      ∀ p ∈ l.appended, p.event.body.terminal = false
  | _ => True

instance (s : State) (runId : Id) (process : ℕ) (options : RunWorker.Options) (order : Arrangement AgentRun)
    (now : Timestamp) (resolved : Bool) : Decidable (s.Claims runId (.claim process options order now resolved)) :=
  match h : ((RunWorker.claim options order now).run s.db).1 with
  | .ok (some r) =>
      if hid : r.runId = runId then .isTrue ⟨r, h, hid⟩
      else .isFalse fun ⟨r', hr', hid'⟩ => hid (by cases h.symm.trans hr'; exact hid')
  | .ok none => .isFalse fun ⟨r', hr', _⟩ => by cases h.symm.trans hr'
  | .error _ => .isFalse fun ⟨r', hr', _⟩ => by cases h.symm.trans hr'

instance (s : State) (runId : Id) (l : Life) : (a : Action) → Decidable (l.EndsOnce s runId a)
  | .work i _ => inferInstanceAs (Decidable (∀ e ∈ l.executions i, _ → ∀ r ∈ l.run, e.run.attempt = r.attempt))
  | .claim process options order now resolved => inferInstanceAs (Decidable (
      s.Claims runId (.claim process options order now resolved) → ∀ p ∈ l.appended,
        p.event.body.terminal = false))
  | .visit .. | .sweep .. | .request .. | .signal .. | .renew .. | .loseHeartbeat _ => .isTrue trivial

def Ends (appended : List EventStore.PersistedEvent) : Prop :=
  appended.Pairwise fun p q => p.event.body.terminal = false ∧ p.sequence < q.sequence

lemma Ends.count {appended : List EventStore.PersistedEvent} (h : Ends appended) :
    (appended.filter fun p => p.event.body.terminal).length ≤ 1 := by
  induction appended with
  | nil => exact Nat.zero_le 1
  | cons p appended ih =>
    obtain ⟨hp, happended⟩ := List.pairwise_cons.mp h
    by_cases ht : p.event.body.terminal = true
    · have hnil : appended = [] := by
        cases appended with
        | nil => rfl
        | cons q appended =>
          have hfalse := (hp q (List.mem_cons_self ..)).1
          rw [ht] at hfalse
          cases hfalse
      rw [hnil, List.filter_cons, if_pos ht]
      exact Nat.le_refl 1
    · rw [List.filter_cons, if_neg ht]
      exact ih happended

lemma Ends.last {appended : List EventStore.PersistedEvent} (h : Ends appended) {p q : EventStore.PersistedEvent}
    (hp : p ∈ appended) (ht : p.event.body.terminal = true) (hq : q ∈ appended) : q.sequence ≤ p.sequence := by
  induction appended with
  | nil => cases hp
  | cons x appended ih =>
    obtain ⟨hx, happended⟩ := List.pairwise_cons.mp h
    rcases List.mem_cons.mp hp with rfl | hp'
    · rcases List.mem_cons.mp hq with rfl | hq'
      · exact Nat.le_refl _
      · have hfalse := (hx q hq').1
        rw [ht] at hfalse
        cases hfalse
    · rcases List.mem_cons.mp hq with rfl | hq'
      · exact Nat.le_of_lt (hx p hp').2
      · exact ih happended hp' hq'

structure Logged (l : Life) : Prop where
  ends : Ends l.appended
  quiet : (∃ p ∈ l.appended, p.event.body.terminal = true) → ∀ (i : ℕ) (e : Execution) (r : AgentRun),
    l.executions i = some e → l.run = some r → e.run.attempt = r.attempt → e.phase.reads = false

lemma Logged.put (h : l.Logged) (hi : l.executions i = some e) (hr : e'.run = e.run)
    (hw : e'.phase.reads = true → e.phase.reads = true) : (l.put i e').Logged where
  ends := h.ends
  quiet := by
    intro ht j x r hx hrun hattempt
    by_cases hj : j = i
    · subst hj
      rw [put_executions_self, Option.some.injEq] at hx
      subst hx
      have hquiet := h.quiet ht j e r hi hrun (hr ▸ hattempt)
      exact Bool.eq_false_of_not_eq_true fun hreads => Bool.false_ne_true (hquiet.symm.trans (hw hreads))
    · exact h.quiet ht j x r ((put_executions_ne hj).symm.trans hx) hrun hattempt

lemma Logged.amend (h : l.Logged) (happended : l'.appended = l.appended)
    (hexecutions : l'.executions = l.executions)
    (hrun : ∀ r', l'.run = some r' → ∃ r, l.run = some r ∧ r'.attempt = r.attempt) : l'.Logged where
  ends := happended ▸ h.ends
  quiet := by
    rw [happended, hexecutions]
    intro ht j x r' hx hr' hattempt
    obtain ⟨r, hr, hsame⟩ := hrun r' hr'
    exact h.quiet ht j x r hx hr (hattempt.trans hsame)

lemma reads_reaction {signal : Signal} {phase : Phase} (h : e.Reaction signal phase) (hw : phase.reads = true) :
    e.phase.reads = true := by
  cases h with
  | same => exact hw
  | received h =>
    rw [h]
    rfl
  | faults =>
    split at hw <;> cases hw
  | ended | cancelsAtEnd | thrown | cancelThrows | cleanUpThrows | cancelled | returned | cancelsInHandler
  | handles | crashes => cases hw

lemma reads_answered {answer : Bool} (h : e.Answered answer e') (hw : e'.phase.reads = true) :
    e.phase.reads = true := by
  cases h with
  | cancels | stops | fails => cases hw
  | accepts context value event hp =>
    rw [hp]
    rfl

theorem Logged.step (hs : l.Sound) (hc : l.EndsOnce s runId a) (h : l.Logged) (hstep : Step s runId a l l') :
    l'.Logged := by
  cases hstep with
  | idle => exact h
  | redacted | pruned => exact { h with }
  | created r handoffs inputs hr he ha =>
    refine ⟨ha ▸ List.Pairwise.nil, fun _ i e r' hi => ?_⟩
    exact absurd ((he i).symm.trans hi) (Option.some_ne_none e).symm
  | forgotten => exact ⟨h.ends, fun _ i e r hi hr => absurd hr (Option.some_ne_none r).symm⟩
  | cancelled r now hr =>
    refine h.amend rfl rfl fun r' hr' => ?_
    cases hr'
    exact ⟨r, hr, attempt_decided now r⟩
  | resumed r i request now hr =>
    refine h.amend rfl rfl fun r' hr' => ?_
    cases hr'
    exact ⟨r, hr, rfl⟩
  | renewed i e r hi hr =>
    refine h.amend rfl rfl fun r' hr' => ?_
    cases hr'
    exact ⟨r, hr, rfl⟩
  | claimed r i e hr hs' =>
    refine ⟨h.ends, ?_⟩
    rintro ⟨p, hp, ht⟩
    rw [hc hs' p hp] at ht
    cases ht
  | aborted i e hi => exact h.put hi rfl id
  | signalled i e hi hr => exact h.put hi rfl (reads_reaction hr)
  | failed i e hi hcalls =>
    refine h.put hi rfl fun hreads => ?_
    change Phase.reads (if _ then _ else _) = true at hreads
    split at hreads <;> cases hreads
  | loaded i e hi hp => exact h.put hi rfl fun _ => by rw [hp]; rfl
  | answered i e e' r hi hp hr ha => exact h.put hi ha.run (reads_answered ha)
  | materialized i e hi hp hm =>
    obtain ⟨hrun, hexecutions, happended, -⟩ := hm.same
    have hlogged : Logged _ := h.amend happended hexecutions fun r' hr' => ⟨r', hrun ▸ hr', rfl⟩
    rw [← hexecutions] at hi
    exact Logged.put hlogged hi rfl fun _ => by rw [hp]; rfl
  | @wrote draw write place _ i e hi hp hw =>
    have hlogged : (l.effect e.now write).Logged := by
      refine h.amend ?_ (effect_executions write) fun r' hr' => effect_run write hr'
      cases write <;> rfl
    have hexecutions : (l.effect e.now write).executions = l.executions := effect_executions write
    rw [← hexecutions] at hi
    refine Logged.put hlogged hi rfl fun hreads => ?_
    change Phase.reads (if _ then _ else _) = true at hreads
    split at hreads <;> cases hreads
  | @appended draw context event _ i e r events p hi hp hr hv he hn hs' =>
    have hattempt : e.run.attempt = r.attempt := hc e hi (by rw [hp]; rfl) r hr
    have hopen : ∀ q ∈ l.appended, q.event.body.terminal = false := by
      refine fun q hq => Bool.eq_false_of_not_eq_true fun ht => ?_
      have hfalse := h.quiet ⟨q, hq, ht⟩ i e r hi hr hattempt
      rw [hp] at hfalse
      cases hfalse
    refine ⟨List.pairwise_append.mpr ⟨h.ends, List.pairwise_singleton .., fun q hq q' hq' => ?_⟩, ?_⟩
    · rw [List.mem_singleton.mp hq']
      exact ⟨hopen q hq, hn q hq⟩
    · rintro ⟨q, hq, ht⟩ j x r' hx hr' hx'
      have hterminal : event.body.terminal = true := by
        rcases List.mem_append.mp hq with hq | hq
        · rw [hopen q hq] at ht
          cases ht
        · rw [List.mem_singleton.mp hq, he] at ht
          exact ht
      cases hr.symm.trans hr'
      by_cases hj : j = i
      · subst hj
        rw [put_executions_self, Option.some.injEq] at hx
        subst hx
        change (Execution.afterAppend context event.body).reads = false
        cases hbody : event.body <;> rw [hbody] at hterminal <;> first | rfl | cases hterminal
      · rw [put_executions_ne hj] at hx
        exact absurd (hs.apart j i x e hx hi (hx'.trans hattempt.symm)) hj

end Terminal

section Canonical

def Backed (l : Life) (messageId : Option Id) : EventBody → Prop
  | .messageStarted => ∃ m, l.message = some m ∧ messageId = some m.messageId
  | .messageCompleted _ =>
    ∃ m, l.message = some m ∧ messageId = some m.messageId ∧ m.status = .completed ∧ m.parts ≠ []
  | .handoffRequested handoffId | .handoffCompleted handoffId => ∃ h ∈ l.handoffs, h.handoffId = handoffId
  | .contactRequested requestId _ _ => ∃ i ∈ l.inputs, i.requestId = requestId
  | _ => True

structure Grows (l l' : Life) : Prop where
  message : ∀ m, l.message = some m → ∃ m', l'.message = some m' ∧ m'.messageId = m.messageId ∧
    (m.status = .completed → m.parts ≠ [] → m'.status = .completed ∧ m'.parts ≠ [])
  handoffs : ∀ h ∈ l.handoffs, ∃ h' ∈ l'.handoffs, h'.handoffId = h.handoffId
  inputs : ∀ i ∈ l.inputs, ∃ i' ∈ l'.inputs, i'.requestId = i.requestId

lemma grows_same (hm : l'.message = l.message) (hh : l'.handoffs = l.handoffs) (hi : l'.inputs = l.inputs) :
    l.Grows l' where
  message := fun m h => ⟨m, hm.trans h, rfl, fun hs hp => ⟨hs, hp⟩⟩
  handoffs := fun h hm => ⟨h, hh ▸ hm, rfl⟩
  inputs := fun i hm => ⟨i, hi ▸ hm, rfl⟩

lemma Backed.grow {messageId : Option Id} {body : EventBody} (h : l.Backed messageId body) (hg : l.Grows l') :
    l'.Backed messageId body := by
  cases body
  case messageStarted =>
    obtain ⟨m, hm, hid⟩ := h
    obtain ⟨m', hm', hsame, -⟩ := hg.message m hm
    exact ⟨m', hm', hsame ▸ hid⟩
  case messageCompleted parts =>
    obtain ⟨m, hm, hid, hs, hp⟩ := h
    obtain ⟨m', hm', hsame, hcompleted⟩ := hg.message m hm
    exact ⟨m', hm', hsame ▸ hid, hcompleted hs hp⟩
  case handoffRequested handoffId =>
    obtain ⟨x, hx, rfl⟩ := h
    exact hg.handoffs x hx
  case handoffCompleted handoffId =>
    obtain ⟨x, hx, rfl⟩ := h
    exact hg.handoffs x hx
  case contactRequested requestId prompt required =>
    obtain ⟨x, hx, rfl⟩ := h
    exact hg.inputs x hx
  all_goals trivial

structure Canonical (l : Life) : Prop where
  events : l.run ≠ none → ∀ x ∈ l.events, l.Backed x.messageId x.body
  next : l.run ≠ none → ∀ (i : ℕ) (e : Execution) (context : RunWorker.RunContext) (event : ConnectorEvent),
    l.executions i = some e → e.phase = .appending context event → l.Backed event.messageId event.body

lemma Canonical.grow (h : l.Canonical) (hg : l.Grows l') (hr : l'.run ≠ none → l.run ≠ none)
    (hv : ∀ x ∈ l'.events, x ∈ l.events) (he : l'.executions = l.executions) : l'.Canonical where
  events := fun hrun x hx => (h.events (hr hrun) x (hv x hx)).grow hg
  next := fun hrun i e context event hi hp => (h.next (hr hrun) i e context event (he ▸ hi) hp).grow hg

lemma Canonical.put (h : l.Canonical) (hp : ∀ context event, e'.phase = .appending context event →
    l.run ≠ none → l.Backed event.messageId event.body) : (l.put i e').Canonical where
  events := h.events
  next := by
    intro hrun j x context event hx hphase
    by_cases hj : j = i
    · subst hj
      rw [put_executions_self, Option.some.injEq] at hx
      subst hx
      exact hp context event hphase hrun
    · exact h.next hrun j x context event ((put_executions_ne hj).symm.trans hx) hphase

lemma grows_materialized {run : AgentRun} {now : Timestamp} {participantId : Id} {body : EventBody}
    (hparts : ∀ parts, body = .messageCompleted parts → parts ≠ [])
    (hm : Materialized run now participantId body l l') : l.Grows l' := by
  have hawaited : ∀ y : Handoff, ∀ x ∈ l.handoffs, ∃ x' ∈ Runs.amend (fun s => decide (s.handoffId = y.handoffId))
      (RunWorker.awaitContact now) l.handoffs, x'.handoffId = x.handoffId :=
    fun y x hx => mem_amend Handoff.handoffId (RunWorker.awaitContact now) (fun _ => rfl) hx
  cases hm with
  | resumed | requestedAgain | orphan | nothing => exact grows_same rfl rfl rfl
  | started sequence habsent =>
    exact ⟨fun m hm => absurd (habsent.symm.trans hm) (Option.some_ne_none m).symm, fun x hx => ⟨x, hx, rfl⟩,
      fun x hx => ⟨x, hx, rfl⟩⟩
  | completed parts m hfind =>
    refine ⟨fun m' hm' => ⟨_, rfl, ?_, fun _ _ => ⟨rfl, hparts parts rfl⟩⟩, fun x hx => ⟨x, hx, rfl⟩,
      fun x hx => ⟨x, hx, rfl⟩⟩
    cases hfind.symm.trans hm'
    rfl
  | requested handoffId hnil =>
    refine ⟨fun m hm => ⟨m, hm, rfl, fun hs hp => ⟨hs, hp⟩⟩, fun x hx => ?_, fun x hx => ⟨x, hx, rfl⟩⟩
    rw [hnil] at hx
    cases hx
  | askedAgain x prompt required y =>
    exact ⟨fun m hm => ⟨m, hm, rfl, fun hs hp => ⟨hs, hp⟩⟩, hawaited y, fun x hx => ⟨x, hx, rfl⟩⟩
  | asked requestId prompt required y =>
    exact ⟨fun m hm => ⟨m, hm, rfl, fun hs hp => ⟨hs, hp⟩⟩, hawaited y,
      fun x hx => ⟨x, List.mem_append_left _ hx, rfl⟩⟩
  | finished y =>
    exact ⟨fun m hm => ⟨m, hm, rfl, fun hs hp => ⟨hs, hp⟩⟩,
      fun x hx => mem_amend Handoff.handoffId (RunWorker.finishHandoff now) (fun _ => rfl) hx,
        fun x hx => ⟨x, hx, rfl⟩⟩

lemma backed_materialized {run : AgentRun} {now : Timestamp} {participantId : Id} {event : ConnectorEvent}
    (hmessage : event.body.requiresMessageId = true → event.messageId = some run.assistantMessageId)
    (hparts : ∀ parts, event.body = .messageCompleted parts → parts ≠ [])
    (hanswer : ∀ m, l.message = some m → m.messageId = run.assistantMessageId) (hr : l.run ≠ none)
    (hm : Materialized run now participantId event.body l l') : l'.Backed event.messageId event.body := by
  generalize hbody : event.body = body at hm
  rw [hbody] at hmessage hparts
  cases hm with
  | resumed m hfind => exact ⟨m, hfind, by rw [hmessage rfl, hanswer m hfind]⟩
  | started sequence habsent => exact ⟨_, rfl, hmessage rfl⟩
  | completed parts m hfind => exact ⟨_, rfl, by rw [hmessage rfl, ← hanswer m hfind]; rfl, rfl, hparts parts rfl⟩
  | requestedAgain x hx => exact ⟨x, hx, rfl⟩
  | requested handoffId hnil => exact ⟨_, List.mem_singleton_self _, rfl⟩
  | askedAgain x prompt required y hx hy => exact ⟨x, hx, rfl⟩
  | asked requestId prompt required y hy => exact ⟨_, List.mem_append_right _ (List.mem_singleton_self _), rfl⟩
  | finished y hy => exact mem_amend Handoff.handoffId (RunWorker.finishHandoff now) (fun _ => rfl) hy
  | orphan _ hnone => exact absurd hnone hr
  | nothing body hb hb' hh hi =>
    cases body
    case messageStarted => exact absurd rfl hb
    case messageCompleted parts => exact absurd rfl (hb' parts)
    case handoffRequested handoffId => exact absurd rfl (hh handoffId).1
    case handoffCompleted handoffId => exact absurd rfl (hh handoffId).2
    case contactRequested requestId prompt required => exact absurd rfl (hi requestId prompt required)
    all_goals trivial

theorem Canonical.step (hs : l.Sound) (h : l.Canonical) (hstep : Step s runId a l l') : l'.Canonical := by
  have hnot : ∀ {phase : Phase}, phase.appends = false → ∀ context event, phase = .appending context event →
      l.run ≠ none → l.Backed event.messageId event.body := by
    rintro phase hp context event rfl
    cases hp
  cases hstep with
  | idle => exact h
  | redacted q hq =>
    refine h.grow ⟨fun m hm => ⟨m, hm, rfl, fun hs hp => ⟨hs, hp⟩⟩, fun x hx => ⟨x, hx, rfl⟩, fun x hx => ?_⟩ id
      (fun _ hx => hx) rfl
    exact mem_amend StructuredInputRequest.requestId RetentionService.redact (fun _ => rfl) hx
  | pruned i events hi hsub => exact h.grow (grows_same rfl rfl rfl) id hsub rfl
  | created r handoffs inputs hr he =>
    refine ⟨fun _ x hx => absurd hx List.not_mem_nil, fun _ i e context event hi => ?_⟩
    exact absurd ((he i).symm.trans hi) (Option.some_ne_none e).symm
  | forgotten => exact ⟨fun hr => absurd rfl hr, fun hr => absurd rfl hr⟩
  | cancelled r now hr =>
    exact h.grow (grows_same rfl rfl rfl) (fun _ => by rw [hr]; exact Option.some_ne_none r) (fun _ hx => hx) rfl
  | resumed r i request now hr hw hi hp handoffs hh =>
    refine h.grow ⟨fun m hm => ⟨m, hm, rfl, fun hs hp => ⟨hs, hp⟩⟩, fun x hx => ?_, fun x hx => ?_⟩
      (fun _ => by rw [hr]; exact Option.some_ne_none r) (fun _ hx => hx) rfl
    · rcases hh with rfl | rfl
      · exact ⟨x, hx, rfl⟩
      · exact ⟨_, List.mem_map_of_mem hx, rfl⟩
    · exact mem_amend StructuredInputRequest.requestId (StructuredInputService.resolve request now)
        (fun _ => rfl) hx
  | renewed i e r hi hr =>
    exact h.grow (grows_same rfl rfl rfl) (fun _ => by rw [hr]; exact Option.some_ne_none r) (fun _ hx => hx) rfl
  | claimed r i e hr hs' hc hi he ha hp =>
    refine Canonical.put (l := { l with run := some _ }) (h.grow (grows_same rfl rfl rfl)
      (fun _ => by rw [hr]; exact Option.some_ne_none r) (fun _ hx => hx) rfl) fun context event hphase => ?_
    rcases hp with hp | hp <;> rw [hp] at hphase <;> cases hphase
  | aborted i e hi => exact h.put fun context event hp hr => h.next hr i e context event hi hp
  | signalled i e hi hr =>
    refine h.put fun context event hp hrun => ?_
    cases hr with
    | same => exact h.next hrun i e context event hi hp
    | faults =>
      change (if _ then _ else _) = Phase.appending context event at hp
      split at hp <;> cases hp
    | received | ended | cancelsAtEnd | thrown | cancelThrows | cleanUpThrows | cancelled | returned
    | cancelsInHandler | handles | crashes => cases hp
  | failed i e hi hcalls =>
    refine h.put (hnot ?_)
    change Phase.appends (if _ then _ else _) = false
    split <;> rfl
  | loaded i e hi hp => exact h.put (hnot rfl)
  | answered i e e' r hi hp hr ha =>
    refine h.put (hnot ?_)
    cases ha <;> rfl
  | @materialized draw context event _ _ i e hi hp hm =>
    have hproper := hs.proper i e hi
    rw [Execution.Proper, hp] at hproper
    obtain ⟨-, hevent⟩ := hproper
    obtain ⟨hrun, hexecutions, -, hevents⟩ := hm.same
    have hcanonical : Canonical _ := h.grow (grows_materialized hevent.parts hm) (fun hr => hrun ▸ hr)
      (fun x hx => hevents ▸ hx) hexecutions
    refine Canonical.put hcanonical fun context' event' hphase hr => ?_
    cases hphase
    refine backed_materialized hevent.message hevent.parts (fun m hm' => ?_) (hrun ▸ hr) hm
    obtain ⟨r, hr⟩ := Option.ne_none_iff_exists'.mp (hrun ▸ hr)
    rw [hs.answer r m hr hm']
    exact (congrArg Identity.assistantMessageId (hs.identity i e r hi hr)).symm
  | @appended draw context event _ i e r events p hi hp hr hv he hn hs' =>
    have hcanonical : Canonical { l with events := events, appended := l.appended ++ [p] } := by
      refine ⟨fun hrun x hx => ?_, h.next⟩
      rcases hs' x hx with hx | ⟨hmessage, hbody⟩
      · exact h.events hrun x hx
      · rw [hmessage, hbody]
        exact h.next hrun i e context event hi hp
    refine Canonical.put hcanonical fun context' event' hphase => ?_
    change Execution.afterAppend context event.body = _ at hphase
    unfold Execution.afterAppend at hphase
    split at hphase <;> cases hphase
  | @wrote draw write place _ i e hi hp hw =>
    have hgrows : l.Grows (l.effect e.now write) := by
      cases write with
      | complete | waitForInput => exact grows_same rfl rfl rfl
      | fail code =>
        exact ⟨fun m hm => ⟨m, hm, rfl, fun hs hp => ⟨hs, hp⟩⟩,
          fun x hx => mem_amend Handoff.handoffId (RunWorker.failHandoff e.now) (fun _ => rfl) hx,
            fun x hx => ⟨x, hx, rfl⟩⟩
      | cancel =>
        refine ⟨fun m hm => ⟨_, Option.map_eq_some_iff.mpr ⟨m, hm, rfl⟩, ?_, fun hs hp => ?_⟩,
          fun x hx => ⟨x, hx, rfl⟩,
          fun x hx => ⟨x, hx, rfl⟩⟩
        · split <;> rfl
        · rw [if_neg (by rw [hs]; decide)]
          exact ⟨hs, hp⟩
    have hcanonical : (l.effect e.now write).Canonical := by
      refine h.grow hgrows (fun hr => ?_) ?_ (effect_executions write)
      · obtain ⟨r', hr'⟩ := Option.ne_none_iff_exists'.mp hr
        obtain ⟨r, hr, -⟩ := effect_run write hr'
        rw [hr]
        exact Option.some_ne_none r
      · cases write <;> exact fun _ hx => hx
    refine Canonical.put hcanonical fun context event hphase => ?_
    change (if _ then _ else _) = Phase.appending context event at hphase
    split at hphase <;> cases hphase

end Canonical

end Life

/-- Every stored event has the rows that it announces. -/
def State.Canonical (s : State) : Prop := ∀ x ∈ s.db.conversationEvents, match x.body with
  | .messageStarted => ∃ m ∈ s.db.messages, x.messageId = some m.messageId
  | .messageCompleted _ =>
    ∃ m ∈ s.db.messages, x.messageId = some m.messageId ∧ m.status = .completed ∧ m.parts ≠ []
  | .handoffRequested handoffId | .handoffCompleted handoffId =>
      ∃ h ∈ s.db.handoffs, h.handoffId = handoffId ∧ h.runId = x.runId
  | .contactRequested requestId _ _ =>
    ∃ i ∈ s.db.structuredInputRequests, i.requestId = requestId ∧ i.runId = x.runId
  | _ => True

section Reach

variable (server : Deployment) (principals : Table Principal.principalId)
  (browserSessions : Table BrowserSession.sessionId) (bootstraps : Table SessionBootstrapIdempotency.key)
  (actions : List Action) (runId : Id)

/-- The events appended for a run have increasing numbers and end with its terminal event, if they are appended
by the execution of the latest claim and nobody claims the run when the terminal event has been appended. -/
theorem terminal_event_last
    (hc : Transition.Along (State.step server) (fun s a => (s.life runId).EndsOnce s runId a)
      (State.initial (unused principals browserSessions bootstraps)) actions) :
    let appended := (reach server principals browserSessions bootstraps actions).appended.filter
      fun p => decide (p.event.runId = runId)
    (appended.filter fun p => p.event.body.terminal).length ≤ 1 ∧
      ∀ p ∈ appended, p.event.body.terminal = true → ∀ q ∈ appended, q.sequence ≤ p.sequence := by
  intro appended
  have hinitial : ((State.initial (unused principals browserSessions bootstraps)).life runId).Logged :=
    ⟨List.Pairwise.nil, fun _ _ e _ hi => absurd hi (Option.some_ne_none e).symm⟩
  have hinv : Life.Logged _ := life_invariant (q := fun _ l => l.Logged)
    (fun s a l' _ hl hp h hstep => h.step hl hp hstep)
      (State.sound_initial principals browserSessions bootstraps) hinitial
    hc
  exact ⟨hinv.ends.count, fun p hp ht q hq => hinv.ends.last hp ht hq⟩

/-- The first worker is gone between the append of the terminal event and the update of the row. -/
theorem two_terminal_events :
    ((reached (executing ++ [yields 0 none .runCompleted] ++ handles 0 "first" ++
      [.signal 0 .crash, .claim 1 patience asStored 2000000 true, next 1 "", yields 1 none .runCompleted] ++
      handles 1 "second")).appended.filter fun p => decide (p.event.runId = "run") &&
      p.event.body.terminal).length = 2 := by
  decide +kernel

theorem completed_run_ends_once :
    let appended := (reached completing).appended.filter fun p => decide (p.event.runId = "run")
    (appended.filter fun p => p.event.body.terminal).length ≤ 1 ∧
      ∀ p ∈ appended, p.event.body.terminal = true → ∀ q ∈ appended, q.sequence ≤ p.sequence :=
  terminal_event_last lone visitors ∅ ∅ completing "run" (by decide +kernel)

theorem rows_before_events : (reach server principals browserSessions bootstraps actions).Canonical := by
  intro x hx
  have hsound := sound_reach server principals browserSessions bootstraps actions
  obtain ⟨y, ⟨r, hr, rfl⟩, hid, -⟩ := hsound.skeleton.events _ (Table.mem_image hx)
  have hrun : ((reach server principals browserSessions bootstraps actions).life x.runId).run = some r :=
    run_eq_some.mpr ⟨hr, hid⟩
  have hinv : ((reach server principals browserSessions bootstraps actions).life x.runId).Canonical :=
    life_invariant (q := fun _ l => l.Canonical) (fun s a l' _ hl _ h hstep => h.step hl hstep)
      (State.sound_initial principals browserSessions bootstraps)
      ⟨fun hr => absurd rfl hr, fun hr => absurd rfl hr⟩ Transition.along_true
  have hbacked := hinv.events (by exact hrun ▸ Option.some_ne_none r) x
    (List.mem_filter.mpr ⟨hx, decide_eq_true rfl⟩)
  have hmessage : ∀ m, ((reach server principals browserSessions bootstraps actions).life x.runId).message =
    some m →
      m ∈ (reach server principals browserSessions bootstraps actions).db.messages :=
    fun m hm => (Table.find?_eq_some.mp ((rows_message hrun).symm.trans hm)).1
  generalize x.body = body at hbacked ⊢
  cases body
  case messageStarted =>
    obtain ⟨m, hm, hid⟩ := hbacked
    exact ⟨m, hmessage m hm, hid⟩
  case messageCompleted parts =>
    obtain ⟨m, hm, hid, hs, hp⟩ := hbacked
    exact ⟨m, hmessage m hm, hid, hs, hp⟩
  case handoffRequested handoffId =>
    obtain ⟨h, hh, hid⟩ := hbacked
    exact ⟨h, (List.mem_filter.mp hh).1, hid, of_decide_eq_true (List.mem_filter.mp hh).2⟩
  case handoffCompleted handoffId =>
    obtain ⟨h, hh, hid⟩ := hbacked
    exact ⟨h, (List.mem_filter.mp hh).1, hid, of_decide_eq_true (List.mem_filter.mp hh).2⟩
  case contactRequested requestId prompt required =>
    obtain ⟨i, hi, hid⟩ := hbacked
    exact ⟨i, (List.mem_filter.mp hi).1, hid, of_decide_eq_true (List.mem_filter.mp hi).2⟩
  all_goals trivial

end Reach

end ChatCore.Runs
