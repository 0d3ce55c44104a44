import ChatCore.Runs.Soundness

namespace ChatCore.Runs

open Protocol Relational Database Services

namespace Execution

def Proper (e : Execution) : Prop := match e.phase with
  | .pulling context | .received context _ => Within context
  | .materializing context event | .appending context event => Within context ∧ EventOf event e.eventContext
  | .writing .waitForInput place => place = .loop
  | _ => True
where
  Within (context : RunWorker.RunContext) : Prop :=
    context.scope.tenantId = e.run.tenantId ∧ context.scope.siteId = e.run.siteId

variable {e : Execution}

@[simp] lemma goto_run {phase : Phase} : (e.goto phase).run = e.run := rfl

@[simp] lemma abort_run : e.abort.run = e.run := rfl

lemma Answered.run {answer : Bool} {e' : Execution} (h : e.Answered answer e') : e'.run = e.run := by
  cases h <;> rfl

lemma proper_abort (h : e.Proper) : e.abort.Proper := h

lemma proper_catching : (e.goto (if e.phase.exposed then .rejected else .catching)).Proper := by
  cases h : e.phase.exposed <;> trivial

lemma Answered.proper {answer : Bool} {e' : Execution} (h : e.Answered answer e') (hp : e.Proper) : e'.Proper := by
  cases h with
  | cancels | stops | fails => trivial
  | accepts context value event hphase ha h =>
    rw [Proper, hphase] at hp
    exact ⟨hp, h⟩

lemma Reaction.proper {signal : Signal} {phase : Phase} (h : e.Reaction signal phase) (hp : e.Proper) :
    (e.goto phase).Proper := by
  cases h with
  | same => exact hp
  | received hphase =>
    rw [Proper, hphase] at hp
    exact hp
  | faults => exact proper_catching
  | ended | cancelsAtEnd | thrown | cancelThrows | cleanUpThrows | cancelled | returned | cancelsInHandler
  | handles | crashes => trivial

end Execution

namespace State

def known (s : State) : Set Identity := {x | x ∈ s.executions.map fun e => identity e.run}

lemma mem_known {s : State} {e : Execution} (h : e ∈ s.executions) : identity e.run ∈ s.known := by
  rw [known, Set.mem_ofPred_eq]
  exact List.mem_map_of_mem h

/-- What holds in every state that the system reaches. -/
structure Sound (s : State) : Prop where
  skeleton : (skeleton s.known s.db).Sound s.issued
  claimed : ∀ id ∈ s.claimed, id ∈ s.issued
  attempt : ∀ r ∈ s.db.agentRuns, r.attempt = s.claimed.count r.runId
  executed : ∀ e ∈ s.executions, e.run.attempt ≤ s.claimed.count e.run.runId
  apart : ∀ (i j : ℕ) (e e' : Execution), s.executions[i]? = some e → s.executions[j]? = some e' →
    e.run.runId = e'.run.runId →
    e.run.attempt = e'.run.attempt → i = j
  active : ∀ process runId i, s.active process runId = some i →
    ∃ e, s.executions[i]? = some e ∧ e.run.runId = runId
  proper : ∀ e ∈ s.executions, e.Proper
  numbered : ∀ p ∈ s.appended, ∀ c ∈ s.db.conversations, c.conversationId = p.event.conversationId →
    p.sequence < c.nextEventSequence
  recorded : ∀ p ∈ s.appended, ∃ x ∈ s.known, x.runId = p.event.runId ∧
    x.home.conversationId = p.event.conversationId

lemma Sound.drawn {s : State} (h : s.Sound) {p : EventStore.PersistedEvent} (hp : p ∈ s.appended) :
    p.event.runId ∈ s.issued ∧ p.event.conversationId ∈ s.issued := by
  obtain ⟨x, hx, hrun, hhome⟩ := h.recorded p hp
  have hissued := h.skeleton.issued x (Or.inr hx)
  exact ⟨hrun ▸ hissued.1, hhome ▸ hissued.2.2⟩

section Put

variable {s : State} {i j : ℕ} {e e' : Execution}

@[simp] lemma put_db : (s.put i e').db = s.db := rfl

@[simp] lemma put_issued : (s.put i e').issued = s.issued := rfl

@[simp] lemma put_claimed : (s.put i e').claimed = s.claimed := rfl

@[simp] lemma put_appended : (s.put i e').appended = s.appended := rfl

lemma mem_put {x : Execution} (h : x ∈ (s.put i e').executions) : x ∈ s.executions ∨ x = e' :=
  List.mem_or_eq_of_mem_set h

variable (he : s.executions[i]? = some e) (hr : e'.run = e.run)

include he

lemma getElem?_put_self : (s.put i e').executions[i]? = some e' := by
  have hlt := (List.getElem?_eq_some_iff.mp he).1
  exact List.getElem?_set_self hlt

omit he in
lemma getElem?_put_ne (h : i ≠ j) : (s.put i e').executions[j]? = s.executions[j]? := List.getElem?_set_ne h

include hr

lemma getElem?_put {x : Execution} (h : (s.put i e').executions[j]? = some x) :
    ∃ y, s.executions[j]? = some y ∧ y.run = x.run := by
  by_cases hij : i = j
  · subst hij
    rw [getElem?_put_self he, Option.some.injEq] at h
    exact ⟨e, he, h ▸ hr.symm⟩
  · rw [getElem?_put_ne hij] at h
    exact ⟨x, h, rfl⟩

lemma known_put : (s.put i e').known = s.known := by
  ext x
  simp only [known, Set.mem_ofPred_eq, List.mem_map]
  constructor
  · rintro ⟨y, hy, rfl⟩
    rcases mem_put hy with hy | rfl
    · exact ⟨y, hy, rfl⟩
    · exact ⟨e, List.mem_of_getElem? he, by rw [hr]⟩
  · rintro ⟨y, hy, rfl⟩
    obtain ⟨j, hj⟩ := List.mem_iff_getElem?.mp hy
    by_cases hij : i = j
    · subst hij
      cases he.symm.trans hj
      exact ⟨e', List.mem_of_getElem? (getElem?_put_self he), by rw [hr]⟩
    · exact ⟨y, List.mem_of_getElem? ((getElem?_put_ne hij).trans hj), rfl⟩

lemma Sound.put (h : s.Sound) (hp : e'.Proper) : (s.put i e').Sound where
  skeleton := by
    rw [known_put he hr]
    exact h.skeleton
  claimed := h.claimed
  attempt := h.attempt
  executed := by
    intro x hx
    rcases mem_put hx with hx | rfl
    · exact h.executed x hx
    · rw [hr]
      exact h.executed e (List.mem_of_getElem? he)
  apart := by
    intro j l x y hx hy hid hattempt
    obtain ⟨x', hx', hxr⟩ := getElem?_put he hr hx
    obtain ⟨y', hy', hyr⟩ := getElem?_put he hr hy
    exact h.apart j l x' y' hx' hy' (by rw [hxr, hyr, hid]) (by rw [hxr, hyr, hattempt])
  active := by
    intro process runId j hj
    have hold : s.active process runId = some j := by
      change (if _ then none else s.active process runId) = some j at hj
      split at hj
      · cases hj
      · exact hj
    obtain ⟨x, hx, hid⟩ := h.active process runId j hold
    by_cases hij : i = j
    · subst hij
      cases he.symm.trans hx
      exact ⟨e', getElem?_put_self he, hr ▸ hid⟩
    · exact ⟨x, (getElem?_put_ne hij).trans hx, hid⟩
  proper := by
    intro x hx
    rcases mem_put hx with hx | rfl
    · exact h.proper x hx
    · exact hp
  numbered := h.numbered
  recorded := by
    rw [known_put he hr]
    exact h.recorded

end Put

section Attempts

variable {a b c : Tables}

def SameAttempts (a b : Tables) : Prop :=
  ∀ r ∈ b.agentRuns, ∃ r' ∈ a.agentRuns, r'.runId = r.runId ∧ r'.attempt = r.attempt

lemma sameAttempts_of_eq (h : b.agentRuns = a.agentRuns) : SameAttempts a b := fun r hr => ⟨r, h ▸ hr, rfl, rfl⟩

lemma sameAttempts_update {p : AgentRun → Bool} {f : AgentRun → AgentRun} (hf : ∀ r, (f r).runId = r.runId)
    (h : b.agentRuns = a.agentRuns.update p f hf) (ha : ∀ r, (f r).attempt = r.attempt) : SameAttempts a b := by
  intro r hr
  rw [h] at hr
  obtain ⟨r', hr', rfl⟩ := Table.mem_update.mp hr
  refine ⟨r', hr', ?_⟩
  split
  · exact ⟨(hf r').symm, (ha r').symm⟩
  · exact ⟨rfl, rfl⟩

lemma attempt_decided (now : Timestamp) (r : AgentRun) : (Idempotency.decided now r).attempt = r.attempt := by
  unfold Idempotency.decided
  split <;> rfl

lemma attempts_visited {call : Call} {ids : List Id} (hd : drawnIds call = some ids) (hv : Visited call a b) :
    ∀ r ∈ b.agentRuns, (∃ r' ∈ a.agentRuns, r'.runId = r.runId ∧ r'.attempt = r.attempt) ∨
      r.attempt = 0 ∧ r.runId ∈ ids := by
  cases hv with
  | beside hb => exact fun r hr => Or.inl (sameAttempts_of_eq hb.runs r hr)
  | submitted hb =>
    cases hd
    obtain ⟨agentRef, new, rfl, -, hruns⟩ := hb.run
    intro r hr
    rw [hruns] at hr
    rcases Table.mem_of_mem_insert hr with hr | rfl
    · exact Or.inl ⟨r, hr, rfl, rfl⟩
    · exact Or.inr ⟨rfl, by simp [MessageService.newRun]⟩
  | handedOff hb =>
    cases hd
    obtain ⟨agentRef, trigger, new, -, -, rfl, -, hruns⟩ := hb.run
    intro r hr
    rw [hruns] at hr
    rcases Table.mem_of_mem_insert hr with hr | rfl
    · exact Or.inl ⟨r, hr, rfl, rfl⟩
    · exact Or.inr ⟨rfl, by simp [MessageService.newRun]⟩
  | cancelled hs => exact fun r hr => Or.inl (sameAttempts_update (runId_decided _) rfl (attempt_decided _) r hr)
  | resumed hb =>
    obtain ⟨i, -, -, -, -, hruns, -⟩ := hb.input
    exact fun r hr =>
      Or.inl (sameAttempts_update (f := StructuredInputService.requeue _) (fun _ => rfl) hruns (fun _ => rfl) r hr)

lemma materialized_runs {run : AgentRun} {now : Timestamp} {participantId : Id} {body : EventBody}
    (hm : Materialized run now participantId body a b) : b.agentRuns = a.agentRuns := by
  cases hm <;> rfl

lemma materialized_lasting {run : AgentRun} {now : Timestamp} {participantId : Id} {body : EventBody}
    (hm : Materialized run now participantId body a b) : Lasting [] a b := by
  cases hm with
  | started sequence hs habsent hc =>
    have hl : Lasting [] a (conversations.put a (a.conversations.update
        (fun c => RunWorker.ofConversation run c.tenantId c.siteId c.conversationId)
        (MessageService.takeMessageSequence now) fun _ => rfl)) :=
      lasting_update fun c => ⟨rfl, rfl, rfl, Nat.le_refl _⟩
    exact hl.trans (lasting_of_same rfl)
  | resumed | completed | requestedAgain | requested | askedAgain | asked | finished | nothing =>
    exact lasting_of_same rfl

lemma effect_attempts (write : StatusWrite) (run : AgentRun) (now : Timestamp) :
    SameAttempts a (write.effect run now a) := by
  cases write with
  | complete => exact sameAttempts_update (f := RunWorker.markCompleted now) (fun _ => rfl) rfl fun _ => rfl
  | fail code => exact sameAttempts_update (f := RunWorker.markFailed code now) (fun _ => rfl) rfl fun _ => rfl
  | cancel => exact sameAttempts_update (f := RunWorker.markCancelled now) (fun _ => rfl) rfl fun _ => rfl
  | waitForInput => exact sameAttempts_update (f := RunWorker.markWaiting now) (fun _ => rfl) rfl fun _ => rfl

lemma effect_conversations (write : StatusWrite) (run : AgentRun) (now : Timestamp) :
    (write.effect run now a).conversations = a.conversations := by
  cases write <;> rfl

end Attempts

section Steps

variable {server : Deployment} {s : State} (h : s.Sound)

include h

lemma Sound.tables {b : Tables} (hk : (Runs.skeleton s.known b).Sound s.issued) (hr : SameAttempts s.db b)
    (hc : ∀ c' ∈ b.conversations, ∃ c ∈ s.db.conversations, Continues c c') : Sound { s with db := b } where
  skeleton := hk
  claimed := h.claimed
  attempt := by
    intro r hm
    obtain ⟨r', hm', hid, ha⟩ := hr r hm
    rw [← ha, ← hid]
    exact h.attempt r' hm'
  executed := h.executed
  apart := h.apart
  active := h.active
  proper := h.proper
  numbered := by
    intro p hp c' hm he
    obtain ⟨c, hm', hcont⟩ := hc c' hm
    exact Nat.lt_of_lt_of_le (h.numbered p hp c hm' (hcont.conversationId.symm.trans he)) hcont.events
  recorded := h.recorded

lemma Sound.requests (requests : List (ℕ × Id)) : Sound { s with requests := requests } := { h with }

lemma Sound.visit {process : ℕ} {call : Call} {ids : List Id} (hd : drawnIds call = some ids) (hf : s.Fresh ids)
    (hv : Visited call s.db ((body server call).run s.db).2) : (s.visit server process call ids).Sound := by
  have hl := lasting_body server call s.db
  refine { h with
    skeleton := visited_sound h.skeleton hd hf.1 hf.2 hl hv, claimed := ?_, attempt := ?_, numbered := ?_ }
  · exact fun id hid => List.mem_append_right _ (h.claimed id hid)
  · intro r hm
    rcases attempts_visited hd hv r hm with ⟨r', hm', hid, ha⟩ | ⟨ha, hid⟩
    · rw [← ha, ← hid]
      exact h.attempt r' hm'
    · have hnot : r.runId ∉ s.claimed := fun hc => hf.2 _ hid (h.claimed _ hc)
      rw [ha]
      exact (List.count_eq_zero.mpr hnot).symm
  · intro p hp c' hm he
    rcases hl.origin c' hm with ⟨c, hm', hcont⟩ | hid
    · exact Nat.lt_of_lt_of_le (h.numbered p hp c hm' (hcont.conversationId.symm.trans he)) hcont.events
    · exact absurd (he ▸ (h.drawn hp).2) (hf.2 _ (created_drawn hd _ hid))

lemma Sound.sweep {b : Tables} (hs : SweptAway s.db b) : Sound { s with db := b } := by
  refine h.tables (swept_sound h.skeleton hs) ?_ ?_
  · obtain ⟨q, gone, -, hf⟩ := hs
    intro r hr
    rw [hf.runs] at hr
    exact ⟨r, (Table.mem_delete.mp hr).1, rfl, rfl⟩
  · obtain ⟨q, gone, -, hf⟩ := hs
    intro c hc
    rw [hf.conversations] at hc
    exact ⟨c, (Table.mem_delete.mp hc).1, continues_refl c⟩

section Claim

variable {process : ℕ} {options : RunWorker.Options} {now : Timestamp} {resolved : Bool} {r : AgentRun}
  (hr : r ∈ s.db.agentRuns)

omit h in
def claim (s : State) (process : ℕ) (options : RunWorker.Options) (now : Timestamp) (resolved : Bool)
    (r : AgentRun) : State :=
  s.begin process options now resolved (RunWorker.startAttempt options now r) { s.db with
    agentRuns := s.db.agentRuns.update (RunWorker.isRun r.runId) (RunWorker.startAttempt options now)
        (RunWorker.startAttempt_runId options now) }

omit h in
lemma mem_claim {x : AgentRun} (hx : x ∈ (s.claim process options now resolved r).db.agentRuns) :
    ∃ y ∈ s.db.agentRuns, x = if RunWorker.isRun r.runId y then RunWorker.startAttempt options now y else y := by
  have hm : x ∈ s.db.agentRuns.update (RunWorker.isRun r.runId) (RunWorker.startAttempt options now)
    (fun _ => rfl) := hx
  exact Table.mem_update.mp hm

omit h in
lemma getElem?_claim {i : ℕ} {e : Execution}
    (he : (s.claim process options now resolved r).executions[i]? = some e) :
    s.executions[i]? = some e ∨ i = s.executions.length ∧ e.run = RunWorker.startAttempt options now r ∧
      (e.phase = .loading ∨ e.phase = .writing (.fail "CONNECTOR_NOT_FOUND") .unresolved) := by
  rcases Nat.lt_or_ge i s.executions.length with hlt | hge
  · exact Or.inl ((List.getElem?_append_left hlt).symm.trans he)
  · have he' := (List.getElem?_append_right hge).symm.trans he
    obtain ⟨hlt, heq⟩ := List.getElem?_eq_some_iff.mp he'
    have hi : i = s.executions.length := by
      simp only [List.length_singleton] at hlt
      omega
    subst hi
    simp only [List.getElem_singleton] at heq
    subst heq
    cases resolved
    · exact Or.inr ⟨rfl, rfl, Or.inr rfl⟩
    · exact Or.inr ⟨rfl, rfl, Or.inl rfl⟩

include hr

lemma Sound.claim : (s.claim process options now resolved r).Sound := by
  have hknown : (s.claim process options now resolved r).known = s.known ∪ {identity r} := by
    ext x
    simp only [State.claim, State.begin, known, List.map_append, List.map_cons, List.map_nil, List.mem_append,
      List.mem_singleton, Set.mem_union, Set.mem_ofPred_eq, Set.mem_singleton_iff]
    rfl
  have hcount : ∀ id, (s.claimed ++ [r.runId]).count id = s.claimed.count id + if r.runId = id then 1 else 0 := by
    intro id
    rw [List.count_append, List.count_singleton]
    simp only [beq_iff_eq]
  have hmono : ∀ id, s.claimed.count id ≤ (s.claimed ++ [r.runId]).count id := fun id => by rw [hcount]; omega
  have hnew : r.attempt + 1 = (s.claimed ++ [r.runId]).count r.runId := by rw [hcount, if_pos rfl, h.attempt r hr]
  have hold : ∀ e ∈ s.executions, e.run.runId = r.runId → e.run.attempt ≠ r.attempt + 1 := by
    intro e he hid
    have hle := h.executed e he
    rw [hid, ← h.attempt r hr] at hle
    omega
  constructor
  · rw [hknown]
    have himage : (s.db.agentRuns.update (RunWorker.isRun r.runId) (RunWorker.startAttempt options now)
        fun _ => rfl).image identity = s.db.agentRuns.image identity := Table.image_update
    exact sound_of_images (h.skeleton.claim (Table.mem_image hr)) rfl rfl himage rfl rfl rfl
  · intro id hid
    rcases List.mem_append.mp hid with hid | hid
    · exact h.claimed id hid
    · rw [List.mem_singleton.mp hid]
      exact (h.skeleton.issued _ (Or.inl (Table.mem_image hr))).1
  · intro x hx
    obtain ⟨y, hy, rfl⟩ := mem_claim hx
    by_cases hid : y.runId = r.runId
    · have hsame : y = r := Table.key_injective hy hr hid
      rw [hsame, if_pos (show RunWorker.isRun r.runId r = true from decide_eq_true rfl)]
      exact hnew
    · rw [if_neg (by simpa [RunWorker.isRun] using hid)]
      change y.attempt = (s.claimed ++ [r.runId]).count y.runId
      rw [hcount, if_neg (Ne.symm hid)]
      exact h.attempt y hy
  · intro e he
    rcases List.mem_append.mp he with he | he
    · exact Nat.le_trans (h.executed e he) (hmono _)
    · rw [List.mem_singleton.mp he]
      exact Nat.le_of_eq hnew
  · intro i j e e' he he' hid ha
    rcases getElem?_claim he with he | ⟨hi, hrun, -⟩ <;> rcases getElem?_claim he' with he' | ⟨hj, hrun', -⟩
    · exact h.apart i j e e' he he' hid ha
    · rw [hrun'] at hid ha
      exact absurd ha (hold e (List.mem_of_getElem? he) hid)
    · rw [hrun] at hid ha
      exact absurd ha.symm (hold e' (List.mem_of_getElem? he') hid.symm)
    · exact hi.trans hj.symm
  · intro p runId i hi
    change (if _ then some s.executions.length else s.active p runId) = some i at hi
    split at hi
    · rename_i hcond
      simp only [Bool.and_eq_true, decide_eq_true_eq] at hcond
      cases hi
      exact ⟨_, List.getElem?_append_right (Nat.le_refl _) |>.trans (by rw [Nat.sub_self]; rfl), hcond.2.symm⟩
    · obtain ⟨e, he, hid⟩ := h.active p runId i hi
      exact ⟨e, (List.getElem?_append_left (List.getElem?_eq_some_iff.mp he).1).trans he, hid⟩
  · intro e he
    obtain ⟨i, hi⟩ := List.mem_iff_getElem?.mp he
    rcases getElem?_claim hi with hi | ⟨-, -, hp | hp⟩
    · exact h.proper e (List.mem_of_getElem? hi)
    · rw [Execution.Proper, hp]
      trivial
    · rw [Execution.Proper, hp]
      trivial
  · exact h.numbered
  · intro p hp
    obtain ⟨x, hx, hid⟩ := h.recorded p hp
    exact ⟨x, hknown ▸ Or.inl hx, hid⟩

end Claim

lemma Sound.append {i : ℕ} {e : Execution} {context : RunWorker.RunContext} {event : ConnectorEvent} {eventId : Id}
    {occurredAt : Timestamp} {c : Conversation} {m : ℕ} (he : s.executions[i]? = some e)
    (hp : e.phase = .appending context event) (hc : c ∈ s.db.conversations)
    (hin : inConversation context.scope event.conversationId c = true)
    (hi : s.db.conversationEvents.find? eventId = none) : Sound { s with
      db := appendTo context.scope event eventId occurredAt m c.nextEventSequence s.db
      appended := s.appended ++ [⟨event, eventId, c.nextEventSequence, toISOString occurredAt⟩] } := by
  have hmem := List.mem_of_getElem? he
  have hproper := h.proper e hmem
  rw [Execution.Proper, hp] at hproper
  obtain ⟨⟨htenant, hsite⟩, hevent⟩ := hproper
  have hknown := mem_known hmem
  have hhome : (⟨context.scope.tenantId, context.scope.siteId, event.conversationId⟩ : Home) =
    (identity e.run).home := by
    rw [htenant, hsite, hevent.conversation]
    rfl
  have hid : c.conversationId = event.conversationId := by
    simp only [inConversation, Bool.and_eq_true, decide_eq_true_eq] at hin
    exact hin.2
  have hlast : Lasting [] s.db (conversations.put s.db (s.db.conversations.update
      (inConversation context.scope event.conversationId) EventStore.takeEventSequence fun _ => rfl)) :=
    lasting_update fun c => ⟨rfl, rfl, rfl, Nat.le_succ _⟩
  refine { h with
    skeleton := appended_sound h.skeleton hknown hc hin hi hevent.run hhome, numbered := ?_, recorded := ?_ }
  · intro p hp c' hm heq
    rcases List.mem_append.mp hp with hp | hp
    · rcases hlast.origin c' hm with ⟨d, hd, hcont⟩ | hnil
      · exact Nat.lt_of_lt_of_le (h.numbered p hp d hd (hcont.conversationId.symm.trans heq)) hcont.events
      · cases hnil
    · rw [List.mem_singleton.mp hp] at heq ⊢
      have hm' : c' ∈ s.db.conversations.update (inConversation context.scope event.conversationId)
        EventStore.takeEventSequence (fun _ => rfl) := hm
      obtain ⟨d, hd, rfl⟩ := Table.mem_update.mp hm'
      have hsame : d = c := by
        refine Table.key_injective hd hc (Eq.trans ?_ (heq.trans hid.symm))
        split <;> rfl
      rw [hsame, if_pos hin]
      exact Nat.lt_succ_self _
  · intro p hp
    rcases List.mem_append.mp hp with hp | hp
    · exact h.recorded p hp
    · rw [List.mem_singleton.mp hp]
      exact ⟨_, hknown, hevent.run.symm, hevent.conversation.symm⟩

theorem Sound.change {a : Action} {s' : State} (hc : Change server s a s') : s'.Sound := by
  cases hc with
  | idle => exact h
  | visited hd hf hv => exact h.visit hd hf hv
  | swept hs => exact h.sweep hs
  | dismissed => exact h.requests _
  | requested hr ha he =>
    exact (h.requests _).put he rfl (Execution.proper_abort (h.proper _ (List.mem_of_getElem? he)))
  | claimed hr hc hq => exact h.claim hr
  | signalled he hr => exact h.put he rfl (hr.proper (h.proper _ (List.mem_of_getElem? he)))
  | @renewed i e now r he hb hr hs ha =>
    have himage : (s.db.agentRuns.update (fun r => RunWorker.isRun e.run.runId r &&
        (decide (r.status = .running) && decide (r.attempt = e.run.attempt))) (RunWorker.extendLease e.options now)
          fun _ => rfl).image identity = s.db.agentRuns.image identity := Table.image_update
    exact h.tables (sound_of_images h.skeleton rfl rfl himage rfl rfl rfl)
      (sameAttempts_update (f := RunWorker.extendLease e.options now) (fun _ => rfl) rfl fun _ => rfl)
      fun c hc => ⟨c, hc, continues_refl c⟩
  | lapsed he hb hr => exact h.put he rfl (Execution.proper_abort (h.proper _ (List.mem_of_getElem? he)))
  | lost he hb => exact h.put he rfl (Execution.proper_abort (h.proper _ (List.mem_of_getElem? he)))
  | failed he hf => exact h.put he rfl Execution.proper_catching
  | loaded he hp ht hs => exact h.put he rfl ⟨ht, hs⟩
  | answered he hp hr ha => exact h.put he ha.run (ha.proper (h.proper _ (List.mem_of_getElem? he)))
  | @materialized i e draw context event b he hp hm =>
    have hmem := List.mem_of_getElem? he
    have hproper := h.proper e hmem
    rw [Execution.Proper, hp] at hproper
    have hl := materialized_lasting hm
    have htables : Sound { s with db := b } :=
      h.tables (materialized_sound h.skeleton (mem_known hmem) hm) (sameAttempts_of_eq (materialized_runs hm))
        fun c hc => (hl.origin c hc).resolve_right List.not_mem_nil
    exact htables.put he rfl hproper
  | @appended i e draw context event c he hp hm hin hi =>
    refine (h.append he hp hm hin hi).put he rfl ?_
    have hproper := h.proper e (List.mem_of_getElem? he)
    rw [Execution.Proper, hp] at hproper
    unfold Execution.afterAppend
    split
    · rfl
    · trivial
    · trivial
    · exact hproper.1
  | @wrote i e draw write place he hp hw =>
    have htables : Sound { s with db := write.effect e.run e.now s.db } :=
      h.tables (effect_sound h.skeleton write) (effect_attempts write e.run e.now) fun c hc =>
        ⟨c, effect_conversations write e.run e.now ▸ hc, continues_refl c⟩
    refine htables.put he rfl ?_
    cases place <;> trivial

lemma Sound.step (a : Action) : (s.step server a).Sound :=
  h.change (step_change (sequenced_of_sound h.skeleton) (rooted_of_sound h.skeleton) a)

end Steps

lemma sound_initial (principals : Table Principal.principalId) (browserSessions : Table BrowserSession.sessionId)
    (bootstraps : Table SessionBootstrapIdempotency.key) :
    (initial (unused principals browserSessions bootstraps)).Sound := by
  have hnil : ∀ {ρ : Type} {key : ρ → Id} {X : Type} (g : ρ → X) (x : X), x ∉ (∅ : Table key).image g :=
    fun g x ⟨r, hr, _⟩ => Table.notMem_empty r hr
  have hknown : ∀ x, x ∉ (initial (unused principals browserSessions bootstraps)).known := by
    intro x hx
    rw [known, Set.mem_ofPred_eq] at hx
    exact List.not_mem_nil hx
  constructor
  · constructor
    · exact fun x hx => absurd hx (hnil _ x)
    · exact fun x hx => absurd hx (hnil _ x)
    · exact fun x hx => absurd hx (hnil _ x)
    · rintro x (hx | hx)
      · exact absurd hx (hnil _ x)
      · exact absurd hx (hknown x)
    · exact fun x hx => absurd hx (hnil _ x)
    · exact fun x hx => absurd hx (hnil _ x)
    · rintro x (hx | hx)
      · exact absurd hx (hnil _ x)
      · exact absurd hx (hknown x)
    · rintro x (hx | hx)
      · exact absurd hx (hnil _ x)
      · exact absurd hx (hknown x)
    · exact fun _ _ x hx => absurd hx (hnil _ x)
    · exact fun x hx => absurd hx (hknown x)
    · exact fun x hx => absurd hx (hnil _ x)
    · exact fun x hx => absurd hx (hnil _ x)
    · exact fun x hx => absurd hx (hnil _ x)
    · exact fun x hx => absurd hx (hnil _ x)
  · exact fun id hid => absurd hid List.not_mem_nil
  · exact fun r hr => absurd hr (Table.notMem_empty r)
  · exact fun e he => absurd he List.not_mem_nil
  · intro i j e e' he
    cases he
  · intro process runId i hi
    cases hi
  · exact fun e he => absurd he List.not_mem_nil
  · exact fun p hp => absurd hp List.not_mem_nil
  · exact fun p hp => absurd hp List.not_mem_nil

end State

section Reach

variable (server : Deployment) (principals : Table Principal.principalId)
  (browserSessions : Table BrowserSession.sessionId) (bootstraps : Table SessionBootstrapIdempotency.key)

theorem sound_reach (actions : List Action) :
    (reach server principals browserSessions bootstraps actions).Sound :=
  Transition.invariant (State.sound_initial principals browserSessions bootstraps) (fun _ a h => h.step a) actions

end Reach

lemma Reachable.sound {server : Deployment} {s : State} (h : Reachable server s) : s.Sound := by
  obtain ⟨principals, browserSessions, bootstraps, actions, rfl⟩ := h
  exact sound_reach server principals browserSessions bootstraps actions

end ChatCore.Runs
