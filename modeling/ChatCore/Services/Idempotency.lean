import ChatCore.Relational.SafeRules
import ChatCore.Services.Guards
import ChatCore.Services.Writes

/-! Idempotent writes: whatever is interleaved, the calls under one idempotency key commit their
effect once, and each that succeeds returns what that one made. -/

namespace ChatCore.Services.Idempotency

open Protocol Relational Database

section Keys

def keyOf : Call → Option CommandKey
  | .createConversation scope _ idempotencyKey _ _ =>
    some (commandKey scope ConversationService.operation idempotencyKey)
  | .submitMessage scope conversationId _ idempotencyKey .. =>
      some (commandKey scope (MessageService.operation conversationId) idempotencyKey)
  | .createEmailHandoff scope conversationId _ idempotencyKey .. =>
      some (commandKey scope (EmailHandoffService.operation conversationId) idempotencyKey)
  | .cancelRun scope conversationId idempotencyKey .. =>
      some (commandKey scope (RunService.operation conversationId) idempotencyKey)
  | .submitStructuredInput scope conversationId requestId _ idempotencyKey .. =>
      some (commandKey scope (StructuredInputService.operation conversationId requestId) idempotencyKey)
  | _ => none

def idempotent : Call → Bool
  | .createConversation .. | .submitMessage .. | .createEmailHandoff .. | .cancelRun .. => true
  | _ => false

structure Under (k : CommandKey) (call : Call) : Prop where
  idempotent : idempotent call = true
  key : keyOf call = some k

def requestHash (platform : Platform) : Call → String
  | .createConversation .. => ConversationService.requestHash platform
  | .submitMessage _ _ request .. => MessageService.requestHash platform request
  | .createEmailHandoff _ _ request .. => EmailHandoffService.requestHash platform request
  | .cancelRun .. => RunService.requestHash platform
  | _ => ""

def resourceOf : Call → Outcome → Option String
  | .createConversation .., .conversation resource => some resource.conversationId
  | .submitMessage .., .message resource => some resource.messageId
  | .createEmailHandoff .., .handoff response => some response.handoffId
  | .cancelRun .., .cancellation response =>
    some (RunService.encodeOutcome response.runId response.cancellationStatus)
  | _, _ => none

def initial (k : CommandKey) : Option Char := k.operation.toList.head?

def letter : Call → Option Char
  | .createConversation .. => some 'c'
  | .submitMessage .. => some 'm'
  | .createEmailHandoff .. => some 'e'
  | .cancelRun .. => some 'r'
  | .submitStructuredInput .. => some 's'
  | _ => none

lemma initial_keyOf {call : Call} {k : CommandKey} (h : keyOf call = some k) : initial k = letter call := by
  cases call <;> simp only [keyOf, Option.some.injEq, reduceCtorEq] at h <;> subst h
  case createConversation => simp [initial, commandKey, ConversationService.operation, letter]
  case submitMessage scope c request key ids now time =>
    change ("message:create:" ++ c).toList.head? = _
    simp [letter]
  case createEmailHandoff scope c request key ids now time =>
    change ("email-handoff:create:" ++ c).toList.head? = _
    simp [letter]
  case cancelRun scope c key order now time =>
    change ("run:cancel:" ++ c).toList.head? = _
    simp [letter]
  case submitStructuredInput scope c r request key now time =>
    change ("structured-input:submit:" ++ c ++ ":" ++ r).toList.head? = _
    simp [letter]

lemma idempotent_of_letter {call call' : Call} (h : letter call = letter call') (hi : idempotent call' = true) :
    idempotent call = true := by
  cases call <;> cases call' <;> simp_all [letter, idempotent]

end Keys

section Outcomes

open RunService

lemma toList_encodeOutcome (runId : Id) (status : CancellationStatus) :
    (encodeOutcome runId status).toList = runId.toList ++ '|' :: status.text.toList := by
  change (runId ++ "|" ++ status.text).toList = _
  simp

lemma statusOfText_text (status : CancellationStatus) : statusOfText status.text = some status := by
  cases status <;> decide

lemma notMem_text (status : CancellationStatus) : '|' ∉ status.text.toList := by
  cases status <;> decide

lemma idxOf?_separator {front back : List Char} (h : '|' ∉ front) :
    (front ++ '|' :: back).idxOf? '|' = some front.length := by
  induction front with
  | nil => simp [List.idxOf?_cons]
  | cons c front ih =>
    simp only [List.mem_cons, not_or] at h
    simp [List.idxOf?_cons, ih h.2, Ne.symm h.1]

lemma splitOutcome_append {front back : List Char} (h : '|' ∉ back) :
    splitOutcome (front ++ '|' :: back) = (front, back) := by
  have hidx : (back.reverse ++ '|' :: front.reverse).idxOf? '|' = some back.length := by
    rw [idxOf?_separator (by simpa using h), List.length_reverse]
  have hdrop : front.length + (back.length + 1) - back.length = front.length + 1 := by omega
  simp [splitOutcome, hidx, hdrop, List.drop_append]

lemma decodeOutcome_encodeOutcome (conversationId runId : Id) (status : CancellationStatus) :
    decodeOutcome conversationId (encodeOutcome runId status) =
      if runId = "" then .throw (.error "Stored cancellation outcome is invalid.")
      else pure ⟨conversationId, runId, status⟩ := by
  simp only [decodeOutcome, toList_encodeOutcome, splitOutcome_append (notMem_text status), String.ofList_toList,
    statusOfText_text]

lemma encodeOutcome_injective {runId runId' : Id} {status status' : CancellationStatus}
    (h : encodeOutcome runId status = encodeOutcome runId' status') : runId = runId' ∧ status = status' := by
  have hsplit := congrArg (fun text => splitOutcome text.toList) h
  simp only [toList_encodeOutcome, splitOutcome_append (notMem_text _), Prod.mk.injEq, String.toList_inj] at hsplit
  refine ⟨hsplit.1, ?_⟩
  have htext := statusOfText_text status
  rw [hsplit.2, statusOfText_text] at htext
  exact (Option.some.inj htext).symm

end Outcomes

section Effects

def decision : RunStatus → RunService.CancellationStatus
  | .queued => .cancelled
  | .running | .cancelRequested => .cancelRequested
  | .waitingForInput | .completed | .failed | .cancelled => .alreadyFinished

def decided (now : Timestamp) (run : AgentRun) : AgentRun := match run.status with
  | .queued => RunService.cancelQueued now run
  | .running | .cancelRequested => RunService.requestCancel now run
  | .waitingForInput | .completed | .failed | .cancelled => run

def Makes : Call → String → Tables → Tables → Prop
  | .createConversation scope agentRef _ ids time, resourceId, before, after =>
      resourceId = ids.id ∧
      after.conversations.rows =
        before.conversations.rows ++ [ConversationService.newConversation scope agentRef ids.id time] ∧
      after.conversationParticipants.rows = before.conversationParticipants.rows ++
        [ConversationService.userParticipant scope ids, ConversationService.agentParticipant scope agentRef ids] ∧
      after = { before with
        conversations := after.conversations
        conversationParticipants := after.conversationParticipants
        commandIdempotency := after.commandIdempotency }
  | .submitMessage scope conversationId request _ ids now time, resourceId, before, after =>
      resourceId = ids.id ∧
      after.conversations.rows = before.conversations.rows.map (fun c =>
        if inConversation scope conversationId c then MessageService.takeMessageSequence now c else c) ∧
      (∃ participantId sequence, after.messages.rows = before.messages.rows ++
        [MessageService.newMessage scope conversationId participantId request ids.id sequence now time]) ∧
      (∃ agentRef, after.agentRuns.rows = before.agentRuns.rows ++
        [MessageService.newRun scope conversationId ids.id
        ids.runId ids.assistantMessageId agentRef .message time]) ∧
      after = { before with
        conversations := after.conversations
        messages := after.messages
        agentRuns := after.agentRuns
        commandIdempotency := after.commandIdempotency }
  | .createEmailHandoff scope conversationId request _ ids now time, resourceId, before, after =>
      resourceId = ids.id ∧
      (∃ triggerMessageId agentRef, after.agentRuns.rows = before.agentRuns.rows ++ [MessageService.newRun scope
        conversationId triggerMessageId ids.runId ids.assistantMessageId agentRef .agentEmailHandoff time]) ∧
      after.handoffs.rows = before.handoffs.rows ++ [EmailHandoffService.newHandoff scope conversationId ids now] ∧
      after.structuredInputRequests.rows = before.structuredInputRequests.rows ++
        [EmailHandoffService.newInput scope
        conversationId (EmailHandoffService.normalize request.email) ids now] ∧
      after = { before with
        agentRuns := after.agentRuns
        handoffs := after.handoffs
        structuredInputRequests := after.structuredInputRequests
        commandIdempotency := after.commandIdempotency }
  | .cancelRun scope conversationId _ _ now _, resourceId, before, after =>
      ∃ run ∈ before.agentRuns, RunService.ofConversation scope conversationId run = true ∧
        resourceId = RunService.encodeOutcome run.runId (decision run.status) ∧
        after.agentRuns.rows = before.agentRuns.rows.map
          (fun r => if r.runId = run.runId then decided now r else r) ∧
        after = { before with
          agentRuns := after.agentRuns
          commandIdempotency := after.commandIdempotency }
  | _, _, _, _ => False

structure Effect (platform : Platform) (call : Call) (answer : CommandIdempotency)
    (before after : Tables) : Prop where
  key : keyOf call = some answer.key
  hash : answer.requestHash = requestHash platform call
  commands : after.commandIdempotency.rows = before.commandIdempotency.rows ++ [answer]
  makes : Makes call answer.resourceId before after

structure Grows (call : Call) (before after : Tables) : Prop where
  kept : ∀ r ∈ before.commandIdempotency, r ∈ after.commandIdempotency
  new : ∀ r ∈ after.commandIdempotency, r ∈ before.commandIdempotency ∨ keyOf call = some r.key

structure Committed (platform : Platform) (call : Call) (before after : Tables) : Prop where
  grows : Grows call before after
  effect : idempotent call = true → before = after ∨ ∃ answer, Effect platform call answer before after

def Recorded (platform : Platform) (r : CommandIdempotency) : Prop := initial r.key = some 'r' →
  r.requestHash = RunService.requestHash platform ∧
    ∃ runId status, r.resourceId = RunService.encodeOutcome runId status

def Readable (platform : Platform) (db : Tables) : Prop := ∀ r ∈ db.commandIdempotency, Recorded platform r

variable {platform : Platform} {call : Call} {answer : CommandIdempotency} {a b c : Tables}

lemma grows_of_same (h : b.commandIdempotency = a.commandIdempotency) : Grows call a b :=
  ⟨fun _ hr => h ▸ hr, fun _ hr => Or.inl (h ▸ hr)⟩

lemma grows_refl (db : Tables) : Grows call db db := grows_of_same rfl

lemma Grows.trans (h : Grows call a b) (h' : Grows call b c) : Grows call a c := by
  refine ⟨fun r hr => h'.kept r (h.kept r hr), fun r hr => ?_⟩
  rcases h'.new r hr with hr | hk
  · exact h.new r hr
  · exact Or.inr hk

lemma committed_refl (db : Tables) : Committed platform call db db := ⟨grows_refl db, fun _ => Or.inl rfl⟩

lemma Effect.mem (h : Effect platform call answer a b) {r : CommandIdempotency} :
    r ∈ b.commandIdempotency ↔ r ∈ a.commandIdempotency ∨ r = answer := by
  rw [← Table.mem_rows, h.commands]
  simp

lemma Effect.grows (h : Effect platform call answer a b) : Grows call a b := by
  refine ⟨fun r hr => h.mem.mpr (Or.inl hr), fun r hr => ?_⟩
  rcases h.mem.mp hr with hr | rfl
  · exact Or.inl hr
  · exact Or.inr h.key

lemma Effect.absent (h : Effect platform call answer a b) : a.commandIdempotency.find? answer.key = none := by
  refine Table.find?_eq_none.mpr fun r hr hk => ?_
  have hnodup := b.commandIdempotency.keys_nodup
  rw [h.commands, List.map_append, List.nodup_append] at hnodup
  exact hnodup.2.2 r.key (List.mem_map.mpr ⟨r, hr, rfl⟩) answer.key (by simp) hk

lemma Effect.changes (h : Effect platform call answer a b) : a ≠ b := by
  rintro rfl
  have hr := h.mem.mpr (Or.inr rfl)
  exact Table.find?_eq_none.mp h.absent answer hr rfl

lemma Readable.grows (h : Readable platform a) (hg : Grows call a b) (hl : letter call ≠ some 'r') :
    Readable platform b := by
  intro r hr hi
  rcases hg.new r hr with hr | hk
  · exact h r hr hi
  · exact absurd ((initial_keyOf hk).symm.trans hi) hl

lemma Readable.committed (h : Readable platform a) (hc : Committed platform call a b) : Readable platform b := by
  by_cases hl : letter call = some 'r'
  · cases call <;> simp only [letter, reduceCtorEq, Option.some.injEq, Char.reduceEq] at hl
    case cancelRun scope conversationId key order now time =>
    rcases hc.effect rfl with rfl | ⟨answer, he⟩
    · exact h
    · intro r hr hi
      rcases he.mem.mp hr with hr | rfl
      · exact h r hr hi
      · obtain ⟨run, -, -, hresource, -⟩ := he.makes
        exact ⟨he.hash, run.runId, decision run.status, hresource⟩
  · exact h.grows hc.grows hl

end Effects

section Discipline

def Conflicting (platform : Platform) (call : Call) (k : CommandKey) (h : List ServerRecord) : Prop :=
  ∃ i c before after, .committed i c before after ∈ h ∧
    ∃ r ∈ after.commandIdempotency, r.key = k ∧ r.requestHash ≠ requestHash platform call

def Answered (platform : Platform) (id : ℕ) (call : Call) (k : CommandKey) (resourceId : String)
    (h : List ServerRecord) : Prop :=
  ∃ before after, .committed id call before after ∈ h ∧ ∃ r ∈ after.commandIdempotency,
    r.key = k ∧ r.requestHash = requestHash platform call ∧ r.resourceId = resourceId

structure Finished (platform : Platform) (h : List ServerRecord) (id : ℕ) (call : Call) (k : CommandKey)
    (result : Except ServerError Outcome) : Prop where
  answered : ∀ outcome, result = .ok outcome →
    ∃ resourceId, resourceOf call outcome = some resourceId ∧ Answered platform id call k resourceId h
  conflict : Conflicting platform call k h → result = .error idempotencyConflict

def discipline (server : Deployment) : Discipline Tables LockName ServerError Outcome Call Cell where
  inv := Readable server.platform
  good h r := match r with
    | .committed _ call before after => Committed server.platform call before after
    | .finished id call result => ∀ k, idempotent call = true → keyOf call = some k →
        Finished server.platform h id call k result
  cell := cell server.platform

variable {server : Deployment}

lemma grows_body (call : Call) : (body server call).Keeps (Grows call) := by
  refine keeps_body grows_refl server ?_
  have hsame : ∀ {a b : Tables}, b.commandIdempotency = a.commandIdempotency → Grows call a b := grows_of_same
  have hcommand : ∀ k, keyOf call = some k → Answers (Grows call) k := by
    intro k hk r hr db
    refine ⟨fun s hs => Table.mem_insert_of_mem hs, fun s hs => ?_⟩
    rcases Table.mem_of_mem_insert hs with hs | rfl
    · exact Or.inl hs
    · exact Or.inr (hr ▸ hk)
  cases call with
  | createConversation scope agentRef key ids time =>
    exact ⟨hcommand _ rfl, fun db => hsame rfl, fun p db => hsame rfl⟩
  | submitMessage scope c request key ids now time =>
    exact ⟨hcommand _ rfl, fun db q => hsame rfl, fun m db => hsame rfl, fun r db => hsame rfl⟩
  | createEmailHandoff scope c request key ids now time =>
    exact ⟨hcommand _ rfl, fun r db => hsame rfl, fun h db => hsame rfl, fun db => hsame rfl⟩
  | submitStructuredInput scope c r request key now time =>
    exact ⟨hcommand _ rfl, fun db q => hsame rfl, fun db q => hsame rfl, fun db q => hsame rfl⟩
  | cancelRun scope c key order now time =>
    exact ⟨hcommand _ rfl, fun db q => hsame rfl, fun db q => hsame rfl⟩
  | appendEvent => exact ⟨fun db q => hsame rfl, fun e db => hsame rfl, fun db q => hsame rfl⟩
  | materialize run now participantId event =>
    change MaterialWrites _ run now event.body
    cases event.body
    case messageStarted => exact ⟨fun db q => hsame rfl, fun m db => hsame rfl⟩
    case contactRequested => exact ⟨fun db => hsame rfl, fun db q => hsame rfl⟩
    case handoffRequested => exact fun db => hsame rfl
    case messageCompleted | handoffCompleted => exact fun db q => hsame rfl
    all_goals trivial
  | claim | complete | waitForInput | renewLease => exact fun db q => hsame rfl
  | cancel | fail => exact ⟨fun db q => hsame rfl, fun db q => hsame rfl⟩
  | replayEvents | loadContext | isCancellationRequested => trivial

lemma persists {s : ServerStore} (h : (discipline server).Holds s) {i : ℕ} {c : Call} {before after : Tables}
    (hm : .committed i c before after ∈ s.2) {r : CommandIdempotency} (hr : r ∈ after.commandIdempotency) :
    r ∈ s.1.commandIdempotency := by
  obtain ⟨start, -, hleads⟩ := h.leads
  obtain ⟨h₁, h₂, he⟩ := List.append_of_mem hm
  rw [he] at hleads
  obtain ⟨middle, -, hl⟩ := hleads.split
  refine hl.2.preserves (I := fun db => r ∈ db.commandIdempotency) hr fun j d b a hmem hb => ?_
  obtain ⟨_, _, _, hg⟩ := h.good_of_mem (he ▸ List.mem_append_right _ (List.mem_cons_of_mem _ hmem))
  exact hg.grows.kept r hb

end Discipline

section Stages

variable {server : Deployment} {id : ℕ} {call : Call} {k : CommandKey} {held : List (Lock LockName)}

structure Fresh (k : CommandKey) (X : Tables → Prop) (s : ServerStore) : Prop where
  absent : s.1.commandIdempotency.find? k = none
  rows : X s.1

def Known (previous : CommandIdempotency) (s : ServerStore) : Prop := previous ∈ s.1.commandIdempotency

lemma stable_fresh {X : Tables → Prop} (hl : keyLock server.platform k ∈ held)
    (hX : (discipline server).Stable id held fun s => X s.1) : (discipline server).Stable id held (Fresh k X) := by
  intro s s' hi hs
  refine ⟨Table.find?_eq_none.mpr fun r hr hk => ?_, hX s s' hi hs.rows⟩
  have hcell : commandsUnder server.platform s'.1.commandIdempotency (.advisory (advisory server.platform k)) =
      commandsUnder server.platform s.1.commandIdempotency (.advisory (advisory server.platform k)) :=
    congrArg Cell.commands (hi.cell _ hl (by simp [keyLock, Lock.exclusive]))
  have hmem : r ∈ commandsUnder server.platform s'.1.commandIdempotency (.advisory (advisory server.platform k)) :=
    List.mem_filter.mpr ⟨hr, by simp [hk]⟩
  rw [hcell] at hmem
  exact Table.find?_eq_none.mp hs.absent r (List.mem_filter.mp hmem).1 hk

lemma stable_known {previous : CommandIdempotency} : (discipline server).Stable id held (Known previous) := by
  intro s s' hi hs
  obtain ⟨q, hq, -, -, hl⟩ := hi.record
  cases q with
  | finished i c result =>
    have hsame : s.1 = s'.1 := hl
    change previous ∈ s'.1.commandIdempotency
    exact hsame ▸ hs
  | committed i c before after =>
    obtain ⟨rfl, rfl⟩ := hl
    obtain ⟨_, _, _, hg⟩ := hi.after.good_of_mem (hq ▸ List.mem_append_right _ (List.mem_singleton_self _))
    exact hg.grows.kept _ hs

lemma stable_answered {resourceId : String} :
    (discipline server).Stable id held fun s => Answered server.platform id call k resourceId s.2 := by
  intro s s' hi hs
  obtain ⟨before, after, hm, hr⟩ := hs
  exact ⟨before, after, Discipline.stable_mem s s' hi hm, hr⟩

lemma keyed_iff {k' : CommandKey} (hk : keyOf call = some k) : keyOf call = some k' ↔ k' = k := by
  rw [hk, Option.some.injEq, eq_comm]

lemma abortable_fresh {X : Tables → Prop} (hk : keyOf call = some k) (e : ServerError) :
    (discipline server).Abortable id call (Fresh k X) e := by
  intro s hs hfresh k' _ hk'
  obtain rfl := (keyed_iff hk).mp hk'
  refine ⟨fun _ he => (nomatch he), fun hc => ?_⟩
  obtain ⟨i, c, before, after, hm, r, hr, hrk, -⟩ := hc
  exact absurd hrk (Table.find?_eq_none.mp hfresh.absent r (persists hs hm hr))

lemma abortable_conflict {previous : CommandIdempotency} :
    (discipline server).Abortable id call (Known previous) idempotencyConflict := by
  intro s _ _ k' _ _
  exact ⟨fun _ he => (nomatch he), fun _ => rfl⟩

lemma not_conflicting {s : ServerStore} (hs : (discipline server).Holds s) {r : CommandIdempotency}
    (hr : r ∈ s.1.commandIdempotency) (hk : r.key = k) (hh : r.requestHash = requestHash server.platform call) :
    ¬ Conflicting server.platform call k s.2 := by
  rintro ⟨i, c, before, after, hm, r', hr', hk', hne⟩
  have hsame : r' = r := Table.key_injective (persists hs hm hr') hr (hk'.trans hk.symm)
  exact hne (hsame ▸ hh)

lemma abortable_known {previous : CommandIdempotency} (hk : keyOf call = some k) (hp : previous.key = k)
    (hh : previous.requestHash = requestHash server.platform call) (e : ServerError) :
    (discipline server).Abortable id call (Known previous) e := by
  intro s hs hknown k' _ hk'
  obtain rfl := (keyed_iff hk).mp hk'
  exact ⟨fun _ he => (nomatch he), fun hc => absurd hc (not_conflicting hs hknown hp hh)⟩

lemma abortable_answered (hk : keyOf call = some k) {resourceId : String} (e : ServerError) :
    (discipline server).Abortable id call (fun s => Answered server.platform id call k resourceId s.2) e := by
  intro s hs ha k' _ hk'
  obtain rfl := (keyed_iff hk).mp hk'
  obtain ⟨before, after, hm, r, hr, hrk, hh, -⟩ := ha
  exact ⟨fun _ he => (nomatch he), fun hc => absurd hc (not_conflicting hs (persists hs hm hr) hrk hh)⟩

structure Reads (call : Call) (resourceId : String) (p : Query Outcome) : Prop where
  keeps : p.Keeps Eq
  single : p.Single
  returns : p.Returns fun outcome => resourceOf call outcome = some resourceId

lemma safe_answered (hk : keyOf call = some k) {resourceId : String} {p : Query Outcome}
    (hp : Reads call resourceId p) :
    (discipline server).Safe id call p (fun base => base) held
      fun s => Answered server.platform id call k resourceId s.2 := by
  refine Discipline.safe_of_reads hp.keeps hp.single hp.returns p.raises_true stable_answered
    (fun s _ _ => committed_refl s.1)
    (fun s outcome hs ha hq k' _ hk' => ?_) (fun e _ => abortable_answered hk e)
  obtain rfl := (keyed_iff hk).mp hk'
  obtain ⟨before, after, hm, r, hr, hrk, hh, hres⟩ := ha
  refine ⟨fun o ho => ?_, ?_⟩
  · obtain rfl := Except.ok.inj ho
    exact ⟨resourceId, hq, before, after, List.mem_append_left _ hm, r, hr, hrk, hh, hres⟩
  · rintro ⟨i, c, b, a, hm', r', hr', hrk', hne⟩
    have hmem : r' ∈ s.1.commandIdempotency := by
      rcases List.mem_append.mp hm' with hm' | hm'
      · exact persists hs hm' hr'
      · obtain ⟨-, -, -, rfl⟩ := Record.committed.inj (List.mem_singleton.mp hm')
        exact hr'
    have hsame : r' = r := Table.key_injective hmem (persists hs hm hr) (hrk'.trans hrk.symm)
    exact absurd (hsame ▸ hh) hne

lemma safe_repeated (hk : keyOf call = some k) {previous : CommandIdempotency} (hp : previous.key = k)
    (hh : previous.requestHash = requestHash server.platform call) {p : Query Outcome}
    (hr : Reads call previous.resourceId p) :
    (discipline server).Safe id call (Program.commitNow >>= fun _ => p) (fun base => base) held
      (Known previous) := by
  refine Discipline.safe_commitNow stable_known fun s hs hs' => ⟨hs.inv, committed_refl s.1,
    fun s => Answered server.platform id call k previous.resourceId s.2, ?_, safe_answered hk hr⟩
  exact ⟨s.1, s.1, List.mem_append_right _ (List.mem_singleton_self _), previous, hs', hp, hh, rfl⟩

lemma safe_sameRequest (hk : keyOf call = some k) {previous : CommandIdempotency} (hp : previous.key = k)
    {next : String → Query Outcome} (hr : ∀ resourceId, Reads call resourceId (next resourceId)) :
    (discipline server).Safe id call (sameRequest (requestHash server.platform call) previous >>= fun resourceId =>
      Program.commitNow >>= fun _ => next resourceId) (fun base => base) held (Known previous) := by
  unfold sameRequest
  split
  · exact Discipline.safe_throw stable_known abortable_conflict
  · rename_i hh
    exact safe_repeated hk hp (not_not.mp hh) (hr _)

lemma returns_selectFirst {ρ κ : Type} {key : ρ → κ} (t : Relation Tables LockName key) (p : ρ → Bool) :
    (t.selectFirst p : Query (Option ρ)).Returns fun row => ∀ r, row = some r → p r = true :=
  Program.returns_select fun _ _ hr => (List.mem_filter.mp (List.mem_of_head? hr)).2

lemma returns_requireConversation (scope : Scope) (conversationId : Id) :
    (requireConversation scope conversationId).Returns fun c => c.conversationId = conversationId := by
  refine (returns_selectFirst conversations _).bind fun row hrow => ?_
  cases row with
  | none => trivial
  | some c => exact conversationId_of_inConversation c (hrow c rfl)

lemma reads_conversation {scope : Scope} {agentRef : Id} {key : String} {ids : ConversationService.CreateIds}
    {time : Timestamp} (conversationId : Id) :
    Reads (.createConversation scope agentRef key ids time) conversationId (do
    let resource ← ConversationService.get scope conversationId
    pure (.conversation resource)) := by
  refine ⟨(keeps_conversationGet (fun _ => rfl) scope conversationId).bind fun _ => trivial, ?_, ?_⟩
  · unfold ConversationService.get
    refine Program.Single.bind ((single_requireConversation _ _).bind fun _ => ?_) fun _ => trivial
    exact (Relation.single_selectFrom _ _).bind fun _ => trivial
  · unfold ConversationService.get
    rw [bind_assoc]
    refine (returns_requireConversation scope conversationId).bind fun c hc => ?_
    rw [bind_assoc]
    exact (Program.returns_true _).bind fun _ _ => congrArg some hc

lemma reads_message {scope : Scope} {conversationId : Id} {request : MessageService.SubmitMessageRequest}
    {key : String}
    {ids : MessageService.SubmitIds} {now time : Timestamp} (messageId : Id) :
    Reads (.submitMessage scope conversationId request key ids now time) messageId (do
    let resource ← MessageService.get scope conversationId messageId
    pure (.message resource)) := by
  refine ⟨(keeps_messageGet (fun _ => rfl) scope conversationId messageId).bind fun _ => trivial, ?_, ?_⟩
  · unfold MessageService.get
    refine Program.Single.bind ((single_requireConversation _ _).bind fun _ => ?_) fun _ => trivial
    refine (Relation.single_selectFirst _ _).bind fun row => ?_
    cases row <;> trivial
  · unfold MessageService.get
    rw [bind_assoc]
    refine (Program.returns_true _).bind fun _ _ => ?_
    rw [bind_assoc]
    refine (returns_selectFirst messages _).bind fun row hrow => ?_
    cases row with
    | none => trivial
    | some m =>
      have hm := hrow m rfl
      simp only [Bool.and_eq_true, decide_eq_true_eq] at hm
      exact congrArg some hm.2

lemma reads_emailHandoff {scope : Scope} {conversationId : Id}
    {request : EmailHandoffService.CreateEmailHandoffRequest} {key : String} {ids : EmailHandoffService.CreateIds}
    {now time : Timestamp} (handoffId : Id) :
    Reads (.createEmailHandoff scope conversationId request key ids now time) handoffId (do
    let response ← EmailHandoffService.get scope conversationId handoffId
    pure (.handoff response)) := by
  unfold EmailHandoffService.get Relation.selectFirstOrThrow
  refine ⟨?_, ?_, ?_⟩
  · refine Program.Keeps.bind (Program.Keeps.bind ?_ fun _ => trivial) fun _ => trivial
    exact (Relation.keeps_selectFirst _ (fun _ => rfl) _).bind fun _ => Relation.keeps_orThrow _
  · refine Program.Single.bind (Program.Single.bind ?_ fun _ => trivial) fun _ => trivial
    exact (Relation.single_selectFirst _ _).bind fun _ => Relation.single_orThrow _
  · rw [bind_assoc, bind_assoc]
    refine (returns_selectFirst handoffs _).bind fun row hrow => ?_
    cases row with
    | none => trivial
    | some h =>
      have hh := hrow h rfl
      simp only [Bool.and_eq_true, decide_eq_true_eq] at hh
      exact congrArg some hh.1.2

lemma safe_withIdempotency {α : Type} {replay : CommandIdempotency → Query α} {fresh : Query α}
    {next : α → Query Outcome}
    (hreplay : ∀ previous held, previous.key = k → Recorded server.platform previous →
      (discipline server).Safe id call (replay previous >>= next) (fun base => base) held (Known previous))
    (hfresh : ∀ held, keyLock server.platform k ∈ held → (discipline server).Safe id call (fresh >>= next)
      (fun base => base) held (Fresh k fun _ => True)) :
    (discipline server).Safe id call (withIdempotency server.platform k replay fresh >>= next)
      (fun base => base) []
      fun _ => True := by
  unfold withIdempotency lockIdempotency findIdempotency
  rw [bind_assoc]
  refine Discipline.safe_lock Discipline.stable_true fun s _ _ => ⟨fun _ => True, trivial, ?_⟩
  rw [bind_assoc]
  refine Discipline.safe_selectFirst Discipline.stable_true fun s₁ hs₁ _ => ?_
  cases hf : (commandIdempotency.matching (fun r => decide (r.key = k)) s₁.1).head? with
  | some previous =>
    obtain ⟨hm, hk⟩ := List.mem_filter.mp (List.mem_of_head? hf)
    exact ⟨_, hm, hreplay previous _ (of_decide_eq_true hk) (hs₁.inv previous hm)⟩
  | none =>
    refine ⟨_, ⟨Table.find?_eq_none.mpr fun r hr hk => ?_, trivial⟩, hfresh _ (List.mem_cons_self ..)⟩
    have hmem : r ∈ commandIdempotency.matching (fun r => decide (r.key = k)) s₁.1 :=
      List.mem_filter.mpr ⟨hr, by simpa using hk⟩
    rw [List.head?_eq_none_iff.mp hf] at hmem
    cases hmem

lemma stable_row {n : LockName} {mode : LockMode} (hl : (⟨n, mode⟩ : Lock LockName) ∈ held) (hm : mode ≠ .keyShare)
    (Q : Cell → Prop) : (discipline server).Stable id held fun s => Q (cell server.platform n s.1) :=
  Discipline.stable_cell hl hm Q

section Inserts

variable {ρ κ : Type} {key : ρ → κ} [DecidableEq κ] {t : Relation Tables LockName key} {r : ρ}

omit [DecidableEq κ] in
lemma mem_insertLocks : (⟨t.row (key r), .update⟩ : Lock LockName) ∈ t.insertLocks r ++ held :=
  List.mem_append_left _ (List.mem_cons_self ..)

lemma safe_made {X Y : Tables → Prop} (hk : keyOf call = some k) (hl : keyLock server.platform k ∈ held)
    (hX : (discipline server).Stable id held fun s => X s.1)
    (hY : (discipline server).Stable id (t.insertLocks r ++ held) fun s => Y s.1) {pending : Tables → Tables}
    (hfree : ∀ db, X db → (t.get (pending db)).find? (key r) = none → Y db) {next : Query Outcome}
    (h : keyLock server.platform k ∈ t.insertLocks r ++ held →
      (discipline server).Stable id (t.insertLocks r ++ held) (fun s => X s.1 ∧ Y s.1) →
      (discipline server).Safe id call next (fun base => t.put (pending base) ((t.get (pending base)).insert r))
        (t.insertLocks r ++ held) (Fresh k fun db => X db ∧ Y db)) :
    (discipline server).Safe id call (t.insertInto r >>= fun _ => next) pending held (Fresh k X) := by
  refine Discipline.safe_insertInto (stable_fresh hl hX) (fun _ _ _ => abortable_fresh hk _) fun s hs hs' hok => ?_
  refine ⟨Fresh k fun db => X db ∧ Y db, ⟨hs'.absent, hs'.rows, ?_⟩, ?_⟩
  · exact hfree _ hs'.rows (t.broken_eq_none.mp hok).2.1
  · exact h (List.mem_append_right _ hl) ((hX.mono (List.subset_append_right _ _)).and hY)

end Inserts

lemma safe_answer {answer : CommandIdempotency} (hk : keyOf call = some answer.key)
    (hh : answer.requestHash = requestHash server.platform call) (hl : keyLock server.platform answer.key ∈ held)
    {X : Tables → Prop} (hX : (discipline server).Stable id held fun s => X s.1) {pending : Tables → Tables}
    (hpending : ∀ db, (pending db).commandIdempotency = db.commandIdempotency)
    (hmakes : ∀ db, X db → ∀ commands, Makes call answer.resourceId db
      { pending db with commandIdempotency := commands }) {p : Query Outcome}
      (hr : Reads call answer.resourceId p) :
    (discipline server).Safe id call
      (commandIdempotency.insertInto answer >>= fun _ => Program.commitNow >>= fun _ => p)
      pending held (Fresh answer.key X) := by
  refine Discipline.safe_insertInto (stable_fresh hl hX) (fun _ _ _ => abortable_fresh hk _) fun s hs hs' _ =>
    ⟨Fresh answer.key X, hs', ?_⟩
  refine Discipline.safe_commitNow ((stable_fresh hl hX).mono (List.subset_append_right _ _)) fun s₁ hs₁ hs₁' => ?_
  have habsent : (pending s₁.1).commandIdempotency.find? answer.key = none := by
    rw [hpending]
    exact hs₁'.absent
  have heffect : Effect server.platform call answer s₁.1
      { pending s₁.1 with commandIdempotency := (pending s₁.1).commandIdempotency.insert answer } := by
    refine ⟨hk, hh, ?_, hmakes _ hs₁'.rows _⟩
    exact (Table.insert_of_absent habsent).trans (by rw [hpending])
  have hcommitted : Committed server.platform call s₁.1 _ := ⟨heffect.grows, fun _ => Or.inr ⟨answer, heffect⟩⟩
  refine ⟨hs₁.inv.committed hcommitted, hcommitted, fun s => Answered server.platform id call answer.key
    answer.resourceId s.2, ?_, safe_answered hk hr⟩
  exact ⟨_, _, List.mem_append_right _ (List.mem_singleton_self _), answer,
    heffect.mem.mpr (Or.inr rfl), rfl, hh, rfl⟩

lemma safe_create (scope : Scope) (agentRef : Id) (idempotencyKey : String) (ids : ConversationService.CreateIds)
    (time : Timestamp) : (discipline server).Safe id (.createConversation scope agentRef idempotencyKey ids time)
      (body server (.createConversation scope agentRef idempotencyKey ids time)) (fun base => base) []
      fun _ => True := by
  simp only [body, ConversationService.create, Program.transaction, map_eq_pure_bind, bind_assoc, pure_bind]
  refine safe_withIdempotency (fun previous _ hp _ => safe_sameRequest rfl hp fun _ => reads_conversation _)
    fun held hl => ?_
  simp only [ConversationService.insertConversation, bind_assoc, pure_bind]
  refine safe_made (Y := fun db => db.conversations.find? ids.id = none) rfl hl Discipline.stable_true
    (stable_row mem_insertLocks (by simp) fun c => c.conversation = none) (fun _ _ h => h) fun hl hX => ?_
  refine safe_made (Y := fun db => db.conversationParticipants.find? ids.userParticipantId = none) rfl hl hX
    (stable_row mem_insertLocks (by simp) fun c => c.participant = none) (fun _ _ h => h) fun hl hX => ?_
  refine safe_made (Y := fun db => db.conversationParticipants.find? ids.agentParticipantId = none ∧
    ids.userParticipantId ≠ ids.agentParticipantId) rfl hl hX (stable_row mem_insertLocks (by simp)
      fun c => c.participant = none ∧ ids.userParticipantId ≠ ids.agentParticipantId) ?_ fun hl hX => ?_
  · intro db _ hfree
    have hagent : (db.conversationParticipants.insert (ConversationService.userParticipant scope ids)).find?
        ids.agentParticipantId = none := hfree
    exact ⟨Table.find?_of_insert_eq_none hagent,
      Table.ne_of_insert_eq_none (r := ConversationService.userParticipant scope ids) hagent⟩
  · refine safe_answer ?_ ?_ ?_ hX ?_ ?_ ?_
    · rfl
    · rfl
    · exact hl
    · exact fun _ => rfl
    · intro db hdb commands
      obtain ⟨⟨⟨-, hconversation⟩, huser⟩, hagent, hne⟩ := hdb
      exact ⟨rfl, Table.insert_of_absent hconversation, Table.insert_insert_of_absent huser hagent hne, rfl⟩
    · exact reads_conversation _

lemma safe_submit (scope : Scope) (conversationId : Id) (request : MessageService.SubmitMessageRequest)
    (idempotencyKey : String) (ids : MessageService.SubmitIds) (now time : Timestamp) :
    (discipline server).Safe id (.submitMessage scope conversationId request idempotencyKey ids now time)
      (body server (.submitMessage scope conversationId request idempotencyKey ids now time)) (fun base => base) []
      fun _ => True := by
  have hrefl : ∀ db : Tables, db = db := fun _ => rfl
  simp only [body, MessageService.submit, Program.transaction, map_eq_pure_bind, bind_assoc, pure_bind]
  refine safe_withIdempotency (fun previous _ hp _ => safe_sameRequest rfl hp fun _ =>
    reads_message _) fun held hl => ?_
  simp only [MessageService.insertMessage, bind_assoc, pure_bind]
  refine Discipline.safe_reads_bind (keeps_requireConversation hrefl _ _) (single_requireConversation _ _)
    (Program.raises_true _) (stable_fresh hl Discipline.stable_true) (fun e _ => abortable_fresh rfl e)
      fun c held hsub => ?_
  replace hl := hsub hl
  refine Discipline.safe_reads_bind (Relation.keeps_selectFirstOrThrow _ hrefl _)
    (Relation.single_selectFirstOrThrow _ _) (Program.raises_true _)
    (stable_fresh hl Discipline.stable_true)
    (fun e _ => abortable_fresh rfl e) fun participant held hsub => ?_
  replace hl := hsub hl
  refine Discipline.safe_updateTable (stable_fresh hl Discipline.stable_true)
    (fun _ _ _ _ _ => abortable_fresh rfl _) fun s hs hs' => ⟨_, hs', ?_⟩
  replace hl := List.mem_append_right (conversations.rowLocks .noKeyUpdate
    (conversations.matching (inConversation scope conversationId) s.1)) hl
  refine Discipline.safe_orThrow (stable_fresh hl Discipline.stable_true) (fun _ => abortable_fresh rfl _)
    fun updated hupdated => ?_
  have hseen : ∀ d, conversations.seen (inConversation scope conversationId) s.1 d =
      inConversation scope conversationId d := by
    refine conversations.seen_of_keys fun d hd => ?_
    obtain ⟨c, hc, -⟩ := List.mem_map.mp (List.mem_of_head? hupdated)
    exact ⟨c, hc, (conversationId_of_inConversation c (List.mem_filter.mp hc).2).trans
      (conversationId_of_inConversation d hd).symm⟩
  refine safe_made (Y := fun db => db.messages.find? ids.id = none) rfl hl Discipline.stable_true
    (stable_row mem_insertLocks (by simp) fun c => c.message = none) (fun _ _ h => h) fun hl hX => ?_
  refine safe_made (Y := fun db => db.agentRuns.find? ids.runId = none) rfl hl hX
    (stable_row mem_insertLocks (by simp) fun c => c.run = none) (fun _ _ h => h) fun hl hX => ?_
  refine safe_answer ?_ ?_ ?_ hX ?_ ?_ ?_
  · rfl
  · rfl
  · exact hl
  · exact fun _ => rfl
  · intro db hdb commands
    obtain ⟨⟨-, hmessage⟩, hrun⟩ := hdb
    refine ⟨rfl, List.map_congr_left fun d _ => ?_, ⟨_, _, Table.insert_of_absent hmessage⟩,
      ⟨_, Table.insert_of_absent hrun⟩, rfl⟩
    rw [hseen d]
  · exact reads_message _

lemma safe_emailHandoff (scope : Scope) (conversationId : Id)
    (request : EmailHandoffService.CreateEmailHandoffRequest)
    (idempotencyKey : String) (ids : EmailHandoffService.CreateIds) (now time : Timestamp) :
    (discipline server).Safe id (.createEmailHandoff scope conversationId request idempotencyKey ids now time)
      (body server (.createEmailHandoff scope conversationId request idempotencyKey ids now time))
      (fun base => base) []
      fun _ => True := by
  have hrefl : ∀ db : Tables, db = db := fun _ => rfl
  simp only [body, EmailHandoffService.create, Program.transaction, map_eq_pure_bind, bind_assoc, pure_bind]
  refine safe_withIdempotency (fun previous _ hp _ => safe_sameRequest rfl hp fun _ =>
    reads_emailHandoff _) fun held hl => ?_
  simp only [EmailHandoffService.insertHandoff, bind_assoc]
  refine Discipline.safe_reads_bind (keeps_requireConversation hrefl _ _) (single_requireConversation _ _)
    (Program.raises_true _) (stable_fresh hl Discipline.stable_true) (fun e _ => abortable_fresh rfl e)
      fun c held hsub => ?_
  replace hl := hsub hl
  refine Discipline.safe_reads_bind (Relation.keeps_selectFrom _ hrefl _) (Relation.single_selectFrom _ _)
    (Program.raises_true _) (stable_fresh hl Discipline.stable_true) (fun e _ => abortable_fresh rfl e)
      fun candidates held hsub => ?_
  replace hl := hsub hl
  cases (candidates.mergeSort EmailHandoffService.laterFirst).head? with
  | none => exact Discipline.safe_throw (stable_fresh hl Discipline.stable_true) (abortable_fresh rfl _)
  | some trigger =>
    simp only [bind_assoc, pure_bind]
    refine safe_made (Y := fun db => db.agentRuns.find? ids.runId = none) rfl hl Discipline.stable_true
      (stable_row mem_insertLocks (by simp) fun c => c.run = none) (fun _ _ h => h) fun hl hX => ?_
    refine safe_made (Y := fun db => db.handoffs.find? ids.id = none) rfl hl hX
      (stable_row mem_insertLocks (by simp) fun c => c.handoff = none) (fun _ _ h => h) fun hl hX => ?_
    refine safe_made (Y := fun db => db.structuredInputRequests.find? ids.id = none) rfl hl hX
      (stable_row mem_insertLocks (by simp) fun c => c.input = none) (fun _ _ h => h) fun hl hX => ?_
    refine safe_answer ?_ ?_ ?_ hX ?_ ?_ ?_
    · rfl
    · rfl
    · exact hl
    · exact fun _ => rfl
    · intro db hdb commands
      obtain ⟨⟨⟨-, hrun⟩, hhandoff⟩, hinput⟩ := hdb
      exact ⟨rfl, ⟨_, _, Table.insert_of_absent hrun⟩, Table.insert_of_absent hhandoff,
        Table.insert_of_absent hinput, rfl⟩
    · exact reads_emailHandoff _

section Cancel

variable (scope : Scope) (conversationId : Id) (idempotencyKey : String) (order : Arrangement AgentRun)
  (now time : Timestamp)

lemma reads_cancellation (runId : Id) (status : RunService.CancellationStatus) :
    Reads (.cancelRun scope conversationId idempotencyKey order now time) (RunService.encodeOutcome runId status)
      (Pure.pure (.cancellation ⟨conversationId, runId, status⟩)) :=
  ⟨trivial, trivial, rfl⟩

lemma stable_run {run : AgentRun} (hl : (⟨.run run.runId, .update⟩ : Lock LockName) ∈ held) :
    (discipline server).Stable id held fun s => s.1.agentRuns.find? run.runId = some run :=
  stable_row hl (by simp) fun c => c.run = some run

lemma idle_rows {run : AgentRun} {db : Tables} (hdb : db.agentRuns.find? run.runId = some run)
    (hd : decided now run = run) :
    db.agentRuns.rows.map (fun r => if r.runId = run.runId then decided now r else r) = db.agentRuns.rows := by
  refine (List.map_congr_left fun r hr => ?_).trans (List.map_id _)
  by_cases hr' : r.runId = run.runId
  · obtain rfl := Table.key_injective hr (Table.find?_eq_some.mp hdb).1 hr'
    simp [hd]
  · simp [hr']

lemma safe_decided {run : AgentRun} (hof : RunService.ofConversation scope conversationId run = true)
    (hl : keyLock server.platform (commandKey scope (RunService.operation conversationId) idempotencyKey) ∈ held)
    (hrun : (⟨.run run.runId, .update⟩ : Lock LockName) ∈ held) {pending : Tables → Tables}
    (hpending : ∀ db, db.agentRuns.find? run.runId = some run → pending db = { db with
      agentRuns := (pending db).agentRuns } ∧ (pending db).agentRuns.rows =
        db.agentRuns.rows.map (fun r => if r.runId = run.runId then decided now r else r))
    (hcommands : ∀ db, (pending db).commandIdempotency = db.commandIdempotency) :
    (discipline server).Safe id (.cancelRun scope conversationId idempotencyKey order now time)
      (commandIdempotency.insertInto ⟨commandKey scope (RunService.operation conversationId) idempotencyKey,
          RunService.requestHash server.platform, RunService.encodeOutcome run.runId
            (decision run.status), time⟩ >>=
        fun _ => Program.commitNow >>= fun _ =>
          Pure.pure (.cancellation ⟨conversationId, run.runId, decision run.status⟩))
      pending held (Fresh (commandKey scope (RunService.operation conversationId) idempotencyKey)
        fun db => db.agentRuns.find? run.runId = some run) := by
  refine safe_answer ?_ ?_ ?_ (stable_run hrun) ?_ ?_ ?_
  · rfl
  · rfl
  · exact hl
  · exact hcommands
  · intro db hdb commands
    obtain ⟨hrest, hrows⟩ := hpending db hdb
    refine ⟨run, (Table.find?_eq_some.mp hdb).1, hof, rfl, hrows, ?_⟩
    conv_lhs => rw [hrest]
  · exact reads_cancellation _ _ _ _ _ _ _ _

lemma safe_decidedUpdate {run : AgentRun} (hof : RunService.ofConversation scope conversationId run = true)
    (hl : keyLock server.platform (commandKey scope (RunService.operation conversationId) idempotencyKey) ∈ held)
    (hrun : (⟨.run run.runId, .update⟩ : Lock LockName) ∈ held) (f : AgentRun → AgentRun)
    (hf : ∀ r, (f r).runId = r.runId) (hfrun : f run = decided now run) :
    (discipline server).Safe id (.cancelRun scope conversationId idempotencyKey order now time)
      (agentRuns.updateTable (fun r => decide (r.runId = run.runId)) f hf >>= fun _ =>
        commandIdempotency.insertInto ⟨commandKey scope (RunService.operation conversationId) idempotencyKey,
          RunService.requestHash server.platform, RunService.encodeOutcome run.runId
          (decision run.status), time⟩ >>=
        fun _ => Program.commitNow >>= fun _ =>
          Pure.pure (.cancellation ⟨conversationId, run.runId, decision run.status⟩))
      (fun base => base) held (Fresh (commandKey scope (RunService.operation conversationId) idempotencyKey)
        fun db => db.agentRuns.find? run.runId = some run) := by
  refine Discipline.safe_updateTable (stable_fresh hl (stable_run hrun)) (fun _ _ _ _ _ => abortable_fresh rfl _)
    fun s hs hs' => ⟨_, hs', ?_⟩
  have hseen : ∀ r, agentRuns.seen (fun r => decide (r.runId = run.runId)) s.1 r =
    decide (r.runId = run.runId) := by
    refine agentRuns.seen_of_keys fun r hr =>
      ⟨run, List.mem_filter.mpr ⟨(Table.find?_eq_some.mp hs'.rows).1, ?_⟩, ?_⟩
    · exact decide_eq_true rfl
    · exact (of_decide_eq_true hr).symm
  refine safe_decided scope conversationId idempotencyKey order now time hof (List.mem_append_right _ hl)
    (List.mem_append_right _ hrun) (fun db hdb => ⟨rfl, List.map_congr_left fun r hr => ?_⟩) fun _ => rfl
  obtain ⟨hmem, -⟩ := Table.find?_eq_some.mp hdb
  rw [hseen r]
  by_cases hr' : r.runId = run.runId
  · obtain rfl := Table.key_injective hr hmem hr'
    simp [hfrun]
  · simp [hr']

lemma safe_cancel : (discipline server).Safe id (.cancelRun scope conversationId idempotencyKey order now time)
    (body server (.cancelRun scope conversationId idempotencyKey order now time)) (fun base => base) []
      fun _ => True := by
  have hrefl : ∀ db : Tables, db = db := fun _ => rfl
  simp only [body, RunService.cancel, Program.transaction, map_eq_pure_bind, bind_assoc, pure_bind]
  refine safe_withIdempotency (fun previous held hp hrecorded => ?_) fun held hl => ?_
  · have hkey : initial (commandKey scope (RunService.operation conversationId) idempotencyKey) =
        letter (.cancelRun scope conversationId idempotencyKey order now time) := initial_keyOf rfl
    obtain ⟨hh, runId, status, he⟩ := hrecorded (hp ▸ hkey)
    replace hh : previous.requestHash = requestHash server.platform
      (.cancelRun scope conversationId idempotencyKey order now time) := hh
    rw [he, decodeOutcome_encodeOutcome]
    split
    · exact Discipline.safe_throw stable_known (abortable_known rfl hp hh _)
    · rw [pure_bind]
      exact safe_repeated rfl hp hh (he ▸ reads_cancellation _ _ _ _ _ _ runId status)
  · simp only [RunService.cancelLatest, bind_assoc]
    refine Discipline.safe_reads_bind (keeps_requireConversation hrefl _ _) (single_requireConversation _ _)
      (Program.raises_true _) (stable_fresh hl Discipline.stable_true) (fun e _ => abortable_fresh rfl e)
        fun c held hsub => ?_
    replace hl := hsub hl
    refine Discipline.safe_forUpdate (stable_fresh hl Discipline.stable_true) fun s hs hs' => ?_
    cases hrun : (order.sorted RunService.latestFirst
        (agentRuns.matching (RunService.ofConversation scope conversationId) s.1)).head? with
    | none => exact ⟨_, hs', Discipline.safe_throw ((stable_fresh hl Discipline.stable_true).mono
        (List.subset_append_right _ _)) (abortable_fresh rfl _)⟩
    | some run =>
      have hmatch : run ∈ agentRuns.matching (RunService.ofConversation scope conversationId) s.1 :=
        Arrangement.mem_sorted.mp (List.mem_of_head? hrun)
      obtain ⟨hmem, hof⟩ := List.mem_filter.mp hmatch
      have hlocked : (⟨.run run.runId, .update⟩ : Lock LockName) ∈ agentRuns.rowLocks .update
          (agentRuns.matching (RunService.ofConversation scope conversationId) s.1) ++ held :=
        List.mem_append_left _ (List.mem_map.mpr ⟨run, hmatch, rfl⟩)
      refine ⟨Fresh _ fun db => db.agentRuns.find? run.runId = some run,
        ⟨hs'.absent, Table.find?_key hmem⟩, ?_⟩
      simp only [bind_assoc, pure_bind]
      have hl' := List.mem_append_right (agentRuns.rowLocks .update
        (agentRuns.matching (RunService.ofConversation scope conversationId) s.1)) hl
      unfold RunService.cancelRun
      cases hstatus : run.status with
      | queued =>
        have hsafe : (discipline server).Safe id _ _ _ _ _ :=
          safe_decidedUpdate scope conversationId idempotencyKey
          order now time hof hl' hlocked (RunService.cancelQueued now) (fun _ => rfl) (by simp [decided, hstatus])
        rw [hstatus] at hsafe
        simpa only [RunService.updateRun, bind_assoc, pure_bind, decision] using hsafe
      | running | cancelRequested =>
        have hsafe : (discipline server).Safe id _ _ _ _ _ :=
          safe_decidedUpdate scope conversationId idempotencyKey
          order now time hof hl' hlocked (RunService.requestCancel now) (fun _ => rfl) (by simp [decided, hstatus])
        rw [hstatus] at hsafe
        simpa only [RunService.updateRun, bind_assoc, pure_bind, decision] using hsafe
      | waitingForInput | completed | failed | cancelled =>
        have hsafe : (discipline server).Safe id _ _ (fun base => base) _ _ := safe_decided scope conversationId
          idempotencyKey order now time hof hl' hlocked
            (fun db hdb => ⟨rfl, (idle_rows now hdb (by simp [decided, hstatus])).symm⟩) fun _ => rfl
        rw [hstatus] at hsafe
        simpa only [pure_bind, decision] using hsafe

end Cancel

end Stages

theorem sound (server : Deployment) (principals : Table Principal.principalId)
    (browserSessions : Table BrowserSession.sessionId) (bootstraps : Table SessionBootstrapIdempotency.key)
    (moves : List ServerMove) : (discipline server).Sound
      ((World.initial (unused principals browserSessions bootstraps) : ServerWorld).exec (body server) moves) := by
  refine Discipline.sound_exec (guarded_body server) (fun id call st _ _ => ?_)
    (fun r hr => absurd hr (Table.notMem_empty r)) trivial moves
  cases call
  case createConversation scope agentRef key ids time =>
    exact ⟨_, trivial, safe_create scope agentRef key ids time⟩
  case submitMessage scope c request key ids now time =>
    exact ⟨_, trivial, safe_submit scope c request key ids now time⟩
  case createEmailHandoff scope c request key ids now time =>
    exact ⟨_, trivial, safe_emailHandoff scope c request key ids now time⟩
  case cancelRun scope c key order now time => exact ⟨_, trivial, safe_cancel scope c key order now time⟩
  all_goals
    refine ⟨fun _ => True, trivial, Discipline.safe_of_keeps _ grows_refl (fun _ _ _ => Grows.trans) ?_ ?_ ?_
      (grows_body _) []⟩
    · exact fun a b hg ha => ha.grows hg (by simp [letter])
    · exact fun h a b _ hg => ⟨hg, fun hi => absurd hi (by simp [idempotent])⟩
    · exact fun h result k hi => absurd hi (by simp [idempotent])

section History

variable {platform : Platform} {k : CommandKey} {a b : Tables}

lemma Effect.once {i j : ℕ} {call call' : Call} {answer answer' : CommandIdempotency}
    {before after before' after' : Tables}
    {h₁ h₂ h₃ : List ServerRecord} (he : Effect platform call answer before after)
    (he' : Effect platform call' answer' before' after')
    (hl : Leads a (h₁ ++ .committed i call before after :: (h₂ ++ .committed j call' before' after' :: h₃)) b)
    (hgood : ∀ i c before after, Record.committed i c before after ∈ h₂ → Committed platform c before after) :
    answer.key ≠ answer'.key := by
  intro hk
  obtain ⟨_, -, -, hl⟩ := hl.split
  obtain ⟨_, hl, rfl, -⟩ := hl.split
  have hmem : answer ∈ before'.commandIdempotency := hl.preserves (I := fun db => answer ∈ db.commandIdempotency)
    (he.mem.mpr (Or.inr rfl)) fun i q before after hm => (hgood i q before after hm).grows.kept answer
  exact Table.find?_eq_none.mp he'.absent answer hmem hk

lemma once {i j : ℕ} {call call' : Call} {before after before' after' : Tables} {h₁ h₂ : List ServerRecord}
    (hl : Leads a (h₁ ++ .committed i call before after :: h₂) b)
    (hgood : ∀ n c d e, Record.committed n c d e ∈ h₁ ++ .committed i call before after :: h₂ →
      Committed platform c d e)
    (hm : .committed j call' before' after' ∈ h₁ ++ h₂) (hu : Under k call) (hu' : Under k call')
    (hne : before ≠ after) :
    before' = after' := by
  have hwhole : .committed j call' before' after' ∈ h₁ ++ .committed i call before after :: h₂ := by
    rcases List.mem_append.mp hm with hm | hm
    · exact List.mem_append_left _ hm
    · exact List.mem_append_right _ (List.mem_cons_of_mem _ hm)
  obtain ⟨answer, he⟩ := ((hgood i call before after (by simp)).effect hu.idempotent).resolve_left hne
  rcases (hgood _ _ _ _ hwhole).effect hu'.idempotent with hsame | ⟨answer', he'⟩
  · exact hsame
  · have hk : answer.key = answer'.key :=
      Option.some.inj ((he.key.symm.trans hu.key).trans (hu'.key.symm.trans he'.key))
    rcases List.mem_append.mp hm with hm | hm
    · obtain ⟨x, y, rfl⟩ := List.append_of_mem hm
      rw [List.append_assoc, List.cons_append] at hl
      exact absurd hk.symm (he'.once he hl fun n c d e hmem => hgood n c d e (by simp [hmem]))
    · obtain ⟨x, y, rfl⟩ := List.append_of_mem hm
      exact absurd hk (he.once he' hl fun n c d e hmem => hgood n c d e (by simp [hmem]))

lemma resourceOf_cancellation {call : Call} {response : RunService.CancelRunResponse} {resourceId : String}
    (h : resourceOf call (.cancellation response) = some resourceId) :
    RunService.encodeOutcome response.runId response.cancellationStatus = resourceId := by
  cases call <;> simp only [resourceOf, reduceCtorEq, Option.some.injEq] at h
  exact h

end History

/-- However the calls under one idempotency key are interleaved with each other and with every other call
of the server, crashes and failures included: each commit has the whole effect of its call or none, only
one has an effect, whoever succeeds returns what that one made, and whoever asks for something else
afterwards fails with the conflict and changes nothing. -/
theorem idempotent_writes (server : Deployment) (principals : Table Principal.principalId)
    (browserSessions : Table BrowserSession.sessionId) (bootstraps : Table SessionBootstrapIdempotency.key)
    (moves : List ServerMove) (k : CommandKey) :
    let w := (World.initial (unused principals browserSessions bootstraps) : ServerWorld).exec (body server) moves
    (∀ id call before after, .committed id call before after ∈ w.history → Under k call →
      before = after ∨ ∃ answer, Effect server.platform call answer before after) ∧
    (∀ h₁ h₂ id call before after, w.history = h₁ ++ .committed id call before after :: h₂ → Under k call →
      before ≠ after → ∀ id' call' before' after', .committed id' call' before' after' ∈ h₁ ++ h₂ → Under k call' →
        before' = after') ∧
    (∀ id call outcome, .finished id call (.ok outcome) ∈ w.history → Under k call →
      ∃ first call' before after answer, .committed first call' before after ∈ w.history ∧
        Effect server.platform call' answer before after ∧ answer.key = k ∧
          requestHash server.platform call' = requestHash server.platform call ∧
            resourceOf call outcome = some answer.resourceId) ∧
    (∀ id call outcome id' call' outcome', .finished id call (.ok outcome) ∈ w.history → Under k call →
      .finished id' call' (.ok outcome') ∈ w.history → Under k call' →
        resourceOf call outcome = resourceOf call' outcome') ∧
    (∀ id call response id' call' response', .finished id call (.ok (.cancellation response)) ∈ w.history →
      Under k call → .finished id' call' (.ok (.cancellation response')) ∈ w.history → Under k call' →
        response.runId = response'.runId ∧ response.cancellationStatus = response'.cancellationStatus) ∧
    ∀ h₁ h₂ id call result, w.history = h₁ ++ .finished id call result :: h₂ → Under k call →
      ∀ id' call' before after, .committed id' call' before after ∈ h₁ → Under k call' → before ≠ after →
        requestHash server.platform call' ≠ requestHash server.platform call →
          result = .error idempotencyConflict ∧
            ∀ before' after', .committed id call before' after' ∈ w.history → before' = after' := by
  intro w
  have hsound := sound server principals browserSessions bootstraps moves
  have hleads := World.exec_leads (body server) (unused principals browserSessions bootstraps) moves
  have hgood : ∀ id call before after, .committed id call before after ∈ w.history →
      Committed server.platform call before after := by
    intro id call before after hm
    obtain ⟨_, _, _, hg⟩ := hsound.holds.good_of_mem hm
    exact hg
  have honce : ∀ h₁ h₂ id call before after, w.history = h₁ ++ .committed id call before after :: h₂ →
      Under k call → before ≠ after → ∀ id' call' before' after', .committed id' call' before' after' ∈ h₁ ++ h₂ →
        Under k call' → before' = after' := by
    intro h₁ h₂ id call before after he hu hne id' call' before' after' hm hu'
    rw [he] at hleads hgood
    exact once hleads hgood hm hu hu' hne
  -- a success has committed, and the outcome under its key is the one it returns
  have hanswer : ∀ id call outcome, .finished id call (.ok outcome) ∈ w.history → Under k call →
      ∃ r ∈ w.db.commandIdempotency, r.key = k ∧ r.requestHash = requestHash server.platform call ∧
        resourceOf call outcome = some r.resourceId := by
    intro id call outcome hm hu
    obtain ⟨h₁, h₂, he, hg⟩ := hsound.holds.good_of_mem hm
    obtain ⟨resourceId, hres, before, after, hc, r, hr, hk, hh, rfl⟩ :=
      (hg k hu.idempotent hu.key).answered outcome rfl
    exact ⟨r, persists hsound.holds (he ▸ List.mem_append_left _ hc) hr, hk, hh, hres⟩
  refine ⟨fun id call before after hm hu => (hgood id call before after hm).effect hu.idempotent, honce,
    ?_, ?_, ?_, ?_⟩
  · intro id call outcome hm hu
    obtain ⟨r, hr, hk, hh, hres⟩ := hanswer id call outcome hm hu
    obtain ⟨hstart, -⟩ | ⟨x, first, call', before, after, y, hsplit, hb, ha, -⟩ :=
      hleads.introduced (I := fun db => r ∈ db.commandIdempotency) hr
    · exact absurd hstart (Table.notMem_empty r)
    have hc : .committed first call' before after ∈ w.history :=
      hsplit ▸ List.mem_append_right _ (List.mem_cons_self ..)
    have hcommitted := hgood first call' before after hc
    have hk' : keyOf call' = some r.key := (hcommitted.grows.new r ha).resolve_left hb
    have hi' : idempotent call' = true := by
      refine idempotent_of_letter ?_ hu.idempotent
      rw [← initial_keyOf hk', ← initial_keyOf hu.key, hk]
    obtain rfl | ⟨answer, he⟩ := hcommitted.effect hi'
    · exact absurd ha hb
    · obtain rfl := (he.mem.mp ha).resolve_left hb
      exact ⟨first, call', before, after, r, hc, he, hk, he.hash.symm.trans hh, hres⟩
  · intro id call outcome id' call' outcome' hm hu hm' hu'
    obtain ⟨r, hr, hk, -, hres⟩ := hanswer id call outcome hm hu
    obtain ⟨r', hr', hk', -, hres'⟩ := hanswer id' call' outcome' hm' hu'
    rw [hres, hres', Table.key_injective hr hr' (hk.trans hk'.symm)]
  · intro id call response id' call' response' hm hu hm' hu'
    obtain ⟨r, hr, hk, -, hres⟩ := hanswer _ _ _ hm hu
    obtain ⟨r', hr', hk', -, hres'⟩ := hanswer _ _ _ hm' hu'
    obtain rfl := Table.key_injective hr hr' (hk.trans hk'.symm)
    exact encodeOutcome_injective ((resourceOf_cancellation hres).trans (resourceOf_cancellation hres').symm)
  · intro h₁ h₂ id call result he hu id' call' before after hc hu' hne hh
    have hc' : .committed id' call' before after ∈ w.history := he ▸ List.mem_append_left _ hc
    obtain ⟨answer, heffect⟩ := ((hgood _ _ _ _ hc').effect hu'.idempotent).resolve_left hne
    have hk : answer.key = k := Option.some.inj (heffect.key.symm.trans hu'.key)
    refine ⟨(hsound.holds.good h₁ _ h₂ he k hu.idempotent hu.key).conflict ⟨id', call', before, after, hc, answer,
      heffect.mem.mpr (Or.inr rfl), hk, heffect.hash ▸ hh⟩, fun before' after' hown => ?_⟩
    -- the commit with the effect is one of the others, as its request is another
    obtain ⟨x, y, hsplit⟩ := List.append_of_mem hc'
    refine honce x y id' call' before after hsplit hu' hne id call before' after' ?_ hu
    have hmem := hsplit ▸ hown
    rcases List.mem_append.mp hmem with hmem | hmem
    · exact List.mem_append_left _ hmem
    · rcases List.mem_cons.mp hmem with hrecord | hmem
      · obtain ⟨-, rfl, -, -⟩ := Record.committed.inj hrecord
        exact absurd rfl hh
      · exact List.mem_append_right _ hmem

end ChatCore.Services.Idempotency
