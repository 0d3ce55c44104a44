import ChatCore.Relational.SafeRules
import ChatCore.Services.Guards
import ChatCore.Services.Sweeps
import ChatCore.Services.Writes

namespace ChatCore.Services.Consent

open Protocol Relational Database

section Requests

structure Consenting (r : StructuredInputRequest) : Prop where
  checked : resolutionCheck r = true
  value : ∀ v, r.value = some v → r.status = .submitted ∧ r.consentStatus = some .granted ∧ v ≠ ""

def New : Call → StructuredInputRequest → Prop
  | .materialize run now _ event, r => ∃ requestId prompt required,
      event.body = .contactRequested requestId prompt required ∧
        r = RunWorker.newInput run now requestId prompt required
  | .createEmailHandoff scope conversationId request _ ids now _, r =>
      r = EmailHandoffService.newInput scope conversationId (EmailHandoffService.normalize request.email) ids now
  | _, _ => False

lemma email_ne_empty (email : Email) : email.text ≠ "" := by
  intro h
  have hat := email.hasAt
  rw [h] at hat
  simp at hat

lemma mem_dropWhile {c : Char} {text : List Char} (hc : EmailHandoffService.isWhiteSpace c = false)
    (h : c ∈ text) :
    c ∈ text.dropWhile EmailHandoffService.isWhiteSpace := by
  induction text with
  | nil => exact h
  | cons d text ih =>
    by_cases hd : EmailHandoffService.isWhiteSpace d = true
    · rw [List.dropWhile_cons_of_pos hd]
      rcases List.mem_cons.mp h with rfl | h
      · rw [hc] at hd
        cases hd
      · exact ih h
    · rwa [List.dropWhile_cons_of_neg hd]

lemma normalize_ne_empty (email : Email) : EmailHandoffService.normalize email ≠ "" := by
  intro h
  have hspace : EmailHandoffService.isWhiteSpace '@' = false := by decide
  have hat : '@' ∈ EmailHandoffService.trim email.text.toList := by
    have hfront := List.mem_reverse.mpr (mem_dropWhile hspace email.hasAt)
    exact List.mem_reverse.mpr (mem_dropWhile hspace hfront)
  have hmem := List.mem_map_of_mem (f := Char.toLower) hat
  have hnil : (EmailHandoffService.trim email.text.toList).map Char.toLower = [] := by
    rw [← String.toList_ofList (l := (EmailHandoffService.trim email.text.toList).map Char.toLower)]
    exact congrArg String.toList h
  rw [hnil] at hmem
  cases hmem

lemma consenting_new {call : Call} {r : StructuredInputRequest} (h : New call r) : Consenting r := by
  cases call <;> simp only [New] at h
  case materialize run now participantId event =>
    obtain ⟨requestId, prompt, required, -, rfl⟩ := h
    exact ⟨rfl, fun v hv => by simp [RunWorker.newInput] at hv⟩
  case createEmailHandoff scope conversationId request key ids now time =>
    subst h
    refine ⟨rfl, fun v hv => ⟨rfl, rfl, ?_⟩⟩
    obtain rfl := Option.some.inj hv
    exact normalize_ne_empty request.email

lemma consenting_resolve (request : StructuredInputService.SubmitStructuredInputRequest) (now : Timestamp)
    (r : StructuredInputRequest) : Consenting (StructuredInputService.resolve request now r) := by
  cases request with
  | submitted email =>
    refine ⟨rfl, fun v hv => ⟨rfl, rfl, ?_⟩⟩
    obtain rfl := Option.some.inj hv
    exact email_ne_empty email
  | declined => exact ⟨rfl, fun v hv => by cases hv⟩

lemma consenting_redact (r : StructuredInputRequest) : Consenting (RetentionService.redact r) :=
  ⟨rfl, fun _ hv => by cases hv⟩

end Requests

section Commits

structure Inserted (call : Call) (before after : Tables) : Prop where
  kept : ∀ r ∈ before.structuredInputRequests, r ∈ after.structuredInputRequests
  new : ∀ r ∈ after.structuredInputRequests, r ∈ before.structuredInputRequests ∨ New call r

def Left (r r' : StructuredInputRequest) : Prop := r' = r ∨ r.status ≠ .pending ∧ r' = RetentionService.redact r

def Swept (before after : Tables) : Prop :=
  ∀ r' ∈ after.structuredInputRequests, ∃ r ∈ before.structuredInputRequests, Left r r'

structure Resolves (request : StructuredInputService.SubmitStructuredInputRequest) (now : Timestamp)
    (input : StructuredInputRequest) (run : AgentRun) (before after : Tables) : Prop where
  found : before.structuredInputRequests.find? input.requestId = some input
  pending : input.status = .pending
  running : before.agentRuns.find? input.runId = some run
  waiting : run.status = .waitingForInput
  inputs : after.structuredInputRequests.rows = before.structuredInputRequests.rows.map (fun r =>
    if r.requestId = input.requestId then StructuredInputService.resolve request now r else r)
  runs : after.agentRuns.rows = before.agentRuns.rows.map (fun r =>
    if r.runId = input.runId then StructuredInputService.requeue now r else r)

structure Same (before after : Tables) : Prop where
  inputs : after.structuredInputRequests = before.structuredInputRequests
  runs : after.agentRuns = before.agentRuns

def Committed : Task → Tables → Tables → Prop
  | .call (.submitStructuredInput _ _ requestId request _ now _), before, after => Same before after ∨
      ∃ input run, input.requestId = requestId ∧ Resolves request now input run before after
  | .call call, before, after => Inserted call before after
  | .sweep .., before, after => Swept before after

def AllConsenting (db : Tables) : Prop := ∀ r ∈ db.structuredInputRequests, Consenting r

def Gives : Task → Id → Id → String → Tables → Tables → Prop
  | .call (.submitStructuredInput _ _ q (.submitted email) _ now _), requestId, runId, v, before, after =>
      requestId = q ∧ v = email.text ∧ ∃ input run, input.requestId = requestId ∧ input.runId = runId ∧
        Resolves (.submitted email) now input run before after
  | .call (.createEmailHandoff scope conversationId request _ ids now _), requestId, runId, v, before, after =>
      requestId = ids.id ∧ runId = ids.runId ∧ v = EmailHandoffService.normalize request.email ∧
        before.structuredInputRequests.find? requestId = none ∧
        EmailHandoffService.newInput scope conversationId v ids now ∈ after.structuredInputRequests
  | _, _, _, _, _, _ => False

variable {call : Call} {task : Task} {a b c : Tables}

lemma inserted_of_same (h : b.structuredInputRequests = a.structuredInputRequests) : Inserted call a b :=
  ⟨fun _ hr => h ▸ hr, fun _ hr => Or.inl (h ▸ hr)⟩

lemma inserted_refl (db : Tables) : Inserted call db db := inserted_of_same rfl

lemma Inserted.trans (h : Inserted call a b) (h' : Inserted call b c) : Inserted call a c := by
  refine ⟨fun r hr => h'.kept r (h.kept r hr), fun r hr => ?_⟩
  rcases h'.new r hr with hr | hn
  · exact h.new r hr
  · exact Or.inr hn

lemma swept_refl (db : Tables) : Swept db db := fun r hr => ⟨r, hr, Or.inl rfl⟩

lemma Left.trans {r r' r'' : StructuredInputRequest} (h : Left r r') (h' : Left r' r'') : Left r r'' := by
  rcases h with rfl | ⟨hp, rfl⟩
  · exact h'
  · rcases h' with rfl | ⟨-, rfl⟩
    · exact Or.inr ⟨hp, rfl⟩
    · exact Or.inr ⟨hp, rfl⟩

lemma Swept.trans (h : Swept a b) (h' : Swept b c) : Swept a c := by
  intro r hr
  obtain ⟨r', hr', hl'⟩ := h' r hr
  obtain ⟨r'', hr'', hl⟩ := h r' hr'
  exact ⟨r'', hr'', hl.trans hl'⟩

lemma same_refl (db : Tables) : Same db db := ⟨rfl, rfl⟩

lemma Same.trans (h : Same a b) (h' : Same b c) : Same a c := ⟨h'.inputs.trans h.inputs, h'.runs.trans h.runs⟩

lemma Left.consenting {r r' : StructuredInputRequest} (h : Left r r') (hr : Consenting r) : Consenting r' := by
  rcases h with rfl | ⟨-, rfl⟩
  · exact hr
  · exact consenting_redact r

inductive Origin (task : Task) (before after : Tables) (r' : StructuredInputRequest) : Prop
  | kept (r : StructuredInputRequest) (hr : r ∈ before.structuredInputRequests) (hl : Left r r')
  | resolved {scope : Scope} {conversationId requestId : Id} {key : String} {now time : Timestamp}
      {request : StructuredInputService.SubmitStructuredInputRequest} (input : StructuredInputRequest)
        (run : AgentRun)
      (ht : task = .call (.submitStructuredInput scope conversationId requestId request key now time))
      (hq : input.requestId = requestId) (hr : Resolves request now input run before after)
      (he : r' = StructuredInputService.resolve request now input)
  | added (call : Call) (ht : task = .call call) (hn : New call r')
      (ha : before.structuredInputRequests.find? r'.requestId = none)

lemma Committed.origin (h : Committed task a b) {r' : StructuredInputRequest}
    (hr' : r' ∈ b.structuredInputRequests) :
    Origin task a b r' := by
  have hinserted : ∀ call, task = .call call → Inserted call a b → Origin task a b r' := by
    intro call ht hi
    by_cases hr : r' ∈ a.structuredInputRequests
    · exact .kept r' hr (Or.inl rfl)
    · refine .added call ht ((hi.new r' hr').resolve_left hr) (Table.find?_eq_none.mpr fun r₀ hr₀ hk => hr ?_)
      rwa [← Table.key_injective (hi.kept r₀ hr₀) hr' hk]
  cases task with
  | sweep policy orders now =>
    obtain ⟨r, hr, hl⟩ := h r' hr'
    exact .kept r hr hl
  | call call =>
    cases call
    case submitStructuredInput scope conversationId requestId request key now time =>
      rcases h with hs | ⟨input, run, hq, hr⟩
      · exact .kept r' (hs.inputs ▸ hr') (Or.inl rfl)
      · have hm := hr'
        rw [← Table.mem_rows, hr.inputs] at hm
        obtain ⟨r₀, hr₀, rfl⟩ := List.mem_map.mp hm
        by_cases hk : r₀.requestId = input.requestId
        · obtain ⟨hmem, -⟩ := Table.find?_eq_some.mp hr.found
          obtain rfl := Table.key_injective hr₀ hmem hk
          exact .resolved r₀ run rfl hq hr (by simp)
        · exact .kept r₀ hr₀ (Or.inl (by simp [hk]))
    all_goals exact hinserted _ rfl h

lemma Committed.consenting (h : Committed task a b) (ha : AllConsenting a) : AllConsenting b := by
  intro r' hr'
  cases h.origin hr' with
  | kept r hr hl => exact hl.consenting (ha r hr)
  | resolved input run ht hq hr he => exact he ▸ consenting_resolve _ _ _
  | added call ht hn => exact consenting_new hn

lemma Committed.gives (h : Committed task a b) {r' : StructuredInputRequest} (hr' : r' ∈ b.structuredInputRequests)
    {v : String} (hv : r'.value = some v) :
    (∃ r ∈ a.structuredInputRequests, r.requestId = r'.requestId ∧ r.runId = r'.runId ∧ r.value = some v) ∨
      Gives task r'.requestId r'.runId v a b := by
  cases h.origin hr' with
  | kept r hr hl =>
    rcases hl with rfl | ⟨-, rfl⟩
    · exact Or.inl ⟨r', hr, rfl, rfl, hv⟩
    · cases hv
  | resolved input run ht hq hr he =>
    subst he ht
    rename_i request
    cases request with
    | declined => cases hv
    | submitted email => exact Or.inr ⟨hq, (Option.some.inj hv).symm, input, run, rfl, rfl, hr⟩
  | added call ht hn hnone =>
    subst ht
    cases call <;> simp only [New] at hn
    case materialize run now participantId event =>
      obtain ⟨requestId, prompt, required, -, rfl⟩ := hn
      cases hv
    case createEmailHandoff scope conversationId request key ids now time =>
      subst hn
      obtain rfl := Option.some.inj hv
      exact Or.inr ⟨rfl, rfl, rfl, hnone, hr'⟩

def Settles (q : Id) (before after : Tables) : Prop := ∃ r r', before.structuredInputRequests.find? q = some r ∧
  r.status = .pending ∧ after.structuredInputRequests.find? q = some r' ∧ r'.status ≠ .pending

lemma Committed.settles (h : Committed task a b) {q : Id} (hs : Settles q a b) :
    ∃ scope conversationId request key now time input run,
      task = .call (.submitStructuredInput scope conversationId q request key now time) ∧ input.requestId = q ∧
        Resolves request now input run a b := by
  obtain ⟨r, r', hr, hp, hr', hn⟩ := hs
  obtain ⟨hm, rfl⟩ := Table.find?_eq_some.mp hr
  obtain ⟨hm', hk⟩ := Table.find?_eq_some.mp hr'
  cases h.origin hm' with
  | kept r₀ hr₀ hl =>
    have hsame : r₀ = r := by
      refine Table.key_injective hr₀ hm ?_
      rw [← hk]
      rcases hl with rfl | ⟨-, rfl⟩ <;> rfl
    subst hsame
    rcases hl with rfl | ⟨hp', -⟩
    · exact absurd hp hn
    · exact absurd hp hp'
  | resolved input run ht hq hres he =>
    have hkey : input.requestId = r.requestId := by
      rw [← hk, he]
      rfl
    obtain rfl := hkey.symm.trans hq
    exact ⟨_, _, _, _, _, _, input, run, ht, hkey, hres⟩
  | added call ht hnew hnone =>
    rw [hk, hr] at hnone
    cases hnone

lemma Committed.settled (h : Committed task a b) {q : Id} {r r' : StructuredInputRequest}
    (hr : a.structuredInputRequests.find? q = some r) (hn : r.status ≠ .pending)
    (hr' : b.structuredInputRequests.find? q = some r') : r'.status ≠ .pending := by
  obtain ⟨hm, rfl⟩ := Table.find?_eq_some.mp hr
  obtain ⟨hm', hk⟩ := Table.find?_eq_some.mp hr'
  cases h.origin hm' with
  | kept r₀ hr₀ hl =>
    have hsame : r₀ = r := by
      refine Table.key_injective hr₀ hm ?_
      rw [← hk]
      rcases hl with rfl | ⟨-, rfl⟩ <;> rfl
    subst hsame
    rcases hl with rfl | ⟨-, rfl⟩
    · exact hn
    · simp [RetentionService.redact]
  | resolved input run ht hq hres he =>
    subst he
    rename_i request
    cases request <;>
      simp [StructuredInputService.resolve, StructuredInputService.SubmitStructuredInputRequest.status]
  | added call ht hnew hnone =>
    rw [hk, hr] at hnone
    cases hnone

end Commits

section Safety

def unchecked : ServerError := .constraint "structured_input_resolution_check"

def Fails : Task → ServerError → Prop
  | .call (.loadContext ..), e => e ≠ RunWorker.missingDecision ∧ e ≠ RunWorker.inconsistentDecision
  | .call (.submitStructuredInput ..), e | .call (.createEmailHandoff ..), e | .sweep .., e => e ≠ unchecked
  | .call (.materialize _ _ _ event), e =>
      (∃ requestId prompt required, event.body = .contactRequested requestId prompt required) → e ≠ unchecked
  | _, _ => True

def Rightful (h : List (Record Tables ServerError Outcome Task)) (run : AgentRun)
    (input : RunWorker.ResolvedInput) : Prop :=
  ∀ v, input.value = some v → input.status = .submitted ∧ input.consentStatus = .granted ∧
    ∃ i task before after, .committed i task before after ∈ h ∧ Gives task input.requestId run.runId v before after

def Finished (h : List (Record Tables ServerError Outcome Task)) : Task → Except ServerError Outcome → Prop
  | task, .error e => Fails task e
  | .call (.loadContext run _), .ok (.context context) =>
    ∀ input ∈ context.request.resolvedInputs, Rightful h run input
  | _, .ok _ => True

def discipline : Discipline Tables LockName ServerError Outcome Task
    (Option StructuredInputRequest × Option AgentRun) where
  inv := AllConsenting
  origin db := db.structuredInputRequests = ∅
  good h r := match r with
    | .committed _ task before after => Committed task before after
    | .finished _ task result => Finished h task result
  cell := rowCell

variable {server : Deployment} {id : ℕ} {held : List (Lock LockName)}

lemma inserted_body {call : Call} (h : ∀ scope c q request key now time,
    call ≠ .submitStructuredInput scope c q request key now time) : (body server call).Keeps (Inserted call) := by
  refine keeps_body inserted_refl server ?_
  have hsame : ∀ {a b : Tables}, b.structuredInputRequests = a.structuredInputRequests → Inserted call a b :=
    inserted_of_same
  have hcommand : ∀ k, Answers (Inserted call) k := fun k r _ db => hsame rfl
  have hnew : ∀ r, New call r → structuredInputRequests.Inserts (Inserted call) r := by
    intro r hr db
    refine ⟨fun s hs => Table.mem_insert_of_mem hs, fun s hs => ?_⟩
    rcases Table.mem_of_mem_insert hs with hs | rfl
    · exact Or.inl hs
    · exact Or.inr hr
  cases call with
  | createConversation scope agentRef key ids time =>
    exact ⟨hcommand _, fun db => hsame rfl, fun p db => hsame rfl⟩
  | submitMessage scope c request key ids now time =>
    exact ⟨hcommand _, fun db q => hsame rfl, fun m db => hsame rfl, fun r db => hsame rfl⟩
  | createEmailHandoff scope c request key ids now time =>
    exact ⟨hcommand _, fun r db => hsame rfl, fun h db => hsame rfl, hnew _ rfl⟩
  | submitStructuredInput scope c q request key now time => exact absurd rfl (h scope c q request key now time)
  | cancelRun scope c key order now time => exact ⟨hcommand _, fun db q => hsame rfl, fun db q => hsame rfl⟩
  | appendEvent => exact ⟨fun db q => hsame rfl, fun e db => hsame rfl, fun db q => hsame rfl⟩
  | materialize run now participantId event =>
    change MaterialWrites _ run now event.body
    cases hb : event.body
    case messageStarted => exact ⟨fun db q => hsame rfl, fun m db => hsame rfl⟩
    case contactRequested requestId prompt required => exact ⟨hnew _ ⟨_, _, _, hb, rfl⟩, fun db q => hsame rfl⟩
    case handoffRequested => exact fun db => hsame rfl
    case messageCompleted | handoffCompleted => exact fun db q => hsame rfl
    all_goals trivial
  | claim | complete | waitForInput | renewLease => exact fun db q => hsame rfl
  | cancel | fail => exact ⟨fun db q => hsame rfl, fun db q => hsame rfl⟩
  | replayEvents | loadContext | isCancellationRequested => trivial

section Errors

lemma broken_name {ρ κ : Type} {key : ρ → κ} [DecidableEq κ] {t : Relation Tables LockName key} {r : ρ}
    (hc : t.check r = none) (hp : t.primaryKey ≠ "structured_input_resolution_check")
    (hv : ∀ db name, t.violation db r = some name → name ≠ "structured_input_resolution_check") (db : Tables)
    (name : String) (h : t.broken db r = some name) : ServerError.constraint name ≠ unchecked := by
  intro he
  obtain rfl := ServerError.constraint.inj he
  rw [Relation.broken, hc, Option.none_or] at h
  cases hf : (t.get db).find? (key r) with
  | some s =>
    rw [hf] at h
    exact hp (Option.some.inj h)
  | none =>
    rw [hf] at h
    exact hv db _ h rfl

lemma failing_name {name name' : String} {ok : Bool} (h : failing name ok = some name') : name' = name := by
  unfold failing at h
  split at h
  · cases h
  · exact (Option.some.inj h).symm

lemma findSome?_runs (rows : List AgentRun) : rows.findSome? agentRuns.check = none :=
  List.findSome?_eq_none_iff.mpr fun _ _ => rfl

lemma broken_runs (r : AgentRun) (db : Tables) (name : String) (h : agentRuns.broken db r = some name) :
    ServerError.constraint name ≠ unchecked := by
  refine broken_name rfl (by decide) (fun db name hv => ?_) db name h
  rcases Option.or_eq_some_iff.mp hv with hv | ⟨-, hv⟩
  · exact failing_name hv ▸ by decide
  · rcases Option.or_eq_some_iff.mp hv with hv | ⟨-, hv⟩
    · exact failing_name hv ▸ by decide
    · exact failing_name hv ▸ by decide

lemma broken_handoffs (r : Handoff) (db : Tables) (name : String) (h : Database.handoffs.broken db r = some name) :
    ServerError.constraint name ≠ unchecked := by
  refine broken_name rfl (by decide) (fun db name hv => ?_) db name h
  rcases Option.or_eq_some_iff.mp hv with hv | ⟨-, hv⟩
  · exact failing_name hv ▸ by decide
  · exact failing_name hv ▸ by decide

lemma broken_inputs {r : StructuredInputRequest} (hr : Consenting r) (db : Tables) (name : String)
    (h : structuredInputRequests.broken db r = some name) : ServerError.constraint name ≠ unchecked := by
  refine broken_name (by simp [structuredInputRequests, hr.checked, failing]) (by decide)
    (fun db name hv => ?_) db name h
  exact failing_name hv ▸ by decide

lemma broken_commands (r : CommandIdempotency) (db : Tables) (name : String)
    (h : commandIdempotency.broken db r = some name) : ServerError.constraint name ≠ unchecked :=
  broken_name rfl (by decide) (fun _ _ hv => by cases hv) db name h

end Errors

section Raises

variable {E : ServerError → Prop}

lemma raises_requireConversation (hE : E conversationNotFound) (scope : Scope) (conversationId : Id) :
    (requireConversation scope conversationId).Raises E := by
  refine (Relation.raises_selectFirst _ _).bind fun c => ?_
  cases c with
  | none => exact hE
  | some c => trivial

lemma raises_sameRequest (hE : E idempotencyConflict) (hash : String) (previous : CommandIdempotency) :
    (sameRequest hash previous).Raises E := by
  rw [sameRequest]
  split
  · exact hE
  · trivial

lemma raises_inputGet (scope : Scope) (conversationId requestId : Id) :
    (StructuredInputService.get scope conversationId requestId).Raises (· ≠ unchecked) := by
  refine (raises_select _).bind fun row => ?_
  cases row with
  | none => exact (by decide : StructuredInputService.inputNotFound ≠ unchecked)
  | some row =>
    dsimp only [StructuredInputService.mapInput]
    split
    · exact fun he => by cases he
    · trivial

lemma raises_createEmailHandoff (scope : Scope) (conversationId : Id)
    (request : EmailHandoffService.CreateEmailHandoffRequest) (key : String) (ids : EmailHandoffService.CreateIds)
    (now time : Timestamp) : (EmailHandoffService.create server.platform scope conversationId request key ids now
      time).Raises (· ≠ unchecked) := by
  have hresult : (QueryError.noResult : ServerError) ≠ unchecked := by decide
  have hnew : Consenting (EmailHandoffService.newInput scope conversationId
      (EmailHandoffService.normalize request.email) ids now) :=
    @consenting_new (.createEmailHandoff scope conversationId request key ids now time) _ rfl
  refine Program.Raises.bind (Program.Raises.transaction ?_) fun handoffId =>
    (Relation.raises_selectFirstOrThrow _ hresult _).bind fun _ => trivial
  refine (raises_lock _).bind fun _ => (Relation.raises_selectFirst _ _).bind fun previous => ?_
  cases previous with
  | some previous => exact raises_sameRequest (by decide) _ _
  | none =>
    refine (raises_requireConversation (by decide) _ _).bind fun c =>
      (Relation.raises_selectFrom _ _).bind fun ms => ?_
    cases (ms.mergeSort EmailHandoffService.laterFirst).head? with
    | none => exact (by decide : EmailHandoffService.emptyConversation ≠ unchecked)
    | some trigger =>
      refine Program.Raises.bind (Relation.raises_insertInto (broken_runs _)) fun _ => ?_
      refine Program.Raises.bind (Relation.raises_insertInto (broken_handoffs _)) fun _ => ?_
      refine Program.Raises.bind (Relation.raises_insertInto (broken_inputs hnew)) fun _ => ?_
      exact Program.Raises.bind (Relation.raises_insertInto (broken_commands _)) fun _ => trivial

lemma raises_storing (taken : Bool) : (storing taken).Raises (· ≠ unchecked) := by
  cases taken
  · exact (by decide : (ServerError.error "unsupported Unicode escape sequence") ≠ unchecked)
  · trivial

lemma raises_requestContact (run : AgentRun) (now : Timestamp) (requestId : Id) (prompt : String)
    (required : Bool) :
    (RunWorker.requestContact run now requestId prompt required).Raises (· ≠ unchecked) := by
  have hresult : (QueryError.noResult : ServerError) ≠ unchecked := by decide
  have hnew : Consenting (RunWorker.newInput run now requestId prompt required) :=
    ⟨rfl, fun v hv => by cases hv⟩
  refine Program.Raises.transaction ?_
  refine (Relation.raises_selectFirstOrThrow _ hresult _).bind fun handoff => ?_
  refine Program.Raises.bind (Relation.raises_insertOrIgnore (broken_inputs hnew)) fun _ => ?_
  refine (Relation.raises_selectFirstOrThrow _ hresult _).bind fun input => ?_
  split
  · exact fun he => by cases he
  · exact Program.Raises.bind (Relation.raises_updateTable fun _ => rfl) fun _ => trivial

end Raises

lemma safe_inserted {call : Call} {p : Query Outcome} {E : ServerError → Prop} (hp : p.Keeps (Inserted call))
    (hE : p.Raises E) (hc : ∀ a b, Inserted call a b → Committed (.call call) a b)
    (hok : ∀ h outcome, Finished h (.call call) (.ok outcome)) (herror : ∀ e, E e → Fails (.call call) e) :
    discipline.Safe id (.call call) p (fun base => base) [] fun _ => True :=
  discipline.safe_of_keeps_raises inserted_refl (fun _ _ _ => Inserted.trans)
    (fun a b hi ha => (hc a b hi).consenting ha) (fun _ a b _ hi => hc a b hi) hok
      (fun _ e he => herror e he) hp hE []

lemma sweepWrites_swept : SweepWrites fun a b => AllConsenting a → Swept a b := by
  have hsame : ∀ {a b : Tables}, b.structuredInputRequests = a.structuredInputRequests →
    AllConsenting a → Swept a b :=
    fun h _ r hr => ⟨r, h ▸ hr, Or.inl rfl⟩
  refine ⟨fun db _ => swept_refl db, fun base q hq ha r' hr' => ?_, fun base q _ r' hr' => ?_, ?_, ?_,
    ?_, ?_, ?_, ?_,
    ?_, ?_, ?_, ?_⟩
  · have hm : r' ∈ base.structuredInputRequests.update q RetentionService.redact (fun _ => rfl) := hr'
    obtain ⟨r, hr, rfl⟩ := Table.mem_update.mp hm
    refine ⟨r, hr, ?_⟩
    split
    · rename_i hqr
      obtain ⟨v, hv⟩ := Option.isSome_iff_exists.mp (hq r hqr)
      exact Or.inr ⟨by rw [((ha r hr).value v hv).1]; decide, rfl⟩
    · exact Or.inl rfl
  · have hm : r' ∈ base.structuredInputRequests.delete q := hr'
    exact ⟨r', (Table.mem_delete.mp hm).1, Or.inl rfl⟩
  all_goals exact fun base q => hsame rfl

lemma sweepErrors_checked : SweepErrors (· ≠ unchecked) := ⟨by decide, by decide⟩

lemma safe_sweep (policy : RetentionService.RetentionPolicy) (orders : RetentionService.Orders) (now : Timestamp) :
    discipline.Safe id (.sweep policy orders now) (taskBody server (.sweep policy orders now))
      (fun base => base) []
      fun _ => True := by
  have htame := tame_runOnce sweepWrites_swept sweepErrors_checked policy orders now
  have hcommitted : ∀ a b, AllConsenting a → Swept a b → Committed (.sweep policy orders now) a b :=
    fun _ _ _ h => h
  refine discipline.safe_of_keeps_raises (fun db _ => swept_refl db) ?_ ?_ ?_ ?_ ?_ (htame.keeps.map _)
    (htame.raises.map _) []
  · exact fun a b c hab hbc ha => (hab ha).trans (hbc ((hcommitted a b ha (hab ha)).consenting ha))
  · exact fun a b hab ha => (hcommitted a b ha (hab ha)).consenting ha
  · exact fun h a b ha hab => hab ha
  · intro h outcome
    cases outcome <;> trivial
  · exact fun h e he => he

section Submit

variable (scope : Scope) (conversationId requestId : Id)
  (request : StructuredInputService.SubmitStructuredInputRequest)
  (key : String) (now time : Timestamp)

lemma abortable_submit {P : Store Tables ServerError Outcome Task → Prop} {e : ServerError} (he : e ≠ unchecked) :
    discipline.Abortable id
      (.call (.submitStructuredInput scope conversationId requestId request key now time)) P e :=
  fun _ _ _ => he

lemma safe_rest {p : Query Outcome} (hp : p.Keeps Same) (hE : p.Raises (· ≠ unchecked)) {pending : Tables → Tables}
    {P : Store Tables ServerError Outcome Task → Prop} (hst : discipline.Stable id held P)
    (hP : ∀ s, discipline.Holds s → P s → Same s.1 (pending s.1) ∨ ∃ input run, input.requestId = requestId ∧
      Resolves request now input run s.1 (pending s.1)) :
    discipline.Safe id
      (.call (.submitStructuredInput scope conversationId requestId request key now time)) p pending
      held P := by
  have hconsenting : ∀ a b, Committed (.call (.submitStructuredInput scope conversationId requestId request key now
      time)) a b → AllConsenting a → AllConsenting b := fun a b h ha => h.consenting ha
  refine Discipline.safe_of_keeps_after same_refl (fun _ _ _ => Same.trans) ?_ ?_ ?_
    (fun _ _ he => he) hp hE hst ?_
  · exact fun a b hab ha => hconsenting a b (Or.inl hab) ha
  · exact fun h a b _ hab => Or.inl hab
  · intro h outcome
    cases outcome <;> trivial
  · intro s c hs hs' hc
    have hcommitted : Committed
      (.call (.submitStructuredInput scope conversationId requestId request key now time))
        s.1 c := by
      rcases hP s hs hs' with h | ⟨input, run, hq, hr⟩
      · exact Or.inl (h.trans hc)
      · refine Or.inr ⟨input, run, hq, hr.found, hr.pending, hr.running, hr.waiting, ?_, ?_⟩
        · rw [hc.inputs]
          exact hr.inputs
        · rw [hc.runs]
          exact hr.runs
    exact ⟨hcommitted.consenting hs.inv, hcommitted⟩

lemma safe_idle {p : Query Outcome} (hp : p.Keeps Same) (hE : p.Raises (· ≠ unchecked)) :
    discipline.Safe id (.call (.submitStructuredInput scope conversationId requestId request key now time)) p
      (fun base => base) held fun _ => True :=
  safe_rest scope conversationId requestId request key now time hp hE Discipline.stable_true
    fun s _ _ => Or.inl (same_refl s.1)

lemma stable_input {input : StructuredInputRequest}
    (hl : (⟨.input input.requestId, .update⟩ : Lock LockName) ∈ held) :
    discipline.Stable id held fun s => s.1.structuredInputRequests.find? input.requestId = some input := by
  intro s s' hi hs
  have hcell : rowCell (.input input.requestId) s'.1 = rowCell (.input input.requestId) s.1 :=
    hi.cell _ hl (by simp [Lock.exclusive])
  have hfind : s'.1.structuredInputRequests.find? input.requestId = s.1.structuredInputRequests.find?
    input.requestId :=
    congrArg Prod.fst hcell
  exact hfind.trans hs

lemma stable_run {run : AgentRun} (hl : (⟨.run run.runId, .noKeyUpdate⟩ : Lock LockName) ∈ held) :
    discipline.Stable id held fun s => s.1.agentRuns.find? run.runId = some run := by
  intro s s' hi hs
  have hcell : rowCell (.run run.runId) s'.1 = rowCell (.run run.runId) s.1 :=
    hi.cell _ hl (by simp [Lock.exclusive])
  have hfind : s'.1.agentRuns.find? run.runId = s.1.agentRuns.find? run.runId := congrArg Prod.snd hcell
  exact hfind.trans hs

lemma stable_locked {input : StructuredInputRequest} {q : AgentRun → Bool} (db : Tables)
    (h : discipline.Stable id held fun s => s.1.structuredInputRequests.find? input.requestId = some input) :
    discipline.Stable id (agentRuns.rowLocks .noKeyUpdate (agentRuns.matching q db) ++ held) fun s =>
      s.1.structuredInputRequests.find? input.requestId = some input ∧
        ∀ r ∈ agentRuns.matching q db, s.1.agentRuns.find? r.runId = some r := by
  refine (h.mono (List.subset_append_right _ _)).and fun s s' hi hs r hr => ?_
  exact stable_run (List.mem_append_left _ (List.mem_map.mpr ⟨r, hr, rfl⟩)) s s' hi (hs r hr)

lemma keeps_rest (k : CommandKey) (hash : String) (runId : Id) : (do
    StructuredInputService.deliverHandoff request runId now
    commandIdempotency.insertInto ⟨k, hash, requestId, time⟩ : Query Unit).Keeps Same := by
  refine Program.Keeps.bind ?_ fun _ => Relation.keeps_insertInto fun db => ⟨rfl, rfl⟩
  cases request with
  | submitted email =>
    exact Program.Keeps.bind (Relation.keeps_updateTable fun db q => ⟨rfl, rfl⟩) fun _ => trivial
  | declined => trivial

lemma raises_rest (k : CommandKey) (hash : String) (runId : Id) : (do
    StructuredInputService.deliverHandoff request runId now
    commandIdempotency.insertInto ⟨k, hash, requestId, time⟩ : Query Unit).Raises (· ≠ unchecked) := by
  refine Program.Raises.bind ?_ fun _ => Relation.raises_insertInto (broken_commands _)
  cases request with
  | submitted email => exact Program.Raises.bind (Relation.raises_updateTable fun _ => rfl) fun _ => trivial
  | declined => trivial

lemma resolves_of_locked {input : StructuredInputRequest} {run : AgentRun} (hp : input.status = .pending)
    (hrun : run.runId = input.runId) (hw : run.status = .waitingForInput) {v w base : Tables}
    (hv : input ∈ v.structuredInputRequests) (hw' : run ∈ w.agentRuns)
    (hinput : base.structuredInputRequests.find? input.requestId = some input)
    (hfind : base.agentRuns.find? run.runId = some run) {after : Tables}
    (hinputs : after.structuredInputRequests = base.structuredInputRequests.update (structuredInputRequests.seen
      (fun r => decide (r.requestId = input.requestId)) v) (StructuredInputService.resolve request now)
      (fun _ => rfl))
    (hruns : after.agentRuns = base.agentRuns.update (agentRuns.seen (fun r => decide (r.runId = input.runId) &&
      decide (r.status = .waitingForInput)) w) (StructuredInputService.requeue now) (fun _ => rfl)) :
    Resolves request now input run base after := by
  refine ⟨hinput, hp, hrun ▸ hfind, hw, ?_, ?_⟩
  · rw [hinputs]
    refine List.map_congr_left fun r _ => ?_
    have hseen : structuredInputRequests.seen (fun r => decide (r.requestId = input.requestId)) v r =
        decide (r.requestId = input.requestId) :=
      structuredInputRequests.seen_of_keys (fun r hr => ⟨input, List.mem_filter.mpr ⟨hv, decide_eq_true rfl⟩,
        (of_decide_eq_true hr).symm⟩) r
    simp only [hseen, decide_eq_true_eq]
  · rw [hruns]
    refine List.map_congr_left fun r hr => ?_
    by_cases hk : r.runId = input.runId
    · obtain ⟨hm, -⟩ := Table.find?_eq_some.mp hfind
      obtain rfl := Table.key_injective hr hm (hk.trans hrun.symm)
      have hseen : agentRuns.seen
        (fun s => decide (s.runId = input.runId) && decide (s.status = .waitingForInput)) w
          r = true := by
        simpa [Relation.seen, hk, hw] using ⟨r, List.mem_filter.mpr ⟨hw', by simp [hk, hw]⟩, hk⟩
      rw [if_pos hseen, if_pos hk]
    · have hseen : agentRuns.seen
        (fun s => decide (s.runId = input.runId) && decide (s.status = .waitingForInput)) w
          r = false := by simp [Relation.seen, hk]
      rw [if_neg (by simp [hseen]), if_neg hk]

lemma safe_resolveInput (platform : Platform) (k : CommandKey) {next : Unit → Query Outcome}
    (hn : ∀ u, (next u).Keeps Same) (hE : ∀ u, (next u).Raises (· ≠ unchecked)) :
    discipline.Safe id (.call (.submitStructuredInput scope conversationId requestId request key now time))
      (StructuredInputService.resolveInput platform scope conversationId requestId request k now time >>= next)
      (fun base => base) held fun _ => True := by
  have habort : ∀ {P : Store Tables ServerError Outcome Task → Prop} {e : ServerError}, e ≠ unchecked →
      discipline.Abortable id
        (.call (.submitStructuredInput scope conversationId requestId request key now time)) P e :=
    abortable_submit scope conversationId requestId request key now time
  simp only [StructuredInputService.resolveInput, bind_assoc]
  refine Discipline.safe_reads_bind (keeps_requireConversation (fun _ => rfl) _ _) (single_requireConversation _ _)
    (raises_requireConversation (E := (· ≠ unchecked)) (by decide) _ _) Discipline.stable_true
    (fun e he => habort he) fun c held _ => ?_
  refine Discipline.safe_forUpdate Discipline.stable_true fun s hs _ => ?_
  cases hrows : structuredInputRequests.matching
    (StructuredInputService.matchesInput scope conversationId requestId)
      s.1 with
  | nil => exact ⟨_, trivial, Discipline.safe_throw Discipline.stable_true (habort (by decide))⟩
  | cons input inputs =>
    have hm : input ∈ structuredInputRequests.matching
        (StructuredInputService.matchesInput scope conversationId requestId) s.1 := hrows ▸ List.mem_cons_self ..
    obtain ⟨hmem, hof⟩ := List.mem_filter.mp hm
    have hq : input.requestId = requestId := by
      simp only [StructuredInputService.matchesInput, Bool.and_eq_true, decide_eq_true_eq] at hof
      exact hof.2
    have hlock : (⟨.input input.requestId, .update⟩ : Lock LockName) ∈
        structuredInputRequests.rowLocks .update (input :: inputs) ++ held :=
      List.mem_append_left _ (List.mem_cons_self ..)
    have hst : ∀ more,
      discipline.Stable id (more ++ (structuredInputRequests.rowLocks .update (input :: inputs) ++ held))
        fun s => s.1.structuredInputRequests.find? input.requestId = some input :=
      fun more => stable_input (List.mem_append_right _ hlock)
    refine ⟨fun s => s.1.structuredInputRequests.find? input.requestId = some input, Table.find?_key hmem, ?_⟩
    simp only [List.head?_cons]
    split
    · exact Discipline.safe_throw (stable_input hlock) (habort (by decide))
    rename_i hp
    rw [bind_assoc]
    refine Discipline.safe_updateTable (stable_input hlock) (fun s name _ _ hc => ?_) fun s₁ hs₁ hs₁' =>
      ⟨fun s => s.1.structuredInputRequests.find? input.requestId = some input, hs₁', ?_⟩
    · have hnone : ((structuredInputRequests.matching (fun r => decide (r.requestId = input.requestId)) s.1).map
          (StructuredInputService.resolve request now)).findSome? structuredInputRequests.check = none := by
        simp [structuredInputRequests, (consenting_resolve request now _).checked, failing]
      rw [hnone] at hc
      cases hc
    split
    · exact Discipline.safe_throw (hst _) (habort (by decide))
    rw [bind_assoc]
    refine Discipline.safe_updateTable (hst _) (fun s name _ _ hc => ?_) fun s₂ hs₂ hs₂' => ?_
    · rw [findSome?_runs] at hc
      cases hc
    refine ⟨fun s => s.1.structuredInputRequests.find? input.requestId = some input ∧ ∀ r ∈ agentRuns.matching
      (fun r => decide (r.runId = input.runId) && decide (r.status = .waitingForInput)) s₂.1,
        s.1.agentRuns.find? r.runId = some r, ⟨hs₂', fun r hr => Table.find?_key (List.mem_filter.mp hr).1⟩, ?_⟩
    split
    · exact Discipline.safe_throw (stable_locked s₂.1 (hst _)) (habort (by decide))
    rename_i hlength
    rw [not_not, List.length_map] at hlength
    obtain ⟨run, hmatch⟩ := List.length_eq_one_iff.mp hlength
    have hrun : run ∈ agentRuns.matching
        (fun r => decide (r.runId = input.runId) && decide (r.status = .waitingForInput)) s₂.1 :=
      hmatch ▸ List.mem_singleton_self run
    obtain ⟨hrunmem, hrunp⟩ := List.mem_filter.mp hrun
    simp only [Bool.and_eq_true, decide_eq_true_eq] at hrunp
    refine safe_rest scope conversationId requestId request key now time ?_ ?_ (stable_locked s₂.1 (hst _))
      fun s₃ hs₃ hs₃' => ?_
    · exact (keeps_rest input.requestId request now time k _ input.runId).bind hn
    · exact (raises_rest input.requestId request now time k _ input.runId).bind hE
    · refine Or.inr ⟨input, run, hq, ?_⟩
      exact resolves_of_locked request now (not_not.mp hp) hrunp.1 hrunp.2 (Table.find?_eq_some.mp hs₁').1 hrunmem
        hs₃'.1 (hs₃'.2 run hrun) rfl rfl

lemma safe_submit : discipline.Safe id
    (.call (.submitStructuredInput scope conversationId requestId request key now time))
    (taskBody server (.call (.submitStructuredInput scope conversationId requestId request key now time)))
    (fun base => base) [] fun _ => True := by
  have hrefl : ∀ db : Tables, db = db := fun _ => rfl
  have hkeeps : (do
      Program.commitNow
      let resource ← StructuredInputService.get scope conversationId requestId
      pure (Outcome.input resource) : Query Outcome).Keeps Same :=
    Program.Keeps.bind keeps_commitNow fun _ => (keeps_inputGet same_refl _ _ _).bind fun _ => trivial
  have hraises : (do
      Program.commitNow
      let resource ← StructuredInputService.get scope conversationId requestId
      pure (Outcome.input resource) : Query Outcome).Raises (· ≠ unchecked) :=
    (raises_inputGet scope conversationId requestId).bind fun _ => trivial
  simp only [taskBody, body, StructuredInputService.submit, withIdempotency, lockIdempotency, findIdempotency,
    Program.transaction, map_eq_pure_bind, bind_assoc, pure_bind]
  refine Discipline.safe_lock Discipline.stable_true fun s hs _ => ⟨fun _ => True, trivial, ?_⟩
  refine Discipline.safe_selectFirst Discipline.stable_true fun s₁ hs₁ _ => ⟨fun _ => True, trivial, ?_⟩
  generalize (commandIdempotency.matching _ s₁.1).head? = found
  cases found with
  | some previous =>
    refine safe_idle scope conversationId requestId request key now time ?_ ?_
    · exact Program.Keeps.bind ((keeps_sameRequest _ _).bind fun _ => trivial) fun _ => hkeeps
    · exact Program.Raises.bind ((raises_sameRequest (by decide) _ _).bind fun _ => trivial) fun _ => hraises
  | none =>
    exact safe_resolveInput scope conversationId requestId request key now time server.platform _
      (fun _ => hkeeps) fun _ => hraises

end Submit

section Load

variable (run : AgentRun)

lemma resolvedInput_of_consenting {r : StructuredInputRequest} (hr : Consenting r)
    (h : RunWorker.isResolved run r = true) : r.runId = run.runId ∧
    ∃ input, RunWorker.resolvedInput r = .ok input ∧
      input.requestId = r.requestId ∧ ∀ v, input.value = some v →
        r.value = some v ∧ input.status = .submitted ∧ input.consentStatus = .granted := by
  have hchecked := hr.checked
  simp only [RunWorker.isResolved, Bool.and_eq_true, Bool.or_eq_true, decide_eq_true_eq] at h
  refine ⟨h.1.2, ?_⟩
  rcases h.2 with hs | hs
  · simp only [resolutionCheck, hs, Bool.and_eq_true, decide_eq_true_eq, Option.isSome_iff_exists] at hchecked
    obtain ⟨⟨⟨v, hv⟩, hc⟩, t, ht⟩ := hchecked
    have hne : v ≠ "" := (hr.value v hv).2.2
    refine ⟨⟨r.requestId, r.purpose, r.status, r.value, .granted, toISOString t⟩, ?_, rfl, fun w hw =>
      ⟨hw, hs, rfl⟩⟩
    simp [RunWorker.resolvedInput, ht, hc, hs, hv, hne]
  · simp only [resolutionCheck, hs, Bool.and_eq_true, decide_eq_true_eq, Option.isSome_iff_exists] at hchecked
    obtain ⟨⟨-, hc⟩, t, ht⟩ := hchecked
    refine ⟨⟨r.requestId, r.purpose, r.status, none, .declined, toISOString t⟩, ?_, rfl, fun w hw => by cases hw⟩
    simp [RunWorker.resolvedInput, ht, hc, hs]

lemma mapM_ok {α β : Type} {f : α → Except ServerError β} {rows : List α} (h : ∀ r ∈ rows, ∃ b, f r = .ok b) :
    ∃ values, rows.mapM f = .ok values ∧ ∀ b ∈ values, ∃ r ∈ rows, f r = .ok b := by
  induction rows with
  | nil => exact ⟨[], rfl, fun b hb => nomatch hb⟩
  | cons r rows ih =>
    obtain ⟨b, hb⟩ := h r (List.mem_cons_self ..)
    obtain ⟨values, hvalues, hall⟩ := ih fun s hs => h s (List.mem_cons_of_mem _ hs)
    refine ⟨b :: values, ?_, fun c hc => ?_⟩
    · rw [List.mapM_cons, hb, hvalues]
      rfl
    · rcases List.mem_cons.mp hc with rfl | hc
      · exact ⟨r, List.mem_cons_self .., hb⟩
      · obtain ⟨s, hs, he⟩ := hall c hc
        exact ⟨s, List.mem_cons_of_mem _ hs, he⟩

lemma given {s : Store Tables ServerError Outcome Task} (hs : discipline.Holds s) {r : StructuredInputRequest}
    (hr : r ∈ s.1.structuredInputRequests) {v : String} (hv : r.value = some v) :
    ∃ h₁ i task before after h₂, s.2 = h₁ ++ .committed i task before after :: h₂ ∧
      Gives task r.requestId r.runId v before after ∧ ∀ j task' b a, .committed j task' b a ∈ h₂ →
        ∃ r' ∈ a.structuredInputRequests, r'.requestId = r.requestId ∧ r'.runId = r.runId ∧ r'.value = some v := by
  obtain ⟨start, hstart, hleads⟩ := hs.leads
  have hnow : ∃ r' ∈ s.1.structuredInputRequests, r'.requestId = r.requestId ∧ r'.runId = r.runId ∧
      r'.value = some v := ⟨r, hr, rfl, rfl, hv⟩
  rcases hleads.introduced (I := fun db => ∃ r' ∈ db.structuredInputRequests, r'.requestId = r.requestId ∧
    r'.runId = r.runId ∧ r'.value = some v) hnow
      with ⟨⟨r', hr', -⟩, -⟩ | ⟨h₁, i, task, before, after, h₂, he, hb, ha, hall⟩
  · have hempty : start.structuredInputRequests = ∅ := hstart
    rw [hempty] at hr'
    exact absurd hr' (Table.notMem_empty _)
  · refine ⟨h₁, i, task, before, after, h₂, he, ?_, hall⟩
    have hcommitted : Committed task before after := hs.good h₁ _ h₂ he
    obtain ⟨r', hr', hq, hrun, hv'⟩ := ha
    rcases hcommitted.gives hr' hv' with ⟨r₀, hr₀, hq₀, hrun₀, hv₀⟩ | hg
    · exact absurd ⟨r₀, hr₀, hq₀.trans hq, hrun₀.trans hrun, hv₀⟩ hb
    · rwa [hq, hrun] at hg

lemma Rightful.append {h : List (Record Tables ServerError Outcome Task)} {input : RunWorker.ResolvedInput}
    (hr : Rightful h run input) (h' : List (Record Tables ServerError Outcome Task)) :
    Rightful (h ++ h') run input := by
  intro v hv
  obtain ⟨hs, hc, i, task, before, after, hm, hg⟩ := hr v hv
  exact ⟨hs, hc, i, task, before, after, List.mem_append_left _ hm, hg⟩

lemma safe_loadContext (orders : RunWorker.Orders) :
    discipline.Safe id (.call (.loadContext run orders)) (taskBody server (.call (.loadContext run orders)))
      (fun base => base) [] fun _ => True := by
  let E : ServerError → Prop := fun e => e ≠ RunWorker.missingDecision ∧ e ≠ RunWorker.inconsistentDecision
  have hresult : E QueryError.noResult := by decide
  have habort : ∀ {P : Store Tables ServerError Outcome Task → Prop} e, E e →
      discipline.Abortable id (.call (.loadContext run orders)) P e := fun e he _ _ _ => he
  have hfirst : ∀ {ρ κ : Type} {key : ρ → κ} (t : Relation Tables LockName key) (p : ρ → Bool)
    {held : List (Lock LockName)}
      {next : ρ → Query Outcome}, (∀ r held', discipline.Safe id (.call (.loadContext run orders)) (next r)
        (fun base => base) held' fun _ => True) → discipline.Safe id (.call (.loadContext run orders))
          (t.selectFirstOrThrow p >>= next) (fun base => base) held fun _ => True := fun t p _ _ h =>
    Discipline.safe_reads_bind (t.keeps_selectFirstOrThrow (fun _ => rfl) p) (t.single_selectFirstOrThrow p)
      (t.raises_selectFirstOrThrow hresult p) Discipline.stable_true habort fun r held' _ => h r held'
  simp only [taskBody, body, RunWorker.loadContext, map_eq_pure_bind, bind_assoc]
  refine hfirst _ _ fun currentMessage held => hfirst _ _ fun conversation held => ?_
  refine Discipline.safe_selectFrom Discipline.stable_true fun s₁ _ _ => ⟨fun _ => True, trivial, ?_⟩
  refine Discipline.safe_selectFrom Discipline.stable_true fun s₂ _ _ => ⟨fun _ => True, trivial, ?_⟩
  refine hfirst _ _ fun principal held => ?_
  refine Discipline.safe_selectFrom Discipline.stable_true fun s hs _ => ?_
  have hrows : ∀ r ∈ orders.inputs.sorted RunWorker.createdFirst (structuredInputRequests.matching
      (RunWorker.isResolved run) s.1), r ∈ s.1.structuredInputRequests ∧ r.runId = run.runId ∧
        ∃ input, RunWorker.resolvedInput r = .ok input ∧ input.requestId = r.requestId ∧
          ∀ v, input.value = some v →
          r.value = some v ∧ input.status = .submitted ∧ input.consentStatus = .granted := by
    intro r hr
    obtain ⟨hm, hres⟩ := List.mem_filter.mp (Arrangement.mem_sorted.mp hr)
    exact ⟨hm, resolvedInput_of_consenting run (hs.inv r hm) hres⟩
  obtain ⟨inputs, hinputs, hfrom⟩ := mapM_ok fun r hr => (hrows r hr).2.2.imp fun _ h => h.1
  have hrightful : ∀ input ∈ inputs, Rightful s.2 run input := by
    intro input hi v hv
    obtain ⟨r, hr, he⟩ := hfrom input hi
    obtain ⟨hm, hrun, input', he', hq, hvalue⟩ := hrows r hr
    obtain rfl := Except.ok.inj (he.symm.trans he')
    obtain ⟨hrv, hstatus, hconsent⟩ := hvalue v hv
    obtain ⟨h₁, i, task, before, after, h₂, hh, hg, -⟩ := given hs hm hrv
    exact ⟨hstatus, hconsent, i, task, before, after, hh ▸ List.mem_append_right _ (List.mem_cons_self ..),
      by rwa [hq, ← hrun]⟩
  refine ⟨fun s => ∀ input ∈ inputs, Rightful s.2 run input, hrightful, ?_⟩
  have hst : ∀ held, discipline.Stable id held fun s => ∀ input ∈ inputs, Rightful s.2 run input := by
    intro held s s' hi h input hm
    obtain ⟨r, hr, -⟩ := hi.record
    rw [hr]
    exact (h input hm).append run _
  split
  · rw [hinputs, show RunWorker.liftResult (.ok inputs) = Pure.pure inputs from rfl, pure_bind]
    split
    · exact ⟨hst _, fun s hs hP => ⟨hs.inv, inserted_refl s.1, fun input hm => (hP input hm).append run _⟩⟩
    · exact Discipline.safe_throw (hst _) (habort _ (by decide))
  · exact Discipline.safe_throw (hst _) (habort _ (by decide))

end Load

lemma raises_body {call : Call} (h : ∀ scope c q request key now time,
    call ≠ .submitStructuredInput scope c q request key now time)
    (h' : ∀ run orders, call ≠ .loadContext run orders) :
    (body server call).Raises (Fails (.call call)) := by
  cases call with
  | submitStructuredInput scope c q request key now time => exact absurd rfl (h scope c q request key now time)
  | loadContext run orders => exact absurd rfl (h' run orders)
  | createEmailHandoff scope c request key ids now time =>
    exact (raises_createEmailHandoff scope c request key ids now time).map _
  | materialize run now participantId event =>
    by_cases hb : ∃ requestId prompt required, event.body = .contactRequested requestId prompt required
    · obtain ⟨requestId, prompt, required, hb⟩ := hb
      have hp : body server (.materialize run now participantId event) =
          Outcome.done <$> (storing (!hasNul prompt) >>= fun _ =>
            RunWorker.requestContact run now requestId prompt required) := by
        simp only [body, RunWorker.materialize, hb]
      rw [hp]
      refine Program.Raises.mono (Program.Raises.map _ ?_) fun e he _ => he
      exact (raises_storing _).bind fun _ => raises_requestContact run now requestId prompt required
    · exact (Program.raises_true _).mono fun e _ hb' => absurd hb' hb
  | _ => exact Program.raises_true _

lemma safe_call {call : Call} (h : ∀ scope c q request key now time,
    call ≠ .submitStructuredInput scope c q request key now time)
    (h' : ∀ run orders, call ≠ .loadContext run orders) :
    discipline.Safe id (.call call) (taskBody server (.call call)) (fun base => base) [] fun _ => True := by
  refine safe_inserted (inserted_body h) (raises_body h h') (fun a b hi => ?_) (fun history outcome => ?_)
    fun e he => he
  · cases call
    case submitStructuredInput scope c q request key now time =>
      exact absurd rfl (h scope c q request key now time)
    all_goals exact hi
  · cases call
    case loadContext run orders => exact absurd rfl (h' run orders)
    all_goals cases outcome <;> trivial

theorem sound (server : Deployment) (principals : Table Principal.principalId)
    (browserSessions : Table BrowserSession.sessionId) (bootstraps : Table SessionBootstrapIdempotency.key)
    (moves : List (Move Task)) : discipline.Sound
      ((World.initial (unused principals browserSessions bootstraps)).exec (taskBody server) moves) := by
  refine Discipline.sound_exec (fun task => ?_) (fun id task st _ _ => ⟨fun _ => True, trivial, ?_⟩)
    (fun r hr => absurd hr (Table.notMem_empty r)) rfl moves
  · cases task with
    | call call => exact (guarded_body server call).coarsen (rowCell_of_cell server.platform)
    | sweep policy orders now =>
      exact (tame_runOnce sweepWrites_swept sweepErrors_checked policy orders now).guarded.map _
  · cases task with
    | sweep policy orders now => exact safe_sweep policy orders now
    | call call =>
      cases call
      case submitStructuredInput scope c q request key now time => exact safe_submit scope c q request key now time
      case loadContext run orders => exact safe_loadContext run orders
      all_goals exact safe_call (fun _ _ _ _ _ _ _ => nofun) fun _ _ => nofun

end Safety

section History

variable {h h₁ h₂ h₃ : List (Record Tables ServerError Outcome Task)}

lemma settled_once {start final : Tables} {i j : ℕ} {task task' : Task}
    {before after before' after' : Tables} {q : Id}
    (hleads : Leads start h final) (hgood : ∀ i task before after, .committed i task before after ∈ h →
      Committed task before after) (he : h = h₁ ++ .committed i task before after :: (h₂ ++
        .committed j task' before' after' :: h₃)) (hs : Settles q before after) (hs' : Settles q before' after') :
    ∃ k removal b a, .committed k removal b a ∈ h₂ ∧ a.structuredInputRequests.find? q = none := by
  by_contra hnone
  push Not at hnone
  rw [he] at hleads hgood
  obtain ⟨middle, -, rfl, hrest⟩ := hleads.split
  obtain ⟨last, hl, rfl, -⟩ := hrest.split
  obtain ⟨-, r, -, -, hr, hn⟩ := hs
  obtain ⟨r', -, hr', hp, -⟩ := hs'
  have hsettled : ∃ r, before'.structuredInputRequests.find? q = some r ∧ r.status ≠ .pending := by
    refine hl.preserves (I := fun db => ∃ r, db.structuredInputRequests.find? q = some r ∧ r.status ≠ .pending)
      ⟨r, hr, hn⟩ ?_
    rintro k step b a hm ⟨r₀, hr₀, hn₀⟩
    obtain ⟨r₁, hr₁⟩ := Option.ne_none_iff_exists'.mp (hnone k step b a hm)
    exact ⟨r₁, hr₁, (hgood k step b a (by simp [hm])).settled hr₀ hn₀ hr₁⟩
  obtain ⟨r₀, hr₀, hn₀⟩ := hsettled
  rw [hr', Option.some.injEq] at hr₀
  exact hn₀ (hr₀ ▸ hp)

end History

/-- However visitors, workers and sweeps are interleaved: in every state a value is there only with consent;
no write of a request fails on the check; whatever settles a request is a submission that puts its waiting run
back into the queue, and it is the only one while the request is there; a value that is there was given by some
commit and has been there since; and a connector gets only values that were given for requests of its run. -/
theorem consent_integrity (server : Deployment) (principals : Table Principal.principalId)
    (browserSessions : Table BrowserSession.sessionId) (bootstraps : Table SessionBootstrapIdempotency.key)
    (moves : List (Move Task)) :
    let w := (World.initial (unused principals browserSessions bootstraps)).exec (taskBody server) moves
    AllConsenting w.db ∧
    (∀ i task before after, .committed i task before after ∈ w.history → Committed task before after) ∧
    (∀ i task e, .finished i task (.error e) ∈ w.history → Fails task e) ∧
    (∀ i task before after q, .committed i task before after ∈ w.history → Settles q before after →
      ∃ scope conversationId request key now time input run,
        task = .call (.submitStructuredInput scope conversationId q request key now time) ∧ input.requestId = q ∧
          Resolves request now input run before after) ∧
    (∀ h₁ h₂ h₃ i j task task' before after before' after' q, w.history = h₁ ++ .committed i task before after ::
      (h₂ ++ .committed j task' before' after' :: h₃) → Settles q before after → Settles q before' after' →
        ∃ k removal b a, .committed k removal b a ∈ h₂ ∧ a.structuredInputRequests.find? q = none) ∧
    (∀ r ∈ w.db.structuredInputRequests, ∀ v, r.value = some v →
      ∃ h₁ i task before after h₂, w.history = h₁ ++ .committed i task before after :: h₂ ∧
        Gives task r.requestId r.runId v before after ∧ ∀ j task' b a, .committed j task' b a ∈ h₂ →
          ∃ r' ∈ a.structuredInputRequests, r'.requestId = r.requestId ∧ r'.runId = r.runId ∧ r'.value = some v) ∧
    ∀ h₁ h₂ i run orders context, w.history = h₁ ++ .finished i (.call (.loadContext run orders))
      (.ok (.context context)) :: h₂ → ∀ input ∈ context.request.resolvedInputs, Rightful h₁ run input := by
  intro w
  have hsound := sound server principals browserSessions bootstraps moves
  have hleads := World.exec_leads (taskBody server) (unused principals browserSessions bootstraps) moves
  have hgood : ∀ i task before after, .committed i task before after ∈ w.history →
    Committed task before after := by
    intro i task before after hm
    obtain ⟨_, _, _, hg⟩ := hsound.holds.good_of_mem hm
    exact hg
  refine ⟨hsound.holds.inv, hgood, ?_, ?_, ?_, ?_, ?_⟩
  · intro i task e hm
    obtain ⟨h₁, -, -, hg⟩ := hsound.holds.good_of_mem hm
    have hfinished : Finished h₁ task (.error e) := hg
    cases task with
    | sweep policy orders now => exact hfinished
    | call call => cases call <;> exact hfinished
  · intro i task before after q hm hs
    exact (hgood i task before after hm).settles hs
  · intro h₁ h₂ h₃ i j task task' before after before' after' q he hs hs'
    exact settled_once hleads hgood he hs hs'
  · exact fun r hr v hv => given hsound.holds hr hv
  · exact fun h₁ h₂ i run orders context he => hsound.holds.good h₁ _ h₂ he

end ChatCore.Services.Consent
