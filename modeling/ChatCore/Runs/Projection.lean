import ChatCore.Runs.Lifecycle

namespace ChatCore.Runs

open Protocol Relational Database Services

section Rows

variable {a b : Tables} {runId : Id} {x : Rows}

lemma rows_eq (hr : b.agentRuns.find? runId = x.run)
    (hm : ∀ r, x.run = some r → b.messages.find? r.assistantMessageId = x.message)
    (hn : x.run = none → x.message = none)
    (hh : (b.handoffs.rows.filter fun h => decide (h.runId = runId)) = x.handoffs)
    (hi : (b.structuredInputRequests.rows.filter fun i => decide (i.runId = runId)) = x.inputs)
    (he : (b.conversationEvents.rows.filter fun e => decide (e.runId = runId)) = x.events) : rows runId b = x := by
  have hmessage : ((b.agentRuns.find? runId).bind fun r => b.messages.find? r.assistantMessageId) = x.message := by
    rw [hr]
    cases hx : x.run with
    | none => exact (hn hx).symm
    | some r => exact hm r hx
  rw [rows, hmessage, hr, hh, hi, he]

lemma rows_message {r : AgentRun} (h : (rows runId a).run = some r) :
    (rows runId a).message = a.messages.find? r.assistantMessageId := by
  change ((rows runId a).run.bind fun r => a.messages.find? r.assistantMessageId) = _
  rw [h]
  rfl

lemma rows_message_none (h : (rows runId a).run = none) : (rows runId a).message = none := by
  change ((rows runId a).run.bind fun r => a.messages.find? r.assistantMessageId) = _
  rw [h]
  rfl

lemma rows_rootless (hr : (rows runId a).run = none)
    (h : (rows runId a).message = none ∧ (rows runId a).handoffs = [] ∧
    (rows runId a).inputs = [] ∧ (rows runId a).events = []) : rows runId a = ⟨none, none, [], [], []⟩ := by
  obtain ⟨hm, hh, hi, he⟩ := h
  exact rows_eq hr (fun r hr => absurd hr.symm (Option.some_ne_none r)) (fun _ => rfl) hh hi he

lemma rows_of_beside (h : Beside a b) : rows runId b = rows runId a := by
  rw [rows, rows, h.runs, h.messages, h.handoffs, h.inputs, h.events]

end Rows

section Life

variable {s s' : State} {runId : Id} {i : ℕ} {e e' : Execution}

lemma life_mk {x : Rows} {executions : ℕ → Option Execution} (hr : rows runId s'.db = x)
    (he : (s'.life runId).executions = executions) (ha : s'.appended = s.appended) :
    s'.life runId = ⟨x, executions, (s.life runId).appended⟩ := by
  subst hr he
  change _ = (⟨_, _, s.appended.filter _⟩ : Life)
  rw [← ha]
  rfl

lemma life_put (he : s.executions[i]? = some e) (hr : e'.run = e.run) (hid : e.run.runId = runId) :
    (s.put i e').life runId = (s.life runId).put i e' := by
  have hexecutions : ((s.put i e').life runId).executions = ((s.life runId).put i e').executions := by
    funext j
    change (s.put i e').executions[j]?.filter _ = _
    by_cases hj : j = i
    · subst hj
      rw [State.getElem?_put_self he, Life.put_executions_self]
      exact Option.filter_eq_some_iff.mpr ⟨rfl, by rw [hr]; exact decide_eq_true hid⟩
    · rw [State.getElem?_put_ne (Ne.symm hj), Life.put_executions_ne hj]
      rfl
  exact congrArg (fun x => (⟨rows runId s.db, x, (s.life runId).appended⟩ : Life)) hexecutions

lemma life_put_other (he : s.executions[i]? = some e) (hr : e'.run = e.run) (hid : e.run.runId ≠ runId) :
    (s.put i e').life runId = s.life runId := by
  have hexecutions : ((s.put i e').life runId).executions = (s.life runId).executions := by
    funext j
    change (s.put i e').executions[j]?.filter _ = s.executions[j]?.filter _
    by_cases hj : j = i
    · subst hj
      rw [State.getElem?_put_self he, he, Option.filter_some, Option.filter_some, hr, if_neg (by simpa using hid),
        if_neg (by simpa using hid)]
    · rw [State.getElem?_put_ne (Ne.symm hj)]
  exact congrArg (fun x => (⟨rows runId s.db, x, (s.life runId).appended⟩ : Life)) hexecutions

lemma step_put {t : State} {a : Action} {l : Life} (he : t.executions[i]? = some e) (hr : e'.run = e.run)
    (hid : e.run.runId = runId) (h : Life.Step s runId a l ((t.life runId).put i e')) :
    Life.Step s runId a l ((t.put i e').life runId) := life_put he hr hid ▸ h

lemma step_put_other {t : State} {a : Action} {l : Life} (he : t.executions[i]? = some e) (hr : e'.run = e.run)
    (hid : e.run.runId ≠ runId) (h : Life.Step s runId a l (t.life runId)) :
    Life.Step s runId a l ((t.put i e').life runId) := life_put_other he hr hid ▸ h

lemma life_executions_none (he : s.executions[i]? = some e) (hid : e.run.runId ≠ runId) :
    (s.life runId).executions i = none := by
  change s.executions[i]?.filter _ = none
  rw [he]
  exact Option.filter_eq_none_iff.mpr fun x hx => by cases hx; simpa using hid

end Life

section Visit

variable {s : State} {runId : Id} {a b : Tables} (h : s.Sound)

include h

omit h in
lemma run_of_find {r : AgentRun} (hr : s.db.agentRuns.find? runId = some r) :
    identity r ∈ (skeleton s.known s.db).all :=
  Or.inl (Table.mem_image (Table.find?_eq_some.mp hr).1)

lemma life_unborn (hn : runId ∉ s.issued) : (s.life runId).run = none ∧ (∀ i, (s.life runId).executions i = none) ∧
    (s.life runId).appended = [] := by
  refine ⟨Table.find?_eq_none.mpr fun r hr he => hn ?_, fun i =>
    ?_, List.filter_eq_nil_iff.mpr fun p hp he => hn ?_⟩
  · exact he ▸ (h.skeleton.issued _ (Or.inl (Table.mem_image hr))).1
  · cases he : (s.life runId).executions i with
    | none => rfl
    | some e =>
      obtain ⟨he, hid⟩ := life_executions.mp he
      exact absurd (hid ▸ (h.skeleton.issued _ (Or.inr (State.mem_known (List.mem_of_getElem? he)))).1) hn
  · exact of_decide_eq_true he ▸ (h.drawn hp).1

lemma submitted_rows {scope : Scope} {conversationId : Id} {request : MessageService.SubmitMessageRequest}
    {ids : MessageService.SubmitIds} {now time : Timestamp} (hf : ids.id ∉ s.issued ∧ ids.runId ≠ runId)
    (hb : Submitted scope conversationId request ids now time s.db b) : rows runId b = rows runId s.db := by
  obtain ⟨participantId, sequence, habsent, hs, hmessages⟩ := hb.message
  obtain ⟨agentRef, r, rfl, hnew, hruns⟩ := hb.run
  have hrun : b.agentRuns.find? runId = s.db.agentRuns.find? runId := by
    rw [hruns]
    exact Table.find?_insert_of_ne hf.2
  refine rows_eq hrun (fun r hr => ?_) rows_message_none (by rw [hb.handoffs]; rfl) (by rw [hb.inputs]; rfl)
    (by rw [hb.events]; rfl)
  rw [rows_message hr, hmessages]
  refine Table.find?_insert_of_ne fun he => hf.1 ?_
  have hissued : r.assistantMessageId ∈ s.issued := (h.skeleton.issued _ (run_of_find hr)).2.1
  rw [← he] at hissued
  exact hissued

lemma submitted_step {process : ℕ} {call : Call} {scope : Scope} {conversationId : Id}
    {request : MessageService.SubmitMessageRequest} {ids : MessageService.SubmitIds} {now time : Timestamp}
    (hf : s.Fresh [ids.id, ids.runId, ids.assistantMessageId])
    (hb : Submitted scope conversationId request ids now time s.db b) :
    Life.Step s runId (.visit process call) (s.life runId) { s.life runId with toRows := rows runId b } := by
  by_cases hid : ids.runId = runId
  · subst hid
    obtain ⟨hrun, hexecutions, happended⟩ := life_unborn h (hf.2 ids.runId (by simp))
    obtain ⟨hm, hh, hi, he⟩ := (h.life ids.runId).rootless hrun
    obtain ⟨participantId, sequence, habsent, hs, hmessages⟩ := hb.message
    obtain ⟨agentRef, r, rfl, hnew, hruns⟩ := hb.run
    have hfind : b.agentRuns.find? ids.runId = some (MessageService.newRun scope conversationId ids.id ids.runId
        ids.assistantMessageId agentRef .message time) := by
      rw [hruns]
      exact Table.find?_insert_self hnew.absent
    have hmessage : b.messages.find? ids.assistantMessageId = none := by
      rw [hmessages]
      have hne : ids.id ≠ ids.assistantMessageId := fun he => by
        have hn := hf.1
        simp [he] at hn
      have hother : (s.db.messages.insert
        (MessageService.newMessage scope conversationId participantId request ids.id
        sequence now time)).find? ids.assistantMessageId = _ := Table.find?_insert_of_ne hne
      refine hother.trans (Table.find?_eq_none.mpr fun m hm he => ?_)
      exact hf.2 ids.assistantMessageId (by simp) (he ▸ (h.skeleton.messages _ (Table.mem_image hm)).1)
    have hrows : rows ids.runId b = ⟨some (MessageService.newRun scope conversationId ids.id ids.runId
        ids.assistantMessageId agentRef .message time), none, [], [], []⟩ :=
      rows_eq hfind (fun r hr => by cases hr; exact hmessage) (fun _ => rfl) (by rw [hb.handoffs]; exact hh)
        (by rw [hb.inputs]; exact hi) (by rw [hb.events]; exact he)
    rw [hrows]
    exact .created _ [] [] hrun hexecutions happended (hf.2 ids.runId (by simp)) rfl rfl rfl
      (fun i hi => absurd hi List.not_mem_nil) (Nat.zero_le _)
  · rw [submitted_rows h ⟨hf.2 _ (by simp), hid⟩ hb]
    exact .idle

lemma handedOff_step {process : ℕ} {call : Call} {scope : Scope} {conversationId : Id}
    {request : EmailHandoffService.CreateEmailHandoffRequest} {ids : EmailHandoffService.CreateIds}
    {now time : Timestamp} (hf : s.Fresh [ids.runId, ids.id, ids.assistantMessageId])
    (hb : HandedOff scope conversationId request ids now time s.db b) :
    Life.Step s runId (.visit process call) (s.life runId) { s.life runId with toRows := rows runId b } := by
  obtain ⟨agentRef, trigger, r, -, -, rfl, hnew, hruns⟩ := hb.run
  by_cases hid : ids.runId = runId
  · subst hid
    obtain ⟨hrun, hexecutions, happended⟩ := life_unborn h (hf.2 ids.runId (by simp))
    obtain ⟨hm, hh, hi, he⟩ := (h.life ids.runId).rootless hrun
    have hfind : b.agentRuns.find? ids.runId = some (MessageService.newRun scope conversationId trigger.messageId
        ids.runId ids.assistantMessageId agentRef .agentEmailHandoff time) := by
      rw [hruns]
      exact Table.find?_insert_self hnew.absent
    have hmessage : b.messages.find? ids.assistantMessageId = none := by
      rw [hb.messages]
      refine Table.find?_eq_none.mpr fun m hm he => ?_
      exact hf.2 ids.assistantMessageId (by simp) (he ▸ (h.skeleton.messages _ (Table.mem_image hm)).1)
    have hhandoffs : (b.handoffs.rows.filter fun h => decide (h.runId = ids.runId)) =
        [EmailHandoffService.newHandoff scope conversationId ids now] := by
      have hnil : (s.db.handoffs.rows.filter fun h => decide (h.runId = ids.runId)) = [] := hh
      rw [hb.handoffs, Table.insert_of_absent hb.absent.1, List.filter_append, hnil]
      simp [EmailHandoffService.newHandoff]
    have hinputs : (b.structuredInputRequests.rows.filter fun i => decide (i.runId = ids.runId)) =
        [EmailHandoffService.newInput scope conversationId (EmailHandoffService.normalize request.email)
          ids now] := by
      have hnil : (s.db.structuredInputRequests.rows.filter fun i => decide (i.runId = ids.runId)) = [] := hi
      rw [hb.inputs, Table.insert_of_absent hb.absent.2, List.filter_append, hnil]
      simp [EmailHandoffService.newInput]
    have hrows : rows ids.runId b = ⟨some (MessageService.newRun scope conversationId trigger.messageId ids.runId
        ids.assistantMessageId agentRef .agentEmailHandoff time), none,
        [EmailHandoffService.newHandoff scope conversationId ids now],
        [EmailHandoffService.newInput scope conversationId (EmailHandoffService.normalize request.email)
          ids now], []⟩ :=
      rows_eq hfind (fun r hr => by cases hr; exact hmessage) (fun _ => rfl) hhandoffs hinputs
        (by rw [hb.events]; exact he)
    rw [hrows]
    refine .created _ _ _ hrun hexecutions happended (hf.2 ids.runId (by simp)) rfl rfl rfl (fun i hi => ?_)
      (Nat.le_refl _)
    rw [List.mem_singleton.mp hi]
    nofun
  · have hrun : b.agentRuns.find? runId = s.db.agentRuns.find? runId := by
      rw [hruns]
      exact Table.find?_insert_of_ne hid
    have hhandoffs : (b.handoffs.rows.filter fun h => decide (h.runId = runId)) =
        s.db.handoffs.rows.filter fun h => decide (h.runId = runId) := by
      rw [hb.handoffs]
      exact Table.filter_insert_of_not (decide_eq_false hid)
    have hinputs : (b.structuredInputRequests.rows.filter fun i => decide (i.runId = runId)) =
        s.db.structuredInputRequests.rows.filter fun i => decide (i.runId = runId) := by
      rw [hb.inputs]
      exact Table.filter_insert_of_not (decide_eq_false hid)
    have hrows : rows runId b = rows runId s.db :=
      rows_eq hrun (fun r hr => by rw [hb.messages, rows_message hr]) rows_message_none hhandoffs hinputs
        (by rw [hb.events]; rfl)
    rw [hrows]
    exact .idle

omit h in
lemma cancelled_step {process : ℕ} {scope : Scope} {conversationId : Id} {key : String}
    {order : Arrangement AgentRun}
    {now time : Timestamp} {platform : Platform} {r : AgentRun}
    (hs : selectedRun scope conversationId key order s.db = some r) : Life.Step s runId
      (.visit process (.cancelRun scope conversationId key order now time)) (s.life runId) { s.life runId with
        toRows := rows runId (cancelled scope conversationId key now time platform r s.db) } := by
  have hm := (mem_of_selectedRun scope conversationId key order hs).1
  have hupdate : (cancelled scope conversationId key now time platform r s.db).agentRuns.find? runId = _ :=
    s.db.agentRuns.find?_update (RunWorker.isRun r.runId) (Idempotency.decided now) (runId_decided now) runId
  have hmessage : ∀ x : AgentRun, (Idempotency.decided now x).assistantMessageId = x.assistantMessageId := by
    intro x
    unfold Idempotency.decided
    split <;> rfl
  by_cases hid : r.runId = runId
  · subst hid
    have hfind : (s.life r.runId).run = some r := run_eq_some.mpr ⟨hm, rfl⟩
    have hrows : rows r.runId (cancelled scope conversationId key now time platform r s.db) =
        { rows r.runId s.db with run := some (Idempotency.decided now r) } := by
      refine rows_eq ?_ (fun x hx => ?_) (fun hx => absurd hx (Option.some_ne_none _)) rfl rfl rfl
      · rw [hupdate, show s.db.agentRuns.find? r.runId = some r from hfind]
        exact congrArg some (if_pos (decide_eq_true rfl))
      · cases hx
        rw [hmessage]
        exact (rows_message hfind).symm
    rw [hrows]
    exact .cancelled r now hfind ⟨r, hs, rfl⟩
  · have hrows : rows runId (cancelled scope conversationId key now time platform r s.db) = rows runId s.db := by
      refine rows_eq ?_ (fun x hx => (rows_message hx).symm) rows_message_none rfl rfl rfl
      rw [hupdate]
      cases hx : s.db.agentRuns.find? runId with
      | none => exact hx.symm
      | some x =>
        have hne : ¬ RunWorker.isRun r.runId x = true := fun he =>
          hid ((of_decide_eq_true he).symm.trans (Table.find?_eq_some.mp hx).2)
        refine Eq.trans ?_ hx.symm
        rw [Option.map_some, if_neg hne]
    rw [hrows]
    exact .idle

omit h in
lemma filter_update_run {ρ : Type} {key : ρ → Id} {t : Table key} {p : ρ → Bool} {f : ρ → ρ} {k : ρ → Id}
    (hf : ∀ r, key (f r) = key r) (hr : ∀ r, k (f r) = k r) :
    ((t.update p f hf).rows.filter fun r => decide (k r = runId)) =
      amend p f (t.rows.filter fun r => decide (k r = runId)) :=
  Table.filter_update hf fun r => by rw [hr]

omit h in
lemma filter_update_other {ρ : Type} {key : ρ → Id} {t : Table key} {p : ρ → Bool} {f : ρ → ρ} {k : ρ → Id}
    (hf : ∀ r, key (f r) = key r) (hr : ∀ r, k (f r) = k r) (hp : ∀ r ∈ t, p r = true → k r ≠ runId) :
    ((t.update p f hf).rows.filter fun r => decide (k r = runId)) = t.rows.filter fun r => decide (k r = runId) :=
  Table.filter_update_of_not hf (fun r => by rw [hr]) fun r hm h => decide_eq_false (hp r hm h)

omit h in
lemma resumed_step {process : ℕ} {call : Call} {scope : Scope} {conversationId requestId : Id}
    {request : StructuredInputService.SubmitStructuredInputRequest} {now : Timestamp}
    (hb : Resumed scope conversationId requestId request now s.db b) :
    Life.Step s runId (.visit process call) (s.life runId) { s.life runId with toRows := rows runId b } := by
  obtain ⟨i, hi, -, hpending, ⟨r, hr, hwaiting⟩, hruns, hhandoffs⟩ := hb.input
  obtain ⟨him, hikey⟩ := Table.find?_eq_some.mp hi
  obtain ⟨hrm, hrkey⟩ := Table.find?_eq_some.mp hr
  have hupdate : b.agentRuns.find? runId = _ := hruns ▸ s.db.agentRuns.find?_update _ _ _ runId
  have hevents : (b.conversationEvents.rows.filter fun e => decide (e.runId = runId)) =
    (rows runId s.db).events := by
    rw [hb.events]
    rfl
  by_cases hid : i.runId = runId
  · subst hid
    have hfind : (s.life i.runId).run = some r := hr
    have hinput : i ∈ (s.life i.runId).inputs := List.mem_filter.mpr ⟨him, decide_eq_true rfl⟩
    have hall : (s.db.handoffs.update (fun h => decide (h.runId = i.runId)) (StructuredInputService.deliver now)
        fun _ => rfl).rows.filter (fun h => decide (h.runId = i.runId)) =
          (rows i.runId s.db).handoffs.map (StructuredInputService.deliver now) :=
      (filter_update_run (k := Handoff.runId) (f := StructuredInputService.deliver now) (fun _ => rfl)
        fun _ => rfl).trans
        (List.map_congr_left fun h hh => if_pos (List.mem_filter.mp hh).2)
    have hdelivered : (b.handoffs.rows.filter fun h => decide (h.runId = i.runId)) = (rows i.runId s.db).handoffs ∨
        (b.handoffs.rows.filter fun h => decide (h.runId = i.runId)) =
          (rows i.runId s.db).handoffs.map (StructuredInputService.deliver now) := by
      rw [hhandoffs]
      cases request with
      | submitted value => exact Or.inr hall
      | declined => exact Or.inl rfl
    have hinputs : (b.structuredInputRequests.rows.filter fun j => decide (j.runId = i.runId)) =
        amend (fun j => decide (j.requestId = i.requestId)) (StructuredInputService.resolve request now)
          (rows i.runId s.db).inputs := by
      rw [hb.inputs, hikey]
      exact filter_update_run (k := StructuredInputRequest.runId) _ fun _ => rfl
    have hrows : rows i.runId b = { rows i.runId s.db with
        run := some (StructuredInputService.requeue now r)
        inputs := amend (fun j => decide (j.requestId = i.requestId)) (StructuredInputService.resolve request now)
          (rows i.runId s.db).inputs
        handoffs := b.handoffs.rows.filter fun h => decide (h.runId = i.runId) } := by
      refine rows_eq ?_ (fun x hx => ?_) (fun hx => absurd hx (Option.some_ne_none _)) rfl hinputs hevents
      · rw [hupdate, hr, Option.map_some, if_pos (by simp [hrkey, hwaiting])]
      · cases hx
        rw [hb.messages]
        exact (rows_message hfind).symm
    rw [hrows]
    exact .resumed r i request now hfind hwaiting hinput hpending _ hdelivered
  · have hrun : b.agentRuns.find? runId = s.db.agentRuns.find? runId := by
      rw [hupdate]
      cases hx : s.db.agentRuns.find? runId with
      | none => rfl
      | some x =>
        have hne : x.runId ≠ i.runId := fun he => hid (he.symm.trans (Table.find?_eq_some.mp hx).2)
        rw [Option.map_some, if_neg (by simp [hne])]
    have hrows : rows runId b = rows runId s.db := by
      refine rows_eq hrun (fun x hx => ?_) rows_message_none ?_ ?_ hevents
      · rw [hb.messages, rows_message hx]
      · rw [hhandoffs]
        cases request with
        | submitted value =>
          have hother : (s.db.handoffs.update (fun h => decide (h.runId = i.runId))
            (StructuredInputService.deliver now)
              fun _ => rfl).rows.filter (fun h => decide (h.runId = runId)) = (rows runId s.db).handoffs :=
            filter_update_other (k := Handoff.runId) _ (fun _ => rfl) fun h _ he hrun =>
              hid ((of_decide_eq_true he).symm.trans hrun)
          exact hother
        | declined => rfl
      · rw [hb.inputs]
        refine filter_update_other (k := StructuredInputRequest.runId) _ (fun _ => rfl) fun j hj he hrun => hid ?_
        have hsame : j = i := Table.key_injective hj him ((of_decide_eq_true he).trans hikey.symm)
        exact hsame ▸ hrun
    rw [hrows]
    exact .idle

lemma visited_step {server : Deployment} {process : ℕ} {call : Call} {ids : List Id}
    (hd : drawnIds call = some ids)
    (hf : s.Fresh ids) (hv : Visited call s.db ((body server call).run s.db).2) :
    Life.Step s runId (.visit process call) (s.life runId) ((s.visit server process call ids).life runId) := by
  have hlife : (s.visit server process call ids).life runId =
      { s.life runId with toRows := rows runId ((body server call).run s.db).2 } := rfl
  rw [hlife]
  generalize ((body server call).run s.db).2 = b at hv
  cases hv with
  | beside hb =>
    rw [rows_of_beside hb]
    exact .idle
  | submitted hb =>
    cases hd
    exact submitted_step h hf hb
  | handedOff hb =>
    cases hd
    exact handedOff_step h hf hb
  | cancelled hs => exact cancelled_step hs
  | resumed hb => exact resumed_step hb

omit h in
lemma filter_gone {ρ : Type} {key : ρ → Id} {t : Table key} {p : ρ → Bool} {k : ρ → Id}
    (hp : ∀ r ∈ t, k r = runId → p r = true) : ((t.delete p).rows.filter fun r => decide (k r = runId)) = [] := by
  refine List.filter_eq_nil_iff.mpr fun r hr he => ?_
  obtain ⟨hm, hfalse⟩ := Table.mem_delete.mp hr
  rw [hp r hm (of_decide_eq_true he)] at hfalse
  cases hfalse

omit h in
lemma filter_kept {ρ : Type} {key : ρ → Id} {t : Table key} {p : ρ → Bool} {k : ρ → Id}
    (hp : ∀ r ∈ t, k r = runId → p r = false) :
    ((t.delete p).rows.filter fun r => decide (k r = runId)) = t.rows.filter fun r => decide (k r = runId) := by
  rw [Table.delete_rows, List.filter_filter]
  refine List.filter_congr fun r hr => ?_
  by_cases he : k r = runId
  · simp [he, hp r hr he]
  · simp [he]

section Swept

variable {ρ : Type} {key : ρ → Id} {t : Table key} {part : ρ → Part} {gone : Home → Bool}
  (ho : ∀ x ∈ t, (skeleton s.known s.db).Owned (part x))

include ho

omit h in
lemma filter_rootless (hr : s.db.agentRuns.find? runId = none) :
    ((t.delete fun x => gone (part x).home).rows.filter fun x => decide ((part x).runId = runId)) = [] := by
  refine filter_gone (k := fun x => (part x).runId) fun x hx he => ?_
  obtain ⟨y, ⟨r, hm, rfl⟩, hid, -⟩ := ho x hx
  exact absurd (hid.trans he) (Table.find?_eq_none.mp hr r hm)

lemma home_of_owned {r : AgentRun} (hr : s.db.agentRuns.find? runId = some r) {x : ρ} (hx : x ∈ t)
    (hid : (part x).runId = runId) : (part x).home = (identity r).home := by
  obtain ⟨hm, hkey⟩ := Table.find?_eq_some.mp hr
  obtain ⟨y, hy, hrun, hhome⟩ := ho x hx
  have hsame : y = identity r :=
    h.skeleton.ids _ (Or.inl hy) _ (Or.inl (Table.mem_image hm)) (hrun.trans (hid.trans hkey.symm))
  rw [← hhome, hsame]

lemma filter_forgotten {r : AgentRun} (hr : s.db.agentRuns.find? runId = some r)
    (hg : gone (identity r).home = true) :
    ((t.delete fun x => gone (part x).home).rows.filter fun x => decide ((part x).runId = runId)) = [] :=
  filter_gone (k := fun x => (part x).runId) fun _ hx he => (congrArg gone (home_of_owned h ho hr hx he)).trans hg

lemma filter_spared {r : AgentRun} (hr : s.db.agentRuns.find? runId = some r)
    (hg : gone (identity r).home = false) :
    ((t.delete fun x => gone (part x).home).rows.filter fun x => decide ((part x).runId = runId)) =
      t.rows.filter fun x => decide ((part x).runId = runId) :=
  filter_kept (k := fun x => (part x).runId) fun _ hx he => (congrArg gone (home_of_owned h ho hr hx he)).trans hg

end Swept

lemma owned_handoff : ∀ x ∈ s.db.handoffs, (skeleton s.known s.db).Owned (handoffPart x).2 :=
  fun _ hx => h.skeleton.handoffs _ (Table.mem_image hx)

lemma owned_event : ∀ x ∈ s.db.conversationEvents, (skeleton s.known s.db).Owned (eventPart x) :=
  fun _ hx => h.skeleton.events _ (Table.mem_image hx)

lemma owned_redacted {q : StructuredInputRequest → Bool} : ∀ x ∈ s.db.structuredInputRequests.update q
    RetentionService.redact (fun _ => rfl), (skeleton s.known s.db).Owned (inputPart x) := by
  intro x hx
  obtain ⟨i, hi, rfl⟩ := Table.mem_update.mp hx
  have howned := h.skeleton.inputs _ (Table.mem_image hi)
  split <;> exact howned

lemma rows_forgotten {q : StructuredInputRequest → Bool} {g : Home → Bool}
    (hf : Forgets (fun t s c => g ⟨t, s, c⟩) { s.db with
      structuredInputRequests := s.db.structuredInputRequests.update q RetentionService.redact fun _ => rfl } b)
    (hg : ∀ r, s.db.agentRuns.find? runId = some r → g (identity r).home = true) :
    rows runId b = ⟨none, none, [], [], []⟩ := by
  have hfind : b.agentRuns.find? runId = none := by
    rw [hf.runs]
    refine Table.find?_eq_none.mpr fun x hx he => ?_
    obtain ⟨hx, hfalse⟩ := Table.mem_delete.mp hx
    have hgone := hg x (Table.find?_eq_some.mpr ⟨hx, he⟩)
    exact Bool.false_ne_true (hfalse.symm.trans hgone)
  have hnil : ∀ {ρ : Type} {key : ρ → Id} {t : Table key} {part : ρ → Part},
      (∀ x ∈ t, (skeleton s.known s.db).Owned (part x)) →
        ((t.delete fun x => g (part x).home).rows.filter fun x => decide ((part x).runId = runId)) = [] := by
    intro ρ key t part ho
    cases hr : s.db.agentRuns.find? runId with
    | none => exact filter_rootless ho hr
    | some r => exact filter_forgotten h ho hr (hg r hr)
  refine rows_eq hfind (fun r hr => absurd hr.symm (Option.some_ne_none r)) (fun _ => rfl) ?_ ?_ ?_
  · rw [hf.handoffs]
    exact hnil (owned_handoff h)
  · rw [hf.inputs]
    exact hnil (owned_redacted h)
  · rw [hf.events]
    exact hnil (owned_event h)

lemma rows_spared {q : StructuredInputRequest → Bool} {g : Home → Bool} {r : AgentRun}
    (hf : Forgets (fun t s c => g ⟨t, s, c⟩) { s.db with
      structuredInputRequests := s.db.structuredInputRequests.update q RetentionService.redact fun _ => rfl } b)
    (hr : s.db.agentRuns.find? runId = some r) (hg : g (identity r).home = false) :
    rows runId b = { rows runId s.db with inputs := amend q RetentionService.redact (rows runId s.db).inputs } := by
  have hfind : b.agentRuns.find? runId = s.db.agentRuns.find? runId := by
    rw [hf.runs]
    refine Table.find?_delete_of_kept fun x hx he => ?_
    rw [Table.key_injective hx (Table.find?_eq_some.mp hr).1 (he.trans (Table.find?_eq_some.mp hr).2.symm)]
    exact hg
  have hmessages : b.messages.find? r.assistantMessageId = s.db.messages.find? r.assistantMessageId := by
    rw [hf.messages]
    refine Table.find?_delete_of_kept fun m hm he => ?_
    have hhome := h.skeleton.answers _ (Or.inl (Table.mem_image (Table.find?_eq_some.mp hr).1)) _
      (Table.mem_image hm) he
    exact (congrArg g hhome).trans hg
  have hredacted : ((s.db.structuredInputRequests.update q RetentionService.redact fun _ => rfl).rows.filter
      fun i => decide (i.runId = runId)) = amend q RetentionService.redact (rows runId s.db).inputs :=
    filter_update_run (k := StructuredInputRequest.runId) (f := RetentionService.redact)
      (fun _ => rfl) fun _ => rfl
  refine rows_eq hfind (fun x hx => ?_) rows_message_none ?_ ?_ ?_
  · cases hr.symm.trans hx
    rw [hmessages]
    exact (rows_message hr).symm
  · rw [hf.handoffs]
    exact filter_spared h (owned_handoff h) hr hg
  · rw [hf.inputs]
    exact (filter_spared h (owned_redacted h) hr hg).trans hredacted
  · rw [hf.events]
    exact filter_spared h (owned_event h) hr hg

lemma swept_step {policy : RetentionService.RetentionPolicy} {orders : RetentionService.Orders} {now : Timestamp}
    (hs : SweptAway s.db b) :
    Life.Step s runId (.sweep policy orders now) (s.life runId) { s.life runId with toRows := rows runId b } := by
  obtain ⟨q, gone, hq, hf⟩ := hs
  by_cases hg : ∃ r, s.db.agentRuns.find? runId = some r ∧ gone r.tenantId r.siteId r.conversationId = false
  · obtain ⟨r, hr, hg⟩ := hg
    rw [rows_spared (g := fun x => gone x.tenantId x.siteId x.conversationId) h hf hr hg]
    exact .redacted q hq
  · have hgone : ∀ r, s.db.agentRuns.find? runId = some r → gone r.tenantId r.siteId r.conversationId = true :=
      fun r hr => Bool.eq_true_of_not_eq_false fun hfalse => hg ⟨r, hr, hfalse⟩
    rw [rows_forgotten (g := fun x => gone x.tenantId x.siteId x.conversationId) h hf hgone]
    exact .forgotten

end Visit

section Work

variable {s : State} {runId : Id} {a b : Tables} {i : ℕ} {e : Execution} (h : s.Sound)

lemma rows_update_run (runId id : Id) (q : AgentRun → Bool) (f : AgentRun → AgentRun)
    (hf : ∀ r, (f r).runId = r.runId)
    (hm : ∀ r, (f r).assistantMessageId = r.assistantMessageId) :
    rows runId { a with agentRuns := a.agentRuns.update (fun r => RunWorker.isRun id r && q r) f hf } =
      { rows runId a with
        run := if id = runId then (rows runId a).run.map (fun r => if q r then f r else r)
          else (rows runId a).run } := by
  have hfind : (a.agentRuns.update (fun r => RunWorker.isRun id r && q r) f hf).find? runId =
      if id = runId then (a.agentRuns.find? runId).map (fun r => if q r then f r else r)
        else a.agentRuns.find? runId := by
    rw [Table.find?_update]
    cases hr : a.agentRuns.find? runId with
    | none => split <;> rfl
    | some r =>
      have hkey := (Table.find?_eq_some.mp hr).2
      by_cases hid : id = runId
      · rw [if_pos hid, Option.map_some, Option.map_some]
        have hrun : RunWorker.isRun id r = true := decide_eq_true (hkey.trans hid.symm)
        rw [hrun, Bool.true_and]
      · rw [if_neg hid, Option.map_some]
        have hrun : RunWorker.isRun id r = false := decide_eq_false fun he => hid (he.symm.trans hkey)
        rw [hrun, Bool.false_and]
        rfl
  have hsame : ∀ r x : AgentRun, (if q r then f r else r) = x → x.assistantMessageId = r.assistantMessageId := by
    rintro r x rfl
    split
    · exact hm r
    · rfl
  refine rows_eq hfind (fun r hr => ?_) (fun hr => ?_) rfl rfl rfl
  · dsimp only at hr ⊢
    split at hr
    · obtain ⟨r', hr', he⟩ := Option.map_eq_some_iff.mp hr
      rw [hsame r' r he]
      exact (rows_message hr').symm
    · exact (rows_message hr).symm
  · dsimp only at hr ⊢
    split at hr
    · exact rows_message_none (Option.map_eq_none_iff.mp hr)
    · exact rows_message_none hr

lemma rows_update_row (runId id : Id) (f : AgentRun → AgentRun) (hf : ∀ r, (f r).runId = r.runId)
    (hm : ∀ r, (f r).assistantMessageId = r.assistantMessageId) :
    rows runId { a with agentRuns := a.agentRuns.update (RunWorker.isRun id) f hf } = { rows runId a with
      run := if id = runId then (rows runId a).run.map f else (rows runId a).run } := by
  have hq : a.agentRuns.update (RunWorker.isRun id) f hf =
      a.agentRuns.update (fun r => RunWorker.isRun id r && true) f hf :=
    Table.update_congr f hf fun r _ => (Bool.and_true _).symm
  rw [hq]
  exact rows_update_run runId id (fun _ => true) f hf hm

lemma claimed_step {process : ℕ} {options : RunWorker.Options} {order : Arrangement AgentRun} {now : Timestamp}
    {resolved : Bool} {r : AgentRun} (hr : r ∈ s.db.agentRuns) (hc : RunWorker.claimable options now r = true)
    (hq : ((RunWorker.claim options order now).run s.db).1 = .ok (some (RunWorker.startAttempt options now r))) :
    Life.Step s runId (.claim process options order now resolved) (s.life runId)
      ((s.claim process options now resolved r).life runId) := by
  have hrows := rows_update_row (a := s.db) runId r.runId (RunWorker.startAttempt options now)
    (fun _ => rfl) fun _ => rfl
  have hnew : s.executions[s.executions.length]? = none := List.getElem?_eq_none (Nat.le_refl _)
  obtain ⟨e, he, hrun, haborted, hphase⟩ : ∃ e : Execution,
      (s.claim process options now resolved r).executions = s.executions ++ [e] ∧
      e.run = RunWorker.startAttempt options now r ∧ e.aborted = false ∧
      (e.phase = .loading ∨ e.phase = .writing (.fail "CONNECTOR_NOT_FOUND") .unresolved) := by
    refine ⟨_, rfl, rfl, rfl, ?_⟩
    cases resolved
    · exact Or.inr rfl
    · exact Or.inl rfl
  have hexecutions : ∀ j, ((s.claim process options now resolved r).life runId).executions j =
      if r.runId = runId then (if j = s.executions.length then some e else (s.life runId).executions j)
        else (s.life runId).executions j := by
    intro j
    change (s.claim process options now resolved r).executions[j]?.filter _ = _
    rw [he]
    rcases Nat.lt_trichotomy j s.executions.length with hlt | rfl | hgt
    · rw [List.getElem?_append_left hlt, if_neg (Nat.ne_of_lt hlt), ite_self]
      rfl
    · rw [List.getElem?_append_right (Nat.le_refl _), Nat.sub_self, if_pos rfl]
      change Option.filter _ (some e) = _
      rw [Option.filter_some, hrun]
      by_cases hid : r.runId = runId
      · exact (if_pos (decide_eq_true hid)).trans (if_pos hid).symm
      · refine (if_neg fun he => hid (of_decide_eq_true he)).trans (Eq.trans ?_ (if_neg hid).symm)
        change none = s.executions[s.executions.length]?.filter _
        rw [hnew]
        rfl
    · have hnone : (s.executions ++ [e])[j]? = none := List.getElem?_eq_none (by simp; omega)
      rw [hnone, if_neg (Nat.ne_of_gt hgt), ite_self]
      change none = s.executions[j]?.filter _
      rw [List.getElem?_eq_none (Nat.le_of_lt hgt)]
      rfl
  by_cases hid : r.runId = runId
  · subst hid
    have hfind : (s.life r.runId).run = some r := run_eq_some.mpr ⟨hr, rfl⟩
    have hlife : (s.claim process options now resolved r).life r.runId =
        Life.put { s.life r.runId with run := some (RunWorker.startAttempt options now r) }
          s.executions.length e := by
      have hex : ((s.claim process options now resolved r).life r.runId).executions =
          fun j => if j = s.executions.length then some e else (s.life r.runId).executions j :=
        funext fun j => (hexecutions j).trans (if_pos rfl)
      have hrow : rows r.runId (s.claim process options now resolved r).db = { rows r.runId s.db with
          run := some (RunWorker.startAttempt options now r) } := by
        rw [if_pos rfl, show (rows r.runId s.db).run = some r from hfind] at hrows
        exact hrows
      exact life_mk hrow hex rfl
    rw [hlife]
    have hnone : (s.life r.runId).executions s.executions.length = none := by
      change s.executions[s.executions.length]?.filter _ = none
      rw [hnew]
      rfl
    exact .claimed r _ e hfind ⟨_, hq, rfl⟩ hc hnone hrun haborted hphase
  · have hlife : (s.claim process options now resolved r).life runId = s.life runId := by
      have hex : ((s.claim process options now resolved r).life runId).executions = (s.life runId).executions :=
        funext fun j => (hexecutions j).trans (if_neg hid)
      have hrow : rows runId (s.claim process options now resolved r).db = rows runId s.db := by
        rw [if_neg hid] at hrows
        exact hrows
      exact life_mk hrow hex rfl
    rw [hlife]
    exact .idle

lemma assistant_ne (h : s.Sound) (he : s.executions[i]? = some e) (hid : e.run.runId ≠ runId) {r : AgentRun}
    (hr : s.db.agentRuns.find? runId = some r) : e.run.assistantMessageId ≠ r.assistantMessageId := by
  intro ha
  have hsame : identity e.run = identity r := h.skeleton.assistants _
    (Or.inr (State.mem_known (List.mem_of_getElem? he))) _ (run_of_find hr) ha
  exact hid ((congrArg Identity.runId hsame).trans (Table.find?_eq_some.mp hr).2)

lemma awaited_other {h : Handoff} {now : Timestamp} (hh : h ∈ a.handoffs) (hid : h.runId ≠ runId) :
    ((a.handoffs.update (fun x => decide (x.handoffId = h.handoffId)) (RunWorker.awaitContact now) fun _ =>
      rfl).rows.filter
      fun x => decide (x.runId = runId)) = a.handoffs.rows.filter fun x => decide (x.runId = runId) :=
  filter_update_other (k := Handoff.runId) (f := RunWorker.awaitContact now) (fun _ => rfl) (fun _ => rfl)
    fun x hx he => by rw [Table.key_injective hx hh (of_decide_eq_true he)]; exact hid

lemma finished_message {run : AgentRun} {now : Timestamp} (parts : List ContentPart) {id : Id} :
    (a.messages.update (fun m => RunWorker.ofConversation run m.tenantId m.siteId m.conversationId &&
      decide (m.messageId = run.assistantMessageId)) (RunWorker.finishMessage now parts) fun _ => rfl).find? id =
        (a.messages.find? id).map fun m => if RunWorker.ofConversation run m.tenantId m.siteId m.conversationId &&
          decide (m.messageId = run.assistantMessageId) then RunWorker.finishMessage now parts m else m :=
  a.messages.find?_update _ (RunWorker.finishMessage now parts) (fun _ => rfl) id

lemma materialized_other (h : s.Sound) (he : s.executions[i]? = some e) (hid : e.run.runId ≠ runId)
    {now : Timestamp}
    {participantId : Id} {body : EventBody} (hm : Materialized e.run now participantId body s.db b) :
    rows runId b = rows runId s.db := by
  cases hm with
  | resumed | requestedAgain | nothing => rfl
  | started sequence hs habsent hc =>
    refine rows_eq rfl (fun r hr => ?_) rows_message_none rfl rfl rfl
    rw [rows_message hr]
    exact Table.find?_insert_of_ne (assistant_ne h he hid hr)
  | completed parts m hfind hc =>
    refine rows_eq rfl (fun r hr => ?_) rows_message_none rfl rfl rfl
    rw [rows_message hr]
    refine (finished_message parts).trans ?_
    cases hm : s.db.messages.find? r.assistantMessageId with
    | none => rfl
    | some m =>
      have hne : m.messageId ≠ e.run.assistantMessageId := fun hkey =>
        assistant_ne h he hid hr (hkey.symm.trans (Table.find?_eq_some.mp hm).2)
      rw [Option.map_some, if_neg (by simp [hne])]
  | requested handoffId hh =>
    exact rows_eq rfl (fun r hr => (rows_message hr).symm) rows_message_none
      (Table.filter_insert_of_not (decide_eq_false hid)) rfl rfl
  | askedAgain x prompt required y hi hr hy hrun =>
    exact rows_eq rfl (fun r hr => (rows_message hr).symm) rows_message_none
      (awaited_other hy (hrun ▸ hid)) rfl rfl
  | asked requestId prompt required y hi hy hrun =>
    exact rows_eq rfl (fun r hr => (rows_message hr).symm) rows_message_none (awaited_other hy (hrun ▸ hid))
      (Table.filter_insert_of_not (decide_eq_false hid)) rfl
  | finished handoffId y hfind hc hrun =>
    refine rows_eq rfl (fun r hr => (rows_message hr).symm) rows_message_none ?_ rfl rfl
    refine filter_update_other (k := Handoff.runId) (f := RunWorker.finishHandoff now) (fun _ => rfl)
      (fun _ => rfl)
      fun x hx hp hrun' => hid ?_
    simp only [Bool.and_eq_true, decide_eq_true_eq] at hp
    exact hp.1.2.symm.trans hrun'

lemma awaited_own {h : Handoff} {now : Timestamp} :
    ((a.handoffs.update (fun x => decide (x.handoffId = h.handoffId)) (RunWorker.awaitContact now) fun _ =>
      rfl).rows.filter
      fun x => decide (x.runId = runId)) =
        amend (fun x => decide (x.handoffId = h.handoffId)) (RunWorker.awaitContact now) (rows runId a).handoffs :=
  filter_update_run (k := Handoff.runId) (f := RunWorker.awaitContact now) (fun _ => rfl) fun _ => rfl

lemma materialized_own {run r : AgentRun} {now : Timestamp} {participantId : Id} {body : EventBody}
    (hr : (s.life run.runId).run = some r) (ha : r.assistantMessageId = run.assistantMessageId)
    (hm : Materialized run now participantId body s.db b) :
    Life.Materialized run now participantId body (s.life run.runId)
      { s.life run.runId with toRows := rows run.runId b } := by
  have hmessage : (s.life run.runId).message = s.db.messages.find? run.assistantMessageId :=
    (rows_message hr).trans (by rw [ha])
  have hsame : ∀ x, (rows run.runId s.db).run = some x → s.db.messages.find? x.assistantMessageId =
      (rows run.runId s.db).message := fun x hx => (rows_message hx).symm
  have hown : ∀ x ∈ s.db.handoffs, x.runId = run.runId → x ∈ (s.life run.runId).handoffs :=
    fun x hx hid => List.mem_filter.mpr ⟨hx, decide_eq_true hid⟩
  cases hm with
  | resumed m hfind => exact .resumed m (hmessage.trans hfind)
  | started sequence hs habsent hc =>
    have hrows : rows run.runId (messages.put (conversations.put s.db (s.db.conversations.update
        (fun c => RunWorker.ofConversation run c.tenantId c.siteId c.conversationId)
        (MessageService.takeMessageSequence now) fun _ => rfl))
        (s.db.messages.insert (RunWorker.newAssistant run now participantId sequence))) =
        { rows run.runId s.db with message := some (RunWorker.newAssistant run now participantId sequence) } := by
      refine rows_eq rfl (fun x hx => ?_) (fun hx => absurd (hr.symm.trans hx) (Option.some_ne_none r)) rfl rfl rfl
      cases hr.symm.trans hx
      rw [ha]
      exact Table.find?_insert_self habsent
    rw [hrows]
    exact .started sequence (hmessage.trans habsent)
  | completed parts m hfind hc =>
    have hrows : rows run.runId (messages.put s.db (s.db.messages.update
        (fun m => RunWorker.ofConversation run m.tenantId m.siteId m.conversationId &&
          decide (m.messageId = run.assistantMessageId)) (RunWorker.finishMessage now parts) fun _ => rfl)) =
        { rows run.runId s.db with message := some (RunWorker.finishMessage now parts m) } := by
      refine rows_eq rfl (fun x hx => ?_) (fun hx => absurd (hr.symm.trans hx) (Option.some_ne_none r)) rfl rfl rfl
      cases hr.symm.trans hx
      rw [ha]
      refine (finished_message parts).trans ?_
      have hkey : m.messageId = run.assistantMessageId := (Table.find?_eq_some.mp hfind).2
      rw [hfind, Option.map_some, if_pos (by rw [hc, hkey]; simp)]
    rw [hrows]
    exact .completed parts m (hmessage.trans hfind)
  | requestedAgain x hfind hrun => exact .requestedAgain x (hown x (Table.find?_eq_some.mp hfind).1 hrun)
  | requested handoffId hh =>
    obtain ⟨-, hfind, hviolation⟩ := handoffs.broken_eq_none.mp hh
    have habsent : s.db.handoffs.find? (RunWorker.newHandoff run now handoffId).handoffId = none := hfind
    have hunique := failing_eq_none.mp (Option.or_eq_none_iff.mp hviolation).1
    have hnil : (s.db.handoffs.rows.filter fun x => decide (x.runId = run.runId)) = [] :=
      List.filter_eq_nil_iff.mpr fun x hx he =>
        of_decide_eq_true (List.all_eq_true.mp hunique x hx) (of_decide_eq_true he)
    have hone : ((s.db.handoffs.insert (RunWorker.newHandoff run now handoffId)).rows.filter
        fun x => decide (x.runId = run.runId)) = [RunWorker.newHandoff run now handoffId] := by
      rw [Table.insert_of_absent habsent, List.filter_append, hnil]
      simp [RunWorker.newHandoff]
    have hrows : rows run.runId
      (handoffs.put s.db (s.db.handoffs.insert (RunWorker.newHandoff run now handoffId))) =
        { rows run.runId s.db with handoffs := [RunWorker.newHandoff run now handoffId] } :=
      rows_eq rfl hsame rows_message_none hone rfl rfl
    rw [hrows]
    exact .requested handoffId hnil
  | askedAgain x prompt required y hfind hrun hy hyr =>
    have hrows : rows run.runId
      (handoffs.put s.db (s.db.handoffs.update (fun s => decide (s.handoffId = y.handoffId))
        (RunWorker.awaitContact now) fun _ => rfl)) = { rows run.runId s.db with
          handoffs := amend (fun s => decide (s.handoffId = y.handoffId)) (RunWorker.awaitContact now)
            (rows run.runId s.db).handoffs } :=
      rows_eq rfl hsame rows_message_none awaited_own rfl rfl
    rw [hrows]
    exact .askedAgain x prompt required y
      (List.mem_filter.mpr ⟨(Table.find?_eq_some.mp hfind).1, decide_eq_true hrun⟩) (hown y hy hyr)
  | asked requestId prompt required y hi hy hyr =>
    obtain ⟨-, hfind, -⟩ := structuredInputRequests.broken_eq_none.mp hi
    have habsent : s.db.structuredInputRequests.find?
      (RunWorker.newInput run now requestId prompt required).requestId =
        none := hfind
    have hinputs : ((s.db.structuredInputRequests.insert
      (RunWorker.newInput run now requestId prompt required)).rows.filter
        fun x => decide (x.runId = run.runId)) =
          (rows run.runId s.db).inputs ++ [RunWorker.newInput run now requestId prompt required] := by
      rw [Table.insert_of_absent habsent, List.filter_append]
      simp [RunWorker.newInput, rows]
    have hrows : rows run.runId
      (handoffs.put (structuredInputRequests.put s.db (s.db.structuredInputRequests.insert
        (RunWorker.newInput run now requestId prompt required))) (s.db.handoffs.update
          (fun s => decide (s.handoffId = y.handoffId)) (RunWorker.awaitContact now) fun _ => rfl)) =
        { rows run.runId s.db with
          inputs := (rows run.runId s.db).inputs ++ [RunWorker.newInput run now requestId prompt required]
          handoffs := amend (fun s => decide (s.handoffId = y.handoffId)) (RunWorker.awaitContact now)
            (rows run.runId s.db).handoffs } :=
      rows_eq rfl hsame rows_message_none awaited_own hinputs rfl
    rw [hrows]
    exact .asked requestId prompt required y (hown y hy hyr)
  | finished handoffId y hfind hc hyr =>
    obtain ⟨hy, rfl⟩ := Table.find?_eq_some.mp hfind
    have hhandoffs : ((s.db.handoffs.update
      (fun x => RunWorker.ofConversation run x.tenantId x.siteId x.conversationId &&
        decide (x.runId = run.runId) && decide (x.handoffId = y.handoffId)) (RunWorker.finishHandoff now)
          fun _ => rfl).rows.filter fun x => decide (x.runId = run.runId)) =
        amend (fun x => decide (x.handoffId = y.handoffId)) (RunWorker.finishHandoff now)
          (rows run.runId s.db).handoffs := by
      refine (filter_update_run (k := Handoff.runId) (f := RunWorker.finishHandoff now) (fun _ => rfl)
        fun _ => rfl).trans
        (List.map_congr_left fun x hx => ?_)
      obtain ⟨hm, -⟩ := List.mem_filter.mp hx
      by_cases hkey : x.handoffId = y.handoffId
      · obtain rfl : x = y := Table.key_injective hm hy hkey
        rw [if_pos (by simp [hc, hyr]), if_pos (decide_eq_true rfl)]
      · rw [if_neg (by simp [hkey]), if_neg (by simp [hkey])]
    have hrows : rows run.runId (handoffs.put s.db (s.db.handoffs.update (fun x =>
        RunWorker.ofConversation run x.tenantId x.siteId x.conversationId && decide (x.runId = run.runId) &&
          decide (x.handoffId = y.handoffId)) (RunWorker.finishHandoff now) fun _ => rfl)) =
        { rows run.runId s.db with
          handoffs := amend (fun x => decide (x.handoffId = y.handoffId)) (RunWorker.finishHandoff now)
            (rows run.runId s.db).handoffs } :=
      rows_eq rfl hsame rows_message_none hhandoffs rfl rfl
    rw [hrows]
    exact .finished y (hown y hy hyr)
  | nothing body hb hb' hh hi => exact .nothing body hb hb' hh hi

lemma effect_own {run : AgentRun} {now : Timestamp} (write : StatusWrite)
    (ha : ∀ r, (s.life run.runId).run = some r → r.assistantMessageId = run.assistantMessageId) :
    rows run.runId (write.effect run now s.db) = ((s.life run.runId).effect now write).toRows := by
  have hmap : ∀ f : AgentRun → AgentRun, (if run.runId = run.runId then (rows run.runId s.db).run.map f
      else (rows run.runId s.db).run) = (s.life run.runId).run.map f := fun f => if_pos rfl
  cases write with
  | complete =>
    refine (rows_update_row run.runId run.runId (RunWorker.markCompleted now) (fun _ => rfl) fun _ => rfl).trans ?_
    rw [hmap]
    rfl
  | waitForInput =>
    refine (rows_update_run run.runId run.runId _ (RunWorker.markWaiting now) (fun _ => rfl) fun _ => rfl).trans ?_
    rw [hmap]
    rfl
  | fail code =>
    have hrows := rows_update_row (a := s.db) run.runId run.runId (RunWorker.markFailed code now) (fun _ => rfl)
      fun _ => rfl
    rw [hmap] at hrows
    have hhandoffs : ((s.db.handoffs.update (fun h => decide (h.runId = run.runId) &&
        !(decide (h.status = .completed) || decide (h.status = .failed))) (RunWorker.failHandoff now) fun _ =>
          rfl).rows.filter
          fun h => decide (h.runId = run.runId)) =
        amend (fun h => !(decide (h.status = .completed) || decide (h.status = .failed)))
          (RunWorker.failHandoff now)
          (s.life run.runId).handoffs := by
      refine (filter_update_run (k := Handoff.runId) (f := RunWorker.failHandoff now) (fun _ => rfl)
        fun _ => rfl).trans
        (List.map_congr_left fun x hx => ?_)
      have hrun : x.runId = run.runId := of_decide_eq_true (List.mem_filter.mp hx).2
      simp only [hrun, decide_true, Bool.true_and]
    refine rows_eq (congrArg Rows.run hrows) (fun r hr => ?_) (fun hr => ?_) hhandoffs rfl rfl
    · obtain ⟨r', hr', rfl⟩ := Option.map_eq_some_iff.mp hr
      exact (rows_message hr').symm
    · exact rows_message_none (Option.map_eq_none_iff.mp hr)
  | cancel =>
    have hrows := rows_update_row (a := s.db) run.runId run.runId (RunWorker.markCancelled now) (fun _ => rfl)
      fun _ => rfl
    rw [hmap] at hrows
    refine rows_eq (congrArg Rows.run hrows) (fun r hr => ?_) (fun hr => ?_) rfl rfl rfl
    · obtain ⟨r', hr', rfl⟩ := Option.map_eq_some_iff.mp hr
      have hmessage : (s.life run.runId).message = s.db.messages.find? run.assistantMessageId :=
        (rows_message hr').trans (by rw [ha r' hr'])
      have hupdate : (s.db.messages.update (fun m => decide (m.messageId = run.assistantMessageId) &&
          (decide (m.status = .pending) || decide (m.status = .streaming))) (RunWorker.cancelMessage now)
            fun _ => rfl).find? run.assistantMessageId = _ :=
        s.db.messages.find?_update _ (RunWorker.cancelMessage now) (fun _ => rfl) run.assistantMessageId
      refine (congrArg _ (ha r' hr')).trans (hupdate.trans ?_)
      change _ = Option.map _ (s.life run.runId).message
      rw [hmessage]
      refine Option.map_congr fun m hm => ?_
      rw [decide_eq_true (Table.find?_eq_some.mp hm).2, Bool.true_and]
    · have hnone : (s.life run.runId).message = none := rows_message_none (Option.map_eq_none_iff.mp hr)
      change Option.map _ _ = none
      rw [hnone]
      rfl

lemma effect_other (h : s.Sound) (he : s.executions[i]? = some e) (hid : e.run.runId ≠ runId) {now : Timestamp}
    (write : StatusWrite) : rows runId (write.effect e.run now s.db) = rows runId s.db := by
  have hsame : ∀ f : AgentRun → AgentRun, (if e.run.runId = runId then (rows runId s.db).run.map f
      else (rows runId s.db).run) = (rows runId s.db).run := fun f => if_neg hid
  cases write with
  | complete =>
    refine (rows_update_row runId e.run.runId (RunWorker.markCompleted now) (fun _ => rfl) fun _ => rfl).trans ?_
    rw [hsame]
  | waitForInput =>
    refine (rows_update_run runId e.run.runId _ (RunWorker.markWaiting now) (fun _ => rfl) fun _ => rfl).trans ?_
    rw [hsame]
  | fail code =>
    have hrows := rows_update_row (a := s.db) runId e.run.runId (RunWorker.markFailed code now) (fun _ => rfl)
      fun _ => rfl
    rw [hsame] at hrows
    refine rows_eq (congrArg Rows.run hrows) (fun r hr => (rows_message hr).symm) rows_message_none ?_ rfl rfl
    refine filter_update_other (k := Handoff.runId) (f := RunWorker.failHandoff now) (fun _ => rfl) (fun _ => rfl)
      fun x hx hp hrun => hid ?_
    simp only [Bool.and_eq_true, decide_eq_true_eq] at hp
    exact hp.1.symm.trans hrun
  | cancel =>
    have hrows := rows_update_row (a := s.db) runId e.run.runId (RunWorker.markCancelled now) (fun _ => rfl)
      fun _ => rfl
    rw [hsame] at hrows
    refine rows_eq (congrArg Rows.run hrows) (fun r hr => ?_) rows_message_none rfl rfl rfl
    rw [rows_message hr]
    have hupdate : (s.db.messages.update (fun m => decide (m.messageId = e.run.assistantMessageId) &&
        (decide (m.status = .pending) || decide (m.status = .streaming))) (RunWorker.cancelMessage now)
          fun _ => rfl).find? r.assistantMessageId = _ :=
      s.db.messages.find?_update _ (RunWorker.cancelMessage now) (fun _ => rfl) r.assistantMessageId
    refine hupdate.trans ?_
    cases hm : s.db.messages.find? r.assistantMessageId with
    | none => rfl
    | some m =>
      have hne : m.messageId ≠ e.run.assistantMessageId := fun hkey =>
        assistant_ne h he hid hr (hkey.symm.trans (Table.find?_eq_some.mp hm).2)
      rw [Option.map_some, if_neg (by simp [hne])]

lemma run_of_conversation (h : s.Sound) (he : s.executions[i]? = some e) {c : Conversation}
    (hc : c ∈ s.db.conversations)
    (hid : c.conversationId = e.run.conversationId) : ∃ r, s.db.agentRuns.find? e.run.runId = some r := by
  obtain ⟨r, hr, hsame⟩ :=
    h.skeleton.alive _ (State.mem_known (List.mem_of_getElem? he)) _ (Table.mem_image hc) hid
  exact ⟨r, Table.find?_eq_some.mpr ⟨hr, congrArg Identity.runId hsame⟩⟩

lemma appended_rows {scope : Scope} {event : ConnectorEvent} {eventId : Id} {time : Timestamp} {n m : ℕ} :
    rows runId (appendTo scope event eventId time m n s.db) = { rows runId s.db with
      events := (rows runId (appendTo scope event eventId time m n s.db)).events } :=
  rows_eq rfl (fun _ hr => (rows_message hr).symm) rows_message_none rfl rfl rfl

lemma mem_appended {scope : Scope} {event : ConnectorEvent} {eventId : Id} {time : Timestamp} {n m : ℕ}
    {x : ConversationEvent} (hx : x ∈ (rows runId (appendTo scope event eventId time m n s.db)).events) :
    x ∈ (s.life runId).events ∨ event.runId = runId ∧ x = EventStore.newEvent scope event n eventId time := by
  obtain ⟨hm, hid⟩ := List.mem_filter.mp hx
  have hmem : x ∈ (s.db.conversationEvents.insert (EventStore.newEvent scope event n eventId time)).delete
      (EventStore.isPruned scope event.conversationId ((n : Int) - m)) := hm
  rcases Table.mem_of_mem_insert (Table.mem_delete.mp hmem).1 with hold | rfl
  · exact Or.inl (List.mem_filter.mpr ⟨hold, hid⟩)
  · exact Or.inr ⟨of_decide_eq_true hid, rfl⟩

lemma appended_step (h : s.Sound) {draw : Draw} {context : RunWorker.RunContext} {event : ConnectorEvent}
    {c : Conversation} {m : ℕ} (he : s.executions[i]? = some e) (hp : e.phase = .appending context event)
    (hm : c ∈ s.db.conversations) (hc : inConversation context.scope event.conversationId c = true) :
    Life.Step s runId (.work i draw) (s.life runId) ((State.put { s with
      db := appendTo context.scope event draw.eventId draw.occurredAt m c.nextEventSequence s.db
      appended := s.appended ++ [⟨event, draw.eventId, c.nextEventSequence, toISOString draw.occurredAt⟩] } i
        (e.goto (Execution.afterAppend context event.body))).life runId) := by
  have hproper := h.proper e (List.mem_of_getElem? he)
  rw [Execution.Proper, hp] at hproper
  obtain ⟨-, hevent⟩ := hproper
  have hconversation : c.conversationId = event.conversationId := by
    simp only [inConversation, Bool.and_eq_true, decide_eq_true_eq] at hc
    exact hc.2
  have hrun : event.runId = e.run.runId := hevent.run
  by_cases hid : e.run.runId = runId
  · subst hid
    refine step_put he rfl rfl ?_
    obtain ⟨r, hr⟩ := run_of_conversation h he hm (hconversation.trans hevent.conversation)
    have happended : ∀ p : EventStore.PersistedEvent, p.event = event →
        (s.appended ++ [p]).filter (fun p => decide (p.event.runId = e.run.runId)) =
          (s.life e.run.runId).appended ++ [p] := by
      rintro p rfl
      rw [List.filter_append]
      simp [State.life, hrun]
    have hlife : State.life { s with
        db := appendTo context.scope event draw.eventId draw.occurredAt m c.nextEventSequence s.db
        appended := s.appended ++ [⟨event, draw.eventId, c.nextEventSequence, toISOString draw.occurredAt⟩] }
          e.run.runId =
        { s.life e.run.runId with
          events := (rows e.run.runId
            (appendTo context.scope event draw.eventId draw.occurredAt m c.nextEventSequence s.db)).events
          appended := (s.life e.run.runId).appended ++
            [⟨event, draw.eventId, c.nextEventSequence, toISOString draw.occurredAt⟩] } := by
      rw [State.life, appended_rows, happended _ rfl]
      rfl
    rw [hlife]
    refine .appended i e r _ _ (life_executions.mpr ⟨he, rfl⟩) hp hr hevent rfl (fun p hp => ?_) fun x hx => ?_
    · obtain ⟨hp, hpid⟩ := List.mem_filter.mp hp
      obtain ⟨y, hy, hyrun, hyhome⟩ := h.recorded p hp
      have hsame : y = identity e.run := h.skeleton.ids _ (Or.inr hy) _
        (Or.inr (State.mem_known (List.mem_of_getElem? he))) (hyrun.trans (of_decide_eq_true hpid))
      refine h.numbered p hp c hm ?_
      rw [← hyhome, hsame]
      exact hconversation.trans hevent.conversation
    · rcases mem_appended hx with hx | ⟨-, rfl⟩
      · exact Or.inl hx
      · exact Or.inr ⟨rfl, rfl⟩
  · refine step_put_other he rfl hid ?_
    have happended : ∀ p : EventStore.PersistedEvent, p.event = event →
        (s.appended ++ [p]).filter (fun p => decide (p.event.runId = runId)) = (s.life runId).appended := by
      rintro p rfl
      rw [List.filter_append]
      simp [State.life, hrun, hid]
    have hlife : State.life { s with
        db := appendTo context.scope event draw.eventId draw.occurredAt m c.nextEventSequence s.db
        appended := s.appended ++ [⟨event, draw.eventId, c.nextEventSequence, toISOString draw.occurredAt⟩] }
          runId =
        { s.life runId with events := (rows runId
          (appendTo context.scope event draw.eventId draw.occurredAt m c.nextEventSequence s.db)).events } := by
      rw [State.life, appended_rows, happended _ rfl]
      rfl
    rw [hlife]
    refine .pruned i _ (life_executions_none he hid) fun x hx => ?_
    rcases mem_appended hx with hx | ⟨hx, -⟩
    · exact hx
    · exact absurd (hrun.symm.trans hx) hid

lemma put_step {t : State} {a : Action} {e' : Execution} (ht : t.life runId = s.life runId)
    (he : t.executions[i]? = some e) (hr : e'.run = e.run)
    (h : (s.life runId).executions i = some e → Life.Step s runId a (s.life runId) ((s.life runId).put i e')) :
    Life.Step s runId a (s.life runId) ((t.put i e').life runId) := by
  by_cases hid : e.run.runId = runId
  · refine step_put he hr hid ?_
    rw [ht]
    exact h (ht ▸ life_executions.mpr ⟨he, hid⟩)
  · refine step_put_other he hr hid ?_
    rw [ht]
    exact .idle

lemma renewed_step {now : Timestamp} {r : AgentRun} (he : s.executions[i]? = some e)
    (hr : s.db.agentRuns.find? e.run.runId = some r) (hs : r.status = .running) (ha : r.attempt = e.run.attempt) :
    Life.Step s runId (.renew i now) (s.life runId) { s.life runId with toRows := rows runId { s.db with
      agentRuns := s.db.agentRuns.update (fun r => RunWorker.isRun e.run.runId r &&
        (decide (r.status = .running) && decide (r.attempt = e.run.attempt)))
          (RunWorker.extendLease e.options now) fun _ => rfl } } := by
  have hrows := rows_update_run (a := s.db) runId e.run.runId
    (fun r => decide (r.status = .running) && decide (r.attempt = e.run.attempt))
      (RunWorker.extendLease e.options now)
    (fun _ => rfl) fun _ => rfl
  rw [hrows]
  by_cases hid : e.run.runId = runId
  · subst hid
    have hfind : (rows e.run.runId s.db).run = some r := hr
    rw [if_pos rfl, hfind, Option.map_some, if_pos (by simp [hs, ha])]
    exact .renewed i e r (life_executions.mpr ⟨he, rfl⟩) hr hs ha
  · rw [if_neg hid]
    exact .idle

lemma calls_of_mayFail {db : Tables} (hf : e.MayFail db) : e.phase.calls = true := by
  unfold Execution.MayFail at hf
  cases hp : e.phase <;> rw [hp] at hf <;> first | rfl | exact absurd hf id

lemma lost_of_mayFail {db : Tables} (hp : e.Proper) (hf : e.MayFail db) (hx : e.phase.exposed = true) :
    db.agentRuns.find? e.run.runId = none := by
  unfold Execution.MayFail at hf
  cases hphase : e.phase <;> rw [hphase] at hf hx <;> try cases hx
  case writing write place =>
    rw [Execution.Proper, hphase] at hp
    cases write with
    | complete | fail code | cancel => exact absurd trivial hf
    | waitForInput =>
      rw [hp] at hx
      cases hx
  case handling => exact hf

theorem life_change (h : s.Sound) {server : Deployment} {a : Action} {s' : State} (hc : Change server s a s')
    (runId : Id) : Life.Step s runId a (s.life runId) (s'.life runId) := by
  cases hc with
  | idle => exact .idle
  | visited hd hf hv => exact visited_step h hd hf hv
  | swept hs => exact swept_step h hs
  | dismissed => exact .idle
  | requested hr ha he => exact put_step rfl he rfl fun hi => .aborted _ _ hi
  | claimed hr hc hq => exact claimed_step hr hc hq
  | signalled he hr => exact put_step rfl he rfl fun hi => .signalled _ _ hi hr
  | renewed he hb hr hs ha => exact renewed_step he hr hs ha
  | lapsed he hb hr => exact put_step rfl he rfl fun hi => .aborted _ _ hi
  | lost he hb => exact put_step rfl he rfl fun hi => .aborted _ _ hi
  | @failed i e draw he hf =>
    refine put_step rfl he rfl fun hi => ?_
    obtain ⟨-, rfl⟩ := life_executions.mp hi
    exact .failed i e hi (calls_of_mayFail hf) (lost_of_mayFail (h.proper e (List.mem_of_getElem? he)) hf)
  | loaded he hp ht hs => exact put_step rfl he rfl fun hi => .loaded _ _ hi hp
  | @answered i e e' draw r he hp hr ha =>
    refine put_step rfl he ha.run fun hi => .answered _ _ _ r hi hp ?_ ha
    obtain ⟨-, rfl⟩ := life_executions.mp hi
    exact hr
  | @materialized i e draw context event b he hp hm =>
    by_cases hid : e.run.runId = runId
    · subst hid
      refine step_put he rfl rfl (.materialized i e (life_executions.mpr ⟨he, rfl⟩) hp ?_)
      cases hr : (s.life e.run.runId).run with
      | some r =>
        obtain ⟨hrm, hrkey⟩ := run_eq_some.mp hr
        exact materialized_own hr (congrArg Identity.assistantMessageId (identity_eq h he hrm hrkey.symm)).symm hm
      | none =>
        have hchange : Change server s (.work i draw) _ := .materialized he hp hm
        have hsound := (h.change hchange).life e.run.runId
        have hnone : (rows e.run.runId b).run = none :=
          (congrArg (fun t : Table AgentRun.runId => t.find? e.run.runId) (State.materialized_runs hm)).trans hr
        have hrows : rows e.run.runId b = rows e.run.runId s.db :=
          (rows_rootless hnone (hsound.rootless hnone)).trans
            (rows_rootless hr ((h.life e.run.runId).rootless hr)).symm
        have hlife : State.life { s with db := b } e.run.runId = s.life e.run.runId :=
          congrArg (fun x : Rows => { s.life e.run.runId with toRows := x }) hrows
        rw [hlife]
        exact .orphan _ hr
    · refine step_put_other he rfl hid ?_
      have hlife : State.life { s with db := b } runId = s.life runId :=
        congrArg (fun x : Rows => { s.life runId with toRows := x }) (materialized_other h he hid hm)
      rw [hlife]
      exact .idle
  | appended he hp hm hc hi => exact appended_step h he hp hm hc
  | @wrote i e draw write place he hp hw =>
    by_cases hid : e.run.runId = runId
    · subst hid
      refine step_put he rfl rfl ?_
      have hrows : rows e.run.runId (write.effect e.run e.now s.db) =
          ((s.life e.run.runId).effect e.now write).toRows := effect_own write fun r hr => by
        obtain ⟨hrm, hrkey⟩ := run_eq_some.mp hr
        exact (congrArg Identity.assistantMessageId (identity_eq h he hrm hrkey.symm)).symm
      have hlife : State.life { s with db := write.effect e.run e.now s.db } e.run.runId =
          (s.life e.run.runId).effect e.now write := by
        refine (congrArg (fun x : Rows => { s.life e.run.runId with toRows := x }) hrows).trans ?_
        cases write <;> rfl
      rw [hlife]
      refine .wrote i e (life_executions.mpr ⟨he, rfl⟩) hp fun hwait => ?_
      subst hwait
      exact hw
    · refine step_put_other he rfl hid ?_
      have hlife : State.life { s with db := write.effect e.run e.now s.db } runId = s.life runId :=
        congrArg (fun x : Rows => { s.life runId with toRows := x }) (effect_other h he hid write)
      rw [hlife]
      exact .idle

theorem life_step (h : s.Sound) (server : Deployment) (a : Action) (runId : Id) :
    Life.Step s runId a (s.life runId) ((s.step server a).life runId) :=
  life_change h (step_change (sequenced_of_sound h.skeleton) (rooted_of_sound h.skeleton) a) runId

end Work

lemma issued_step {s : State} {server : Deployment} {a : Action} (hs : s.Sound) {id : Id} (h : id ∈ s.issued) :
    id ∈ (s.step server a).issued := by
  have hc : Change server s a (s.step server a) :=
    step_change (sequenced_of_sound hs.skeleton) (rooted_of_sound hs.skeleton) a
  generalize s.step server a = s' at hc
  cases hc with
  | visited hd hf hv => exact List.mem_append_right _ h
  | idle | swept | dismissed | requested | claimed | signalled | renewed | lapsed | lost | failed | loaded | answered
  | materialized | appended | wrote => exact h

theorem life_invariant {server : Deployment} {runId : Id} {P : State → Action → Prop} {q : State → Life → Prop}
    (hstep : ∀ s a l', s.Sound → (s.life runId).Sound → P s a → q s (s.life runId) →
      Life.Step s runId a (s.life runId) l' → q (s.step server a) l')
    {s : State} (h : s.Sound) (hi : q s (s.life runId)) {actions : List Action}
    (ha : Transition.Along (State.step server) P s actions) :
    q (Transition.exec (State.step server) s actions)
      ((Transition.exec (State.step server) s actions).life runId) := by
  have hboth : ∀ s a, s.Sound ∧ q s (s.life runId) → P s a →
      (s.step server a).Sound ∧ q (s.step server a) ((s.step server a).life runId) := fun s a hs hp =>
    ⟨hs.1.step a, hstep s a _ hs.1 (hs.1.life runId) hp hs.2 (life_step hs.1 server a runId)⟩
  have hinv := ha.invariant (fun s => s.Sound ∧ q s (s.life runId)) ⟨h, hi⟩ hboth
  exact hinv.2

end ChatCore.Runs
