import ChatCore.Runs.Identity

namespace ChatCore.Runs

open Protocol Relational Database Services

section Skeleton

variable {issued : List Id} {known : Set Identity} {a b : Tables} {call : Call} {ids : List Id}

lemma created_drawn (h : drawnIds call = some ids) : ∀ id ∈ created call, id ∈ ids := by
  cases call <;> simp only [created, List.not_mem_nil, false_implies, implies_true, List.mem_singleton, forall_eq]
  simp only [drawnIds, Option.some.injEq] at h
  rw [← h]
  exact List.mem_cons_self ..

lemma lasting_home {scope : Scope} {conversationId : Id} {c : Conversation} (hl : Lasting [] a b)
    (hc : c ∈ a.conversations) (hin : inConversation scope conversationId c = true) :
    (⟨scope.tenantId, scope.siteId, conversationId⟩ : Home) ∈ b.conversations.image conversationHome := by
  obtain ⟨c', hc', hcont⟩ := hl.kept c hc
  simp only [inConversation, Bool.and_eq_true, decide_eq_true_eq] at hin
  refine ⟨c', hc', ?_⟩
  rw [conversationHome, hcont.conversationId, hcont.tenantId, hcont.siteId, hin.1.1.1, hin.1.1.2, hin.2]

lemma submitted_sound {scope : Scope} {conversationId : Id} {request : MessageService.SubmitMessageRequest}
    {ids : MessageService.SubmitIds} {now time : Timestamp} (h : (skeleton known a).Sound issued)
    (hn : [ids.id, ids.runId, ids.assistantMessageId].Nodup)
    (hf : ∀ id ∈ [ids.id, ids.runId, ids.assistantMessageId], id ∉ issued) (hl : Lasting [] a b)
    (hb : Submitted scope conversationId request ids now time a b) :
    (skeleton known b).Sound ([ids.id, ids.runId, ids.assistantMessageId] ++ issued) := by
  simp only [List.nodup_cons, List.mem_cons, List.not_mem_nil, or_false, not_or] at hn
  obtain ⟨participantId, sequence, habsent, hs, hmessages⟩ := hb.message
  obtain ⟨agentRef, r, rfl, hnew, hruns⟩ := hb.run
  obtain ⟨c, hc, hin⟩ := hb.conversation
  have h₁ : Skeleton.Sound issued { skeleton known a with
      conversations := b.conversations.image conversationHome } := h.lasting hl (fun _ hid => hid)
        fun _ hid => absurd hid List.not_mem_nil
  have h₂ : Skeleton.Sound (ids.id :: issued) { skeleton known a with
      conversations := b.conversations.image conversationHome
      messages := a.messages.image slot ∪
        {slot (MessageService.newMessage scope conversationId participantId request
        ids.id sequence now time)} } :=
    h₁.message (fun id hid => List.mem_cons_of_mem _ hid) (hf ids.id (by simp)) (List.mem_cons_self ..) hs
  have hfresh : ∀ id ∈ [ids.runId, ids.assistantMessageId], id ∉ ids.id :: issued := by
    intro id hid hm
    rcases List.mem_cons.mp hm with rfl | hm
    · exact absurd hid (by simpa using hn.1)
    · exact hf id (List.mem_cons_of_mem _ hid) hm
  have h₃ := h₂.run
    (r := identity (MessageService.newRun scope conversationId ids.id ids.runId ids.assistantMessageId
    agentRef .message time)) (fun id hid => show id ∈ [ids.id, ids.runId, ids.assistantMessageId] ++ issued by
      rcases List.mem_cons.mp hid with rfl | hid
      · simp
      · exact List.mem_append_right _ hid)
    ⟨hfresh _ (by simp [identity, MessageService.newRun]), hfresh _ (by simp [identity, MessageService.newRun])⟩
    ⟨by simp [identity, MessageService.newRun], by simp [identity, MessageService.newRun]⟩
    (lasting_home hl hc hin)
    ⟨_, Or.inr rfl, rfl, rfl⟩
  rw [skeleton, hmessages, hruns, hb.handoffs, hb.inputs, hb.events, Table.image_insert habsent,
    Table.image_insert hnew.absent]
  exact h₃

lemma handedOff_sound {scope : Scope} {conversationId : Id}
    {request : EmailHandoffService.CreateEmailHandoffRequest}
    {ids : EmailHandoffService.CreateIds} {now time : Timestamp} (h : (skeleton known a).Sound issued)
    (hf : ∀ id ∈ [ids.runId, ids.id, ids.assistantMessageId], id ∉ issued) (hl : Lasting [] a b)
    (hb : HandedOff scope conversationId request ids now time a b) :
    (skeleton known b).Sound ([ids.runId, ids.id, ids.assistantMessageId] ++ issued) := by
  obtain ⟨agentRef, trigger, r, htrigger, his, rfl, hnew, hruns⟩ := hb.run
  obtain ⟨c, hc, hin⟩ := hb.conversation
  have h₁ : Skeleton.Sound issued { skeleton known a with
      conversations := b.conversations.image conversationHome } := h.lasting hl (fun _ hid => hid)
        fun _ hid => absurd hid List.not_mem_nil
  have h₂ := h₁.run (r := identity (MessageService.newRun scope conversationId trigger.messageId ids.runId
    ids.assistantMessageId agentRef .agentEmailHandoff time))
    (fun id hid => show id ∈ [ids.runId, ids.id, ids.assistantMessageId] ++
      issued from List.mem_append_right _ hid)
    ⟨hf _ (by simp [identity, MessageService.newRun]), hf _ (by simp [identity, MessageService.newRun])⟩
    ⟨by simp [identity, MessageService.newRun], by simp [identity, MessageService.newRun]⟩
    (lasting_home hl hc hin)
    ⟨slot trigger, Table.mem_image htrigger, rfl, by
      simp only [EmailHandoffService.isTrigger, Bool.and_eq_true, decide_eq_true_eq] at his
      simp [slot, identity, MessageService.newRun, his]⟩
  have hunused : ∀ x ∈ a.handoffs.image handoffPart, x.2.runId ≠ ids.runId := by
    intro x hx he
    obtain ⟨y, hy, hid, -⟩ := h.handoffs x hx
    have hy := (h.issued y (Or.inl hy)).1
    rw [hid.trans he] at hy
    exact hf ids.runId (by simp) hy
  have h₃ : Skeleton.Sound _ { skeleton known a with
      conversations := b.conversations.image conversationHome
      runs := _
      handoffs := a.handoffs.image handoffPart ∪
        {handoffPart (EmailHandoffService.newHandoff scope conversationId ids now)} } :=
    h₂.handoff ⟨_, Or.inr rfl, rfl, rfl⟩ hunused
  have h₄ := h₃.input (p := inputPart (EmailHandoffService.newInput scope conversationId
    (EmailHandoffService.normalize request.email) ids now)) ⟨_, Or.inr rfl, rfl, rfl⟩
  rw [skeleton, hb.messages, hruns, hb.handoffs, hb.inputs, hb.events, Table.image_insert hnew.absent,
    Table.image_insert hb.absent.1, Table.image_insert hb.absent.2]
  exact h₄

lemma visited_sound (h : (skeleton known a).Sound issued) (hd : drawnIds call = some ids) (hn : ids.Nodup)
    (hf : ∀ id ∈ ids, id ∉ issued) (hl : Lasting (created call) a b) (hv : Visited call a b) :
    (skeleton known b).Sound (ids ++ issued) := by
  have hi : ∀ id ∈ issued, id ∈ ids ++ issued := fun id hid => List.mem_append_right _ hid
  cases hv with
  | beside hb =>
    have hw := h.lasting hl hi fun id hid =>
      ⟨hf id (created_drawn hd id hid), List.mem_append_left _ (created_drawn hd id hid)⟩
    have hsame : skeleton known b =
      { skeleton known a with conversations := b.conversations.image conversationHome } := by
      simp only [skeleton, hb.messages, hb.runs, hb.handoffs, hb.inputs, hb.events]
    rw [hsame]
    exact hw
  | submitted hb =>
    cases hd
    exact submitted_sound h hn hf hl hb
  | handedOff hb =>
    cases hd
    exact handedOff_sound h hf hl hb
  | @cancelled scope conversationId key order now time platform r a hs =>
    have hsame : skeleton known (cancelled scope conversationId key now time platform r a) = skeleton known a := by
      simp only [skeleton, cancelled]
      rw [Table.image_update _ fun r => ?_]
      unfold Idempotency.decided
      split <;> rfl
    rw [hsame]
    exact h.weaken hi
  | @resumed scope conversationId requestId request key now time a b hb =>
    obtain ⟨i, -, -, -, -, hruns, hhandoffs⟩ := hb.input
    have hh : b.handoffs.image handoffPart = a.handoffs.image handoffPart := by
      rw [hhandoffs]
      cases request with
      | submitted value => exact Table.image_update
      | declined => rfl
    have hw : Skeleton.Sound (ids ++ issued) { skeleton known a with
      conversations := b.conversations.image conversationHome } := h.lasting hl hi fun id hid =>
        absurd hid List.not_mem_nil
    have hr : b.agentRuns.image identity = a.agentRuns.image identity := by
      rw [hruns]
      exact Table.image_update
    have hin : b.structuredInputRequests.image inputPart = a.structuredInputRequests.image inputPart := by
      rw [hb.inputs]
      exact Table.image_update
    rw [skeleton, hh, hb.messages, hr, hin, hb.events]
    exact hw

lemma swept_sound (h : (skeleton known a).Sound issued) (hs : SweptAway a b) :
    (skeleton known b).Sound issued := by
  obtain ⟨q, gone, -, hf⟩ := hs
  have hsame : skeleton known b =
      (skeleton known a).forget fun home => gone home.tenantId home.siteId home.conversationId := by
    have hin : (a.structuredInputRequests.update q RetentionService.redact fun _ => rfl).image inputPart =
        a.structuredInputRequests.image inputPart := Table.image_update
    rw [skeleton, hf.conversations, hf.messages, hf.events, hf.runs, hf.handoffs, hf.inputs]
    simp only [Skeleton.forget, skeleton, Skeleton.mk.injEq]
    refine ⟨Table.image_delete fun _ => rfl, Table.image_delete fun _ => rfl, Table.image_delete fun _ => rfl,
      Table.image_delete fun _ => rfl, ?_, Table.image_delete fun _ => rfl, trivial⟩
    rw [← hin]
    exact Table.image_delete fun _ => rfl
  rw [hsame]
  exact h.forget _

lemma sound_of_images {k : Skeleton} (h : k.Sound issued)
    (hc : b.conversations.image conversationHome = k.conversations) (hm : b.messages.image slot = k.messages)
    (hr : b.agentRuns.image identity = k.runs) (hh : b.handoffs.image handoffPart = k.handoffs)
    (hi : b.structuredInputRequests.image inputPart = k.inputs)
    (he : b.conversationEvents.image eventPart = k.events) :
    (skeleton k.known b).Sound issued := by
  rw [skeleton, hc, hm, hr, hh, hi, he]
  exact h

section Worker

variable {run : AgentRun} {now : Timestamp} {participantId : Id} (h : (skeleton known a).Sound issued)
  (hk : identity run ∈ known)

include h hk

lemma owned_of_known {r : AgentRun} (hr : r ∈ a.agentRuns) (he : r.runId = run.runId) :
    (skeleton known a).Owned ⟨run.runId, (identity run).home⟩ :=
  ⟨identity r, Table.mem_image hr, he, congrArg Identity.home
    (h.ids _ (Or.inl (Table.mem_image hr)) _ (Or.inr hk) he)⟩

lemma materialized_sound {body : EventBody} (hm : Materialized run now participantId body a b) :
    (skeleton known b).Sound issued := by
  cases hm with
  | resumed | requestedAgain | nothing => exact h
  | started sequence hs habsent hc =>
    have hw := h.answer (r := identity run) (n := sequence) (Or.inr hk) hs
    have hconversations : (a.conversations.update (fun c => RunWorker.ofConversation run c.tenantId c.siteId
        c.conversationId) (MessageService.takeMessageSequence now) fun _ => rfl).image conversationHome =
          a.conversations.image conversationHome := Table.image_update
    have hmessages : (a.messages.insert (RunWorker.newAssistant run now participantId sequence)).image slot =
        a.messages.image slot ∪ {slot (RunWorker.newAssistant run now participantId sequence)} :=
      Table.image_insert habsent
    exact sound_of_images hw hconversations hmessages rfl rfl rfl rfl
  | completed parts m hfind hc => exact sound_of_images h rfl Table.image_update rfl rfl rfl rfl
  | requested handoffId hh =>
    obtain ⟨-, habsent, hviolation⟩ := handoffs.broken_eq_none.mp hh
    obtain ⟨hunique, hforeign⟩ := Option.or_eq_none_iff.mp hviolation
    obtain ⟨r, hr⟩ := Option.isSome_iff_exists.mp (failing_eq_none.mp hforeign)
    obtain ⟨hr, he⟩ := Table.find?_eq_some.mp hr
    have hunused : ∀ x ∈ a.handoffs.image handoffPart, x.2.runId ≠ run.runId := by
      rintro x ⟨y, hy, rfl⟩
      exact of_decide_eq_true (List.all_eq_true.mp (failing_eq_none.mp hunique) y hy)
    have hw : Skeleton.Sound issued { skeleton known a with
        handoffs := a.handoffs.image handoffPart ∪ {handoffPart (RunWorker.newHandoff run now handoffId)} } :=
      h.handoff (owned_of_known h hk hr he) hunused
    exact sound_of_images hw rfl rfl rfl (Table.image_insert habsent) rfl rfl
  | askedAgain i prompt required x hi hr hx hrun =>
    exact sound_of_images h rfl rfl rfl Table.image_update rfl rfl
  | asked requestId prompt required x hi hx hrun =>
    obtain ⟨-, habsent, hforeign⟩ := structuredInputRequests.broken_eq_none.mp hi
    obtain ⟨r, hr⟩ := Option.isSome_iff_exists.mp (failing_eq_none.mp hforeign)
    obtain ⟨hr, he⟩ := Table.find?_eq_some.mp hr
    exact sound_of_images (h.input (owned_of_known h hk hr he)) rfl rfl rfl Table.image_update
      (Table.image_insert habsent) rfl
  | finished handoffId x hfind hc hr =>
    exact sound_of_images h rfl rfl rfl Table.image_update rfl rfl

omit hk in
lemma effect_sound (write : StatusWrite) : (skeleton known (write.effect run now a)).Sound issued := by
  cases write with
  | complete => exact sound_of_images h rfl rfl Table.image_update rfl rfl rfl
  | fail code =>
    exact sound_of_images h rfl rfl Table.image_update Table.image_update rfl rfl
  | cancel =>
    exact sound_of_images h rfl Table.image_update Table.image_update rfl rfl rfl
  | waitForInput => exact sound_of_images h rfl rfl Table.image_update rfl rfl rfl

lemma appended_sound {scope : Scope} {event : ConnectorEvent} {eventId : Id} {time : Timestamp} {n m : ℕ}
    {c : Conversation} (hc : c ∈ a.conversations) (hin : inConversation scope event.conversationId c = true)
    (hi : a.conversationEvents.find? eventId = none) (hrun : event.runId = run.runId)
    (hhome : (⟨scope.tenantId, scope.siteId, event.conversationId⟩ : Home) = (identity run).home) :
    (skeleton known (appendTo scope event eventId time m n a)).Sound issued := by
  have hid : (identity run).home.conversationId = event.conversationId := congrArg Home.conversationId hhome.symm
  have hevent : c.conversationId = event.conversationId := by
    simp only [inConversation, Bool.and_eq_true, decide_eq_true_eq] at hin
    exact hin.2
  have hr := h.alive _ hk _ (Table.mem_image hc) (hevent.trans hid.symm)
  have howned : ∀ x ∈ ((a.conversationEvents.insert (EventStore.newEvent scope event n eventId time)).delete
      (EventStore.isPruned scope event.conversationId ((n : Int) - m))).image eventPart,
        x ∈ (skeleton known a).events ∨ (skeleton known a).Owned x := by
    rintro x ⟨e, he, rfl⟩
    rcases (Table.mem_insert_of_absent (r := EventStore.newEvent scope event n eventId time) hi).mp
      (Table.mem_delete.mp he).1 with he | rfl
    · exact Or.inl (Table.mem_image he)
    · exact Or.inr ⟨_, hr, hrun.symm, hhome.symm⟩
  have hw := h.event howned
  exact sound_of_images hw Table.image_update rfl rfl rfl rfl rfl

end Worker

end Skeleton

end ChatCore.Runs
