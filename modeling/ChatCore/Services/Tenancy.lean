import ChatCore.Services.Isolation

namespace ChatCore.Services.Isolation

open Protocol Relational Database Program

variable {o : Holdings}

section Sessions

open SessionService

variable {platform : Platform} {issuer : Issuer} {directory : Directory} {site : SessionService.Site}

lemma confines_findPrincipal (htenant : o.tenants site.tenantId = true) (browserIdentity : Id) {principalId : Id}
    (hid : o.holds principalId = true) (currentTimestamp : Timestamp) :
    o.Confines (findPrincipal site browserIdentity principalId currentTimestamp) fun _ => True := by
  have hpart : ∀ p, ofBrowser site browserIdentity p = true → o.principal.part p = true := by
    intro p hp
    simp only [ofBrowser, Bool.and_eq_true, decide_eq_true_eq] at hp
    simp [Holdings.principal, hp.1.1, Holdings.isOf_tenant htenant]
  unfold findPrincipal
  refine (o.fenced_principals.confined_selectFirst hpart).bind fun found _ => ?_
  cases found with
  | some principal => exact confined_pure trivial
  | none =>
    refine (o.fenced_principals.confined_insertUnless hpart (Holdings.admits_principal htenant hid)).bind
      fun _ _ => ?_
    exact (o.fenced_principals.confined_selectFirstOrThrow hpart).mono fun _ _ => trivial

lemma confines_findSession (htenant : o.tenants site.tenantId = true) (principalId : Id) {sessionId : Id}
    (hid : o.holds sessionId = true) (expiresAt : Timestamp) :
    o.Confines (findSession site principalId sessionId expiresAt) fun _ => True := by
  have hpart : ∀ s, ofVisitor site principalId s = true → o.session.part s = true := by
    intro s hs
    simp only [ofVisitor, Bool.and_eq_true, decide_eq_true_eq] at hs
    simp [Holdings.session, hs.1.1, Holdings.isOf_tenant htenant]
  unfold findSession
  refine (o.fenced_sessions.confined_selectFirst hpart).bind fun found _ => ?_
  cases found with
  | none =>
    refine Confined.bind (o.fenced_sessions.confined_upsert o.agreement hpart _ ?_
      (Holdings.admits_session (Holdings.isOf_tenant htenant _ _) hid)) fun _ _ => ?_
    · exact fun _ hp hw => ⟨hp, hw⟩
    · exact (o.fenced_sessions.confined_selectFirstOrThrow hpart).mono fun _ _ => trivial
  | some session =>
    refine Confined.bind (o.fenced_sessions.confined_updateTable o.agreement (fun s hs => ?_) _ ?_)
      fun _ _ => confined_pure trivial
    · simp only [Bool.and_eq_true, decide_eq_true_eq] at hs
      simp [Holdings.session, hs.1.1, Holdings.isOf_tenant htenant]
    · exact fun _ hp hw => ⟨hp, hw⟩

lemma confines_identify (htenant : o.tenants site.tenantId = true) (hsite : o.sites site.siteId = true)
    (request : AnonymousBootstrapRequest) (idempotencyKey : String) {ids : BootstrapIds}
    (hprincipal : o.holds ids.principalId = true) (hsession : o.holds ids.sessionId = true)
    (now currentTimestamp : Timestamp) :
    o.Confines (identify platform issuer site request idempotencyKey ids now currentTimestamp) fun _ => True := by
  unfold identify
  refine (confined_lock o.spares_refl _).bind fun _ _ => ?_
  refine (o.fenced_bootstraps.confined_selectFirst fun r hr => ?_).bind fun previous _ => ?_
  · simp [Holdings.bootstrap, of_decide_eq_true hr, hsite]
  dsimp only
  split
  · exact .throw _
  refine (confines_findPrincipal htenant _ hprincipal currentTimestamp).bind fun principal _ => ?_
  refine (confines_findSession htenant _ hsession _).bind fun session _ => ?_
  split
  · exact (o.fenced_bootstraps.confined_insertInto (Holdings.admits_bootstrap hsite)).bind
      fun _ _ => confined_pure trivial
  · exact confined_pure trivial

lemma confines_resolveAgentRef (widgetKey agentAlias : Option Id) :
    o.Confines (resolveAgentRef directory site widgetKey agentAlias) fun _ => True := by
  unfold resolveAgentRef
  split
  · split
    · exact .throw _
    · exact confined_pure trivial
  · split
    · exact .throw _
    · split
      · exact .throw _
      · exact confined_pure trivial

lemma confines_bootstrapAnonymous
    (hdirectory : ∀ site ∈ directory.sites, site.siteKey = request.siteKey →
      o.tenants site.tenantId = true ∧ o.sites site.siteId = true)
    (context : BootstrapContext) {ids : BootstrapIds} (hprincipal : o.holds ids.principalId = true)
    (hsession : o.holds ids.sessionId = true) (now currentTimestamp : Timestamp) :
    o.Confines (bootstrapAnonymous platform issuer directory request context ids now currentTimestamp)
      fun _ => True := by
  unfold bootstrapAnonymous
  cases hfind : directory.sites.find? fun s => decide (s.siteKey = request.siteKey) with
  | none => exact .throw _
  | some site =>
    have hkey := List.find?_some hfind
    obtain ⟨htenant, hsite⟩ := hdirectory site (List.mem_of_find?_eq_some hfind) (of_decide_eq_true hkey)
    cases (issuer.normalizeOrigin context.origin).bind present with
    | none => exact .throw _
    | some origin =>
      dsimp only
      split
      · exact .throw _
      refine (confines_resolveAgentRef _ _).bind fun agentRef _ => ?_
      exact (Confined.transaction (confines_identify htenant hsite request _ hprincipal hsession now
        currentTimestamp)).bind fun _ _ => confined_pure trivial

end Sessions

section Administration

open AdminQueryService

variable {W : Type} {collation : Collation} {encoding : Encoding} {registry : Registry W} {scope : AdminScope}

lemma confines_scopedConversation (htenant : o.tenants scope.tenantId = true) (conversationId : Id) :
    o.Confines (scopedConversation scope conversationId) fun _ => True := by
  unfold scopedConversation
  refine (o.fenced_conversations.confined_selectFirst fun c hc => ?_).bind fun found _ => ?_
  · simp only [Bool.and_eq_true, decide_eq_true_eq] at hc
    simp [Holdings.conversation, hc.1, Holdings.isOf_tenant htenant]
  · cases found with
    | none => exact .throw _
    | some row => exact confined_pure trivial

lemma confines_participantsFor (htenant : o.tenants scope.tenantId = true)
    (order : Arrangement ConversationParticipant) (conversationIds : List Id) :
    o.Confines (participantsFor scope order conversationIds) fun _ => True := by
  unfold participantsFor
  split
  · exact confined_pure trivial
  · refine (o.fenced_participants.confined_selectFrom fun p hp => ?_).bind fun _ _ => confined_pure trivial
    simp only [Bool.and_eq_true, decide_eq_true_eq] at hp
    simp [Holdings.participant, hp.1, htenant]

lemma confines_firstUserMessagePreviews (htenant : o.tenants scope.tenantId = true) (conversationIds : List Id) :
    o.Confines (firstUserMessagePreviews collation scope conversationIds) fun _ => True := by
  unfold firstUserMessagePreviews
  split
  · exact confined_pure trivial
  · refine (o.fenced_messages.confined_selectFrom fun m hm => ?_).bind fun _ _ => confined_pure trivial
    simp only [Bool.and_eq_true, decide_eq_true_eq] at hm
    simp [Holdings.message, hm.1.1, htenant]

lemma confines_select {ρ : Type} {query : Tables → ρ} (h : ∀ db db', o.Agree db db' → query db = query db') :
    o.Confines (Program.select query) fun _ => True :=
  confined_select o.spares_refl fun db db' hdb => ⟨h db db' hdb, trivial⟩

lemma confines_adminConversations (htenant : o.tenants scope.tenantId = true)
    (order : Arrangement ConversationParticipant) (filter : AdminQueryService.Filter ConversationStatus) :
    o.Confines (AdminQueryService.listConversations collation encoding scope order filter) fun _ => True := by
  unfold AdminQueryService.listConversations
  split
  · exact .throw _
  · refine (confines_select fun db db' hdb => congrArg (limited _ _ _ _)
      (o.fenced_conversations.matching hdb fun c hc => ?_)).bind fun rows _ => ?_
    · simp only [Bool.and_eq_true, decide_eq_true_eq] at hc
      simp [Holdings.conversation, hc.1.1, Holdings.isOf_tenant htenant]
    · refine (confines_participantsFor htenant _ _).bind fun _ _ => ?_
      exact (confines_firstUserMessagePreviews htenant _).bind fun _ _ => confined_pure trivial

lemma confines_adminConversation (htenant : o.tenants scope.tenantId = true)
    (order : Arrangement ConversationParticipant) (conversationId : Id) :
    o.Confines (AdminQueryService.getConversation scope order conversationId) fun _ => True := by
  unfold AdminQueryService.getConversation
  refine (confines_scopedConversation htenant _).bind fun _ _ => ?_
  exact (confines_participantsFor htenant _ _).bind fun _ _ => confined_pure trivial

lemma confines_adminMessages (htenant : o.tenants scope.tenantId = true) (conversationId : Id)
    (request : ListRequest) :
    o.Confines (AdminQueryService.listMessages encoding scope conversationId request) fun _ => True := by
  unfold AdminQueryService.listMessages
  refine (confines_scopedConversation htenant _).bind fun _ _ => ?_
  split
  · exact .throw _
  · refine (o.fenced_messages.confined_selectFrom fun m hm => ?_).bind fun _ _ => confined_pure trivial
    simp only [Bool.and_eq_true, decide_eq_true_eq] at hm
    simp [Holdings.message, hm.1.1, htenant]

lemma confines_adminEvents (htenant : o.tenants scope.tenantId = true) (conversationId : Id)
    (request : ListRequest) :
    o.Confines (AdminQueryService.listEvents encoding scope conversationId request) fun _ => True := by
  unfold AdminQueryService.listEvents
  refine (confines_scopedConversation htenant _).bind fun _ _ => ?_
  split
  · exact .throw _
  · refine (o.fenced_events.confined_selectFrom fun e he => ?_).bind fun _ _ => confined_pure trivial
    simp only [Bool.and_eq_true, decide_eq_true_eq] at he
    simp [Holdings.event, he.1.1.1, htenant]

lemma runRows_agree (htenant : o.tenants scope.tenantId = true) (filter : AdminQueryService.Filter RunStatus)
    (cursor : Option TimeCursor) {db db' : Tables} (hdb : o.Agree db db') :
    runRows collation scope filter cursor db = runRows collation scope filter cursor db' := by
  refine congrArg (limited _ _ _ _) (o.fenced_runs.matching hdb fun r hr => ?_)
  simp only [Bool.and_eq_true, decide_eq_true_eq] at hr
  simp [Holdings.run, hr.1.1, htenant]

lemma confines_adminRuns (htenant : o.tenants scope.tenantId = true)
    (filter : AdminQueryService.Filter RunStatus) :
    o.Confines (AdminQueryService.listRuns collation encoding scope filter) fun _ => True := by
  unfold AdminQueryService.listRuns
  split
  · exact .throw _
  · exact (confines_select fun _ _ hdb => runRows_agree htenant _ _ hdb).bind fun _ _ => confined_pure trivial

lemma confines_adminFailures (htenant : o.tenants scope.tenantId = true)
    (filter : AdminQueryService.Filter RunStatus) :
    o.Confines (AdminQueryService.listFailures collation encoding scope filter) fun _ => True := by
  unfold AdminQueryService.listFailures
  split
  · exact .throw _
  · exact (confines_select fun _ _ hdb => runRows_agree htenant _ _ hdb).bind fun _ _ => confined_pure trivial

lemma handoffRows_agree (htenant : o.tenants scope.tenantId = true)
    (filter : AdminQueryService.Filter HandoffStatus)
    (cursor : Option TimeCursor) {db db' : Tables} (hdb : o.Agree db db') :
    handoffRows collation scope filter cursor db = handoffRows collation scope filter cursor db' := by
  have hpart : ∀ h : Handoff, decide (h.tenantId = scope.tenantId) = true → o.handoff.part h = true := by
    intro h hh
    simp [Holdings.handoff, of_decide_eq_true hh, htenant]
  refine congrArg (limited _ _ _ _) ?_
  rw [o.fenced_handoffs.matching hdb hpart]
  refine List.flatMap_congr fun h hh => ?_
  obtain ⟨-, -, -, hrun, -⟩ := o.fenced_handoffs.whole_of_matching (o.agreement.right hdb) hpart h hh
  rw [o.fenced_runs.matching hdb fun r hr => ?_]
  simp only [Bool.and_eq_true, decide_eq_true_eq] at hr
  simp [Holdings.run, hr.1.1, hrun]

lemma confines_adminHandoffs (htenant : o.tenants scope.tenantId = true)
    (filter : AdminQueryService.Filter HandoffStatus) :
    o.Confines (AdminQueryService.listHandoffs collation encoding scope filter) fun _ => True := by
  unfold AdminQueryService.listHandoffs
  split
  · exact .throw _
  · exact (confines_select fun _ _ hdb => handoffRows_agree htenant _ _ hdb).bind fun _ _ => confined_pure trivial

lemma confines_siteOverview (htenant : o.tenants scope.tenantId = true) (site : AdminQueryService.Site W) :
    o.Confines (siteOverview scope site) fun _ => True := by
  have hof : ∀ tenantId siteId : Id, ofSite scope site.siteId tenantId siteId = true →
    o.tenants tenantId = true := by
    intro tenantId siteId h
    rw [ofSite, Bool.and_eq_true, decide_eq_true_eq] at h
    rw [h.1, htenant]
  unfold siteOverview
  refine (o.fenced_conversations.confined_selectFrom fun c hc => ?_).bind fun _ _ => ?_
  · simp [Holdings.conversation, Holdings.isOf_tenant (hof _ _ hc)]
  refine (o.fenced_runs.confined_selectFrom fun r hr => ?_).bind fun _ _ => ?_
  · simp [Holdings.run, hof _ _ hr]
  refine (o.fenced_handoffs.confined_selectFrom fun h hh => ?_).bind fun _ _ => confined_pure trivial
  simp [Holdings.handoff, hof _ _ hh]

lemma confines_getOverview (htenant : o.tenants scope.tenantId = true) :
    o.Confines (getOverview registry scope) fun _ => True := by
  unfold getOverview
  split
  · exact .throw _
  · exact (confined_mapM (I := fun _ => True) (fun site _ => confines_siteOverview htenant site) _
      fun _ _ => trivial).bind fun _ _ => confined_pure trivial

end Administration

end ChatCore.Services.Isolation
