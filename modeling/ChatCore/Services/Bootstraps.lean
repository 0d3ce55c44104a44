import ChatCore.Relational.SafeRules
import ChatCore.Services.Sessions

namespace ChatCore.Services.Bootstraps

open Protocol Relational Database SessionService

structure Visit where
  request : AnonymousBootstrapRequest
  context : BootstrapContext
  ids : BootstrapIds
  now : Timestamp
  currentTimestamp : Timestamp
  deriving DecidableEq

abbrev VisitRecord := Record Tables ServerError SessionBootstrapResponse Visit

abbrev VisitStore := Store Tables ServerError SessionBootstrapResponse Visit

abbrev VisitWorld := World Tables LockName ServerError SessionBootstrapResponse Visit

section Rows

def visitor (s : BrowserSession) : Id × Id × Id × Id := (s.sessionId, s.tenantId, s.siteId, s.principalId)

/-- The unique constraints of the migrations. -/
structure Unique (db : Tables) : Prop where
  principals : ∀ p ∈ db.principals, ∀ q ∈ db.principals, p.tenantId = q.tenantId → p.siteId = q.siteId →
    p.browserIdentity = q.browserIdentity → p = q
  sessions : ∀ s ∈ db.browserSessions, ∀ t ∈ db.browserSessions, s.tenantId = t.tenantId → s.siteId = t.siteId →
    s.principalId = t.principalId → s = t

structure Grows (before after : Tables) : Prop where
  principals : ∀ p ∈ before.principals, p ∈ after.principals
  sessions : ∀ s ∈ before.browserSessions, ∃ t ∈ after.browserSessions, visitor t = visitor s
  bootstraps : ∀ r ∈ before.sessionBootstrapIdempotency, r ∈ after.sessionBootstrapIdempotency

lemma grows_refl (db : Tables) : Grows db db := ⟨fun _ h => h, fun s h => ⟨s, h, rfl⟩, fun _ h => h⟩

lemma Grows.trans {a b c : Tables} (h : Grows a b) (h' : Grows b c) : Grows a c := by
  refine ⟨fun p hp => h'.principals p (h.principals p hp), fun s hs => ?_,
    fun r hr => h'.bootstraps r (h.bootstraps r hr)⟩
  obtain ⟨t, ht, he⟩ := h.sessions s hs
  obtain ⟨u, hu, he'⟩ := h'.sessions t ht
  exact ⟨u, hu, he'.trans he⟩

def insertPrincipal (p : Principal) (db : Tables) : Tables := { db with principals := db.principals.insert p }

def insertSession (s : BrowserSession) (db : Tables) : Tables :=
  { db with browserSessions := db.browserSessions.insert s }

def renew (q : BrowserSession → Bool) (expiresAt : Timestamp) (db : Tables) : Tables :=
  { db with browserSessions := db.browserSessions.update q (renewed expiresAt) (renewed_sessionId expiresAt) }

def insertBootstrap (r : SessionBootstrapIdempotency) (db : Tables) : Tables :=
  { db with sessionBootstrapIdempotency := db.sessionBootstrapIdempotency.insert r }

lemma grows_insertPrincipal (p : Principal) (db : Tables) : Grows db (insertPrincipal p db) :=
  ⟨fun _ => Table.mem_insert_of_mem, fun s h => ⟨s, h, rfl⟩, fun _ h => h⟩

lemma grows_insertSession (s : BrowserSession) (db : Tables) : Grows db (insertSession s db) :=
  ⟨fun _ h => h, fun t h => ⟨t, Table.mem_insert_of_mem h, rfl⟩, fun _ h => h⟩

lemma grows_insertBootstrap (r : SessionBootstrapIdempotency) (db : Tables) : Grows db (insertBootstrap r db) :=
  ⟨fun _ h => h, fun s h => ⟨s, h, rfl⟩, fun _ => Table.mem_insert_of_mem⟩

variable {q : BrowserSession → Bool} {expiresAt : Timestamp}

lemma visitor_renewed (s : BrowserSession) : visitor (if q s then renewed expiresAt s else s) = visitor s := by
  split <;> rfl

lemma mem_renew {db : Tables} {s : BrowserSession} : s ∈ (renew q expiresAt db).browserSessions ↔
    ∃ r ∈ db.browserSessions, s = if q r = true then renewed expiresAt r else r :=
  (Table.mem_update : s ∈ db.browserSessions.update q (renewed expiresAt) (renewed_sessionId expiresAt) ↔ _)

lemma exists_renewed {db : Tables} {s : BrowserSession} (h : s ∈ db.browserSessions) :
    ∃ t ∈ (renew q expiresAt db).browserSessions, visitor t = visitor s :=
  ⟨_, mem_renew.mpr ⟨s, h, rfl⟩, visitor_renewed s⟩

lemma grows_renew (db : Tables) : Grows db (renew q expiresAt db) :=
  ⟨fun _ h => h, fun _ h => exists_renewed h, fun _ h => h⟩

lemma unique_insertPrincipal {p : Principal} {db : Tables} (h : Unique db)
    (hnew : ∀ r ∈ db.principals,
      ¬ (r.tenantId = p.tenantId ∧ r.siteId = p.siteId ∧ r.browserIdentity = p.browserIdentity)) :
    Unique (insertPrincipal p db) := by
  refine ⟨fun a ha b hb ht hs hi => ?_, h.sessions⟩
  rcases Table.mem_of_mem_insert ha with ha' | rfl
  · rcases Table.mem_of_mem_insert hb with hb' | rfl
    · exact h.principals a ha' b hb' ht hs hi
    · exact absurd ⟨ht, hs, hi⟩ (hnew a ha')
  · rcases Table.mem_of_mem_insert hb with hb' | rfl
    · exact absurd ⟨ht.symm, hs.symm, hi.symm⟩ (hnew b hb')
    · rfl

lemma unique_insertSession {s : BrowserSession} {db : Tables} (h : Unique db)
    (hnew : ∀ r ∈ db.browserSessions,
      ¬ (r.tenantId = s.tenantId ∧ r.siteId = s.siteId ∧ r.principalId = s.principalId)) :
    Unique (insertSession s db) := by
  refine ⟨h.principals, fun a ha b hb ht hs hi => ?_⟩
  rcases Table.mem_of_mem_insert ha with ha' | rfl
  · rcases Table.mem_of_mem_insert hb with hb' | rfl
    · exact h.sessions a ha' b hb' ht hs hi
    · exact absurd ⟨ht, hs, hi⟩ (hnew a ha')
  · rcases Table.mem_of_mem_insert hb with hb' | rfl
    · exact absurd ⟨ht.symm, hs.symm, hi.symm⟩ (hnew b hb')
    · rfl

lemma unique_renew {db : Tables} (h : Unique db) : Unique (renew q expiresAt db) := by
  refine ⟨h.principals, fun a ha b hb ht hs hi => ?_⟩
  obtain ⟨a, ha', rfl⟩ := mem_renew.mp ha
  obtain ⟨b, hb', rfl⟩ := mem_renew.mp hb
  have hva : visitor (if q a then renewed expiresAt a else a) = visitor a := visitor_renewed a
  have hvb : visitor (if q b then renewed expiresAt b else b) = visitor b := visitor_renewed b
  simp only [visitor, Prod.mk.injEq] at hva hvb
  rw [hva.2.1, hvb.2.1] at ht
  rw [hva.2.2.1, hvb.2.2.1] at hs
  rw [hva.2.2.2, hvb.2.2.2] at hi
  rw [h.sessions a ha' b hb' ht hs hi]

end Rows

section Locks

structure VisitCell where
  principal : Option Principal
  session : Option BrowserSession
  bootstrap : Option SessionBootstrapIdempotency
  principals : List Principal
  sessions : List (Id × Id × Id × Id)
  bootstraps : List SessionBootstrapIdempotency

def principalsUnder (t : Table Principal.principalId) (n : LockName) : List Principal :=
  t.rows.filter fun p => decide (LockName.principalBrowser p.tenantId p.siteId p.browserIdentity = n)

def sessionsUnder (t : Table BrowserSession.sessionId) (n : LockName) : List (Id × Id × Id × Id) :=
  (t.rows.filter fun s => decide (LockName.sessionPrincipal s.principalId = n)).map visitor

variable (platform : Platform)

def keyHash (k : BootstrapKey) : Int := platform.hashtextextended s!"{k.siteId}:{k.idempotencyKey}"

def bootstrapsUnder (t : Table SessionBootstrapIdempotency.key) (n : LockName) :
    List SessionBootstrapIdempotency :=
  t.rows.filter fun r => decide (LockName.advisory (keyHash platform r.key) = n)

def visitCell (n : LockName) (db : Tables) : VisitCell where
  principal := match n with | .principal id => db.principals.find? id | _ => none
  session := match n with | .browserSession id => db.browserSessions.find? id | _ => none
  bootstrap := match n with | .bootstrap key => db.sessionBootstrapIdempotency.find? key | _ => none
  principals := principalsUnder db.principals n
  sessions := sessionsUnder db.browserSessions n
  bootstraps := bootstrapsUnder platform db.sessionBootstrapIdempotency n

variable {platform} {n : LockName}

lemma shields_principals : principals.Shields (visitCell platform) (fun n t => principalsUnder t n) := by
  intro n base u hrow hx
  cases n <;> simp only [visitCell, principals] at hrow hx ⊢ <;> rw [hx]
  case principal id => rw [hrow id rfl]

lemma shields_sessions : browserSessions.Shields (visitCell platform) (fun n t => sessionsUnder t n) := by
  intro n base u hrow hx
  cases n <;> simp only [visitCell, browserSessions] at hrow hx ⊢ <;> rw [hx]
  case browserSession id => rw [hrow id rfl]

lemma shields_bootstraps :
    sessionBootstrapIdempotency.Shields (visitCell platform) (fun n t => bootstrapsUnder platform t n) := by
  intro n base u hrow hx
  cases n <;> simp only [visitCell, sessionBootstrapIdempotency] at hrow hx ⊢ <;> rw [hx]
  case bootstrap key => rw [hrow key rfl]

lemma filter_insert {ρ κ : Type} [DecidableEq κ] {key : ρ → κ} {p : ρ → Bool} {r : ρ} (hp : p r = false)
    (t : Table key) : (t.insert r).rows.filter p = t.rows.filter p := by
  cases hf : t.find? (key r) with
  | some s => rw [Table.insert_of_present hf]
  | none => simp [Table.insert_of_absent hf, List.filter_append, hp]

lemma principalsUnder_insert {p : Principal} (hn : n ≠ .principalBrowser p.tenantId p.siteId p.browserIdentity)
    (t : Table Principal.principalId) : principalsUnder (t.insert p) n = principalsUnder t n :=
  filter_insert (by simpa using Ne.symm hn) t

lemma sessionsUnder_insert {s : BrowserSession} (hn : n ≠ .sessionPrincipal s.principalId)
    (t : Table BrowserSession.sessionId) : sessionsUnder (t.insert s) n = sessionsUnder t n := by
  rw [sessionsUnder, filter_insert (by simpa using Ne.symm hn), sessionsUnder]

lemma sessionsUnder_update {q : BrowserSession → Bool} {expiresAt : Timestamp}
    (t : Table BrowserSession.sessionId) :
    sessionsUnder (t.update q (renewed expiresAt) (renewed_sessionId expiresAt)) n = sessionsUnder t n := by
  have hone : ∀ s, (if q s then renewed expiresAt s else s).principalId = s.principalId := by
    intro s
    split <;> rfl
  rw [sessionsUnder, Table.update_rows, List.filter_map, List.map_map]
  simp only [Function.comp_def, hone, visitor_renewed]
  rfl

lemma bootstrapsUnder_insert {r : SessionBootstrapIdempotency} (hn : n ≠ .advisory (keyHash platform r.key))
    (t : Table SessionBootstrapIdempotency.key) :
    bootstrapsUnder platform (t.insert r) n = bootstrapsUnder platform t n :=
  filter_insert (by simpa using Ne.symm hn) t

end Locks

variable (platform : Platform) (issuer : Issuer) (directory : Directory)

def body (v : Visit) : Query SessionBootstrapResponse :=
  bootstrapAnonymous platform issuer directory v.request v.context v.ids v.now v.currentTimestamp

def visitKey (site : Site) (v : Visit) : BootstrapKey := ⟨site.siteId, v.context.idempotencyKey⟩

def visitLock (site : Site) (v : Visit) :
    Lock LockName := ⟨.advisory (keyHash platform (visitKey site v)), .update⟩

def newBootstrap (site : Site) (v : Visit) (browserIdentity : Id) : SessionBootstrapIdempotency :=
  ⟨visitKey site v, requestHash platform v.request, browserIdentity, v.currentTimestamp⟩

def resume (site : Site) (v : Visit) : Option SessionBootstrapIdempotency → Query (Id × Id × Id)
  | none => do
      let browserIdentity := v.request.browserIdentity.getD v.ids.browserIdentity
      let principal ← findPrincipal site browserIdentity v.ids.principalId v.currentTimestamp
      let session ← findSession site principal.principalId v.ids.sessionId
        (v.now + milliseconds (issuer.ttlSeconds * 1000))
      sessionBootstrapIdempotency.insertInto (newBootstrap platform site v browserIdentity)
      return (principal.principalId, session.sessionId, browserIdentity)
  | some previous =>
      if previous.requestHash ≠ requestHash platform v.request then .throw idempotencyKeyReused
      else do
        let principal ← findPrincipal site previous.browserIdentity v.ids.principalId v.currentTimestamp
        let session ← findSession site principal.principalId v.ids.sessionId
          (v.now + milliseconds (issuer.ttlSeconds * 1000))
        return (principal.principalId, session.sessionId, previous.browserIdentity)

lemma identify_eq (site : Site) (v : Visit) :
    identify platform issuer site v.request v.context.idempotencyKey v.ids v.now v.currentTimestamp =
      Program.lock (fun _ => [visitLock platform site v]) >>= fun _ =>
        sessionBootstrapIdempotency.selectFirst (fun r => decide (r.key = visitKey site v)) >>= fun previous =>
          resume platform issuer site v previous := by
  unfold identify
  refine bind_congr fun _ => bind_congr fun previous => ?_
  cases previous with
  | none => rfl
  | some r =>
    simp only [resume, Option.any_some, decide_eq_true_eq]
    split <;> rfl

section Guarded

variable {platform} {held : List (Lock LockName)}

lemma guarded_findPrincipal (site : Site) (browserIdentity principalId : Id) (time : Timestamp) :
    (findPrincipal site browserIdentity principalId time).Guarded (visitCell platform) held := by
  unfold findPrincipal
  refine Program.Guarded.bind (Relation.guarded_selectFirst _ _) fun found => ?_
  cases found with
  | some principal => trivial
  | none =>
    refine Program.Guarded.bind ?_ fun _ => Relation.guarded_selectFirstOrThrow _ _
    refine shields_principals.insertUnless fun n u hn => principalsUnder_insert ?_ u
    exact (hn ⟨.principalBrowser site.tenantId site.siteId browserIdentity, .update⟩
      (by simp [Relation.insertLocks, principals]) (by simp [Lock.exclusive])).symm

lemma single_findPrincipal (site : Site) (browserIdentity principalId : Id) (time : Timestamp) :
    (findPrincipal site browserIdentity principalId time).Single := by
  unfold findPrincipal
  refine (Relation.single_selectFirst _ _).bind fun found => ?_
  cases found with
  | some principal => trivial
  | none => exact (Relation.single_insertUnless _ _).bind fun _ => Relation.single_selectFirstOrThrow _ _

lemma guarded_findSession (site : Site) (principalId sessionId : Id) (expiresAt : Timestamp) :
    (findSession site principalId sessionId expiresAt).Guarded (visitCell platform) held := by
  unfold findSession
  refine Program.Guarded.bind (Relation.guarded_selectFirst _ _) fun found => ?_
  cases found with
  | some session =>
    exact Program.Guarded.bind (shields_sessions.updateTable fun _ _ _ _ => sessionsUnder_update _)
      fun _ => trivial
  | none =>
    refine Program.Guarded.bind ?_ fun _ => Relation.guarded_selectFirstOrThrow _ _
    refine shields_sessions.upsert (fun n u hn => sessionsUnder_insert ?_ u) fun _ _ _ _ => sessionsUnder_update _
    exact (hn ⟨.sessionPrincipal principalId, .update⟩ (by simp [Relation.insertLocks, browserSessions])
      (by simp [Lock.exclusive])).symm

lemma single_findSession (site : Site) (principalId sessionId : Id) (expiresAt : Timestamp) :
    (findSession site principalId sessionId expiresAt).Single := by
  unfold findSession
  refine (Relation.single_selectFirst _ _).bind fun found => ?_
  cases found with
  | some session => exact (Relation.single_updateTable _ _ _).bind fun _ => trivial
  | none => exact (Relation.single_upsert _ _ _ _).bind fun _ => Relation.single_selectFirstOrThrow _ _

lemma guarded_resume (site : Site) (v : Visit) (previous : Option SessionBootstrapIdempotency)
    (hl : visitLock platform site v ∈ held) :
    (resume platform issuer site v previous).Guarded (visitCell platform) held := by
  cases previous with
  | none =>
    refine Program.Guarded.bind_held (guarded_findPrincipal _ _ _ _) (single_findPrincipal _ _ _ _)
      fun principal => ?_
    refine Program.Guarded.bind_held (guarded_findSession _ _ _ _) (single_findSession _ _ _ _) fun session => ?_
    refine Program.Guarded.bind ?_ fun _ => trivial
    refine shields_bootstraps.insertInto fun n u hn => bootstrapsUnder_insert ?_ u
    exact (hn _ (List.mem_append_right _ hl) (by simp [visitLock, Lock.exclusive])).symm
  | some r =>
    simp only [resume]
    split
    · trivial
    · refine Program.Guarded.bind (guarded_findPrincipal _ _ _ _) fun principal => ?_
      exact Program.Guarded.bind (guarded_findSession _ _ _ _) fun session => trivial

lemma guarded_identify (site : Site) (v : Visit) :
    (identify platform issuer site v.request v.context.idempotencyKey v.ids v.now v.currentTimestamp).Guarded
      (visitCell platform) [] := by
  rw [identify_eq]
  refine guarded_lock_bind fun db => ?_
  refine Program.Guarded.bind_held (Relation.guarded_selectFirst _ _) (Relation.single_selectFirst _ _)
    fun previous => ?_
  exact guarded_resume issuer site v previous (List.mem_singleton_self _)

lemma guarded_resolveAgentRef (site : Site) (widgetKey agentAlias : Option Id) :
    (resolveAgentRef directory site widgetKey agentAlias).Guarded (visitCell platform) held := by
  unfold resolveAgentRef
  split
  · split <;> trivial
  · split
    · trivial
    · split <;> trivial

lemma guarded_body (v : Visit) : (body platform issuer directory v).Guarded (visitCell platform) [] := by
  unfold body bootstrapAnonymous
  split
  · trivial
  · split
    · trivial
    · dsimp only
      split
      · trivial
      refine (guarded_resolveAgentRef _ _ _ _).bind fun _ => ?_
      exact (guarded_identify issuer _ v).transaction.bind fun _ => trivial

end Guarded

section Admission

def immediate {α : Type} : Query α → Option α
  | .pure a => some a
  | _ => none

def admitted (v : Visit) : Option (Site × Id) := do
  let site ← directory.sites.find? (fun s => decide (s.siteKey = v.request.siteKey))
  let origin ← (issuer.normalizeOrigin v.context.origin).bind present
  if site.allowedOrigins.all fun candidate => decide (issuer.normalizeOrigin candidate ≠ some origin) then none
  else (immediate (resolveAgentRef directory site v.request.widgetKey v.request.agentAlias)).map fun agentRef =>
    (site, agentRef)

def respond (site : Site) (agentRef : Id) (v : Visit) (identity : Id × Id × Id) : SessionBootstrapResponse where
  accessToken := issuer.sign (issue issuer site.tenantId site.siteId agentRef identity.1 identity.2.1 v.now)
  expiresAt := (issue issuer site.tenantId site.siteId agentRef identity.1 identity.2.1 v.now).expiresAt
  tenantId := site.tenantId
  siteId := site.siteId
  agentRef := agentRef
  principalId := identity.1
  sessionId := identity.2.1
  browserIdentity := identity.2.2

variable {platform issuer directory} {site : Site} {agentRef : Id} {v : Visit}

lemma resolveAgentRef_cases (directory : Directory) (site : Site) (widgetKey agentAlias : Option Id) :
    (∃ agentRef, resolveAgentRef directory site widgetKey agentAlias = .pure agentRef) ∨
      ∃ e, resolveAgentRef directory site widgetKey agentAlias = .throw e := by
  unfold resolveAgentRef
  split
  · split
    · exact Or.inr ⟨_, rfl⟩
    · exact Or.inl ⟨_, rfl⟩
  · split
    · exact Or.inr ⟨_, rfl⟩
    · split
      · exact Or.inr ⟨_, rfl⟩
      · exact Or.inl ⟨_, rfl⟩

lemma body_cases (platform : Platform) (issuer : Issuer) (directory : Directory) (v : Visit) :
    (∃ site agentRef, admitted issuer directory v = some (site, agentRef) ∧ body platform issuer directory v =
      (identify platform issuer site v.request v.context.idempotencyKey v.ids v.now
        v.currentTimestamp).transaction >>=
        fun identity => pure (respond issuer site agentRef v identity)) ∨
    admitted issuer directory v = none ∧ ∃ e, body platform issuer directory v = .throw e := by
  unfold body bootstrapAnonymous admitted
  cases hsite : directory.sites.find? (fun s => decide (s.siteKey = v.request.siteKey)) with
  | none => exact Or.inr ⟨rfl, _, rfl⟩
  | some site =>
    cases horigin : (issuer.normalizeOrigin v.context.origin).bind present with
    | none => exact Or.inr ⟨by simp, _, rfl⟩
    | some origin =>
      by_cases hall : site.allowedOrigins.all
          (fun candidate => decide (issuer.normalizeOrigin candidate ≠ some origin)) = true
      · exact Or.inr ⟨by simp only [Option.bind_eq_bind, Option.bind_some, hall, if_true], _,
          by simp only [hall, if_true]; rfl⟩
      · rcases resolveAgentRef_cases directory site v.request.widgetKey v.request.agentAlias with
          ⟨agentRef, hr⟩ | ⟨e, hr⟩
        · refine Or.inl ⟨site, agentRef, ?_, ?_⟩
          · simp only [Option.bind_eq_bind, Option.bind_some, hall, hr, immediate, Option.map_some]
            rfl
          · simp only [hall, hr]
            rfl
        · refine Or.inr ⟨?_, e, ?_⟩
          · simp only [Option.bind_eq_bind, Option.bind_some, hall, hr, immediate, Option.map_none]
            rfl
          · simp only [hall, hr]
            rfl

end Admission

section Discipline

def Conflicting (platform : Platform) (origin : Tables) (site : Site) (v : Visit) (h : List VisitRecord) : Prop :=
  ∃ r : SessionBootstrapIdempotency, (r ∈ origin.sessionBootstrapIdempotency ∨
    ∃ i c before after, .committed i c before after ∈ h ∧ r ∈ after.sessionBootstrapIdempotency) ∧
      r.key = visitKey site v ∧ r.requestHash ≠ requestHash platform v.request

structure Identified (platform : Platform) (site : Site) (v : Visit) (identity : Id × Id × Id) (db : Tables) :
    Prop where
  principal : ∃ p ∈ db.principals, p.principalId = identity.1 ∧ ofBrowser site identity.2.2 p = true
  session : ∃ s ∈ db.browserSessions, s.sessionId = identity.2.1 ∧ ofVisitor site identity.1 s = true
  bootstrap : ∃ r ∈ db.sessionBootstrapIdempotency, r.key = visitKey site v ∧
    r.requestHash = requestHash platform v.request ∧ r.browserIdentity = identity.2.2

structure Finished (platform : Platform) (issuer : Issuer) (origin : Tables) (site : Site) (agentRef : Id)
    (h : List VisitRecord) (id : ℕ) (v : Visit) (result : Except ServerError SessionBootstrapResponse) : Prop where
  served : ∀ response, result = .ok response → ∃ identity before after,
    response = respond issuer site agentRef v identity ∧ .committed id v before after ∈ h ∧
      Identified platform site v identity after
  refused : Conflicting platform origin site v h → result = .error idempotencyKeyReused
  silent : ∀ e, result = .error e → ∀ r ∈ h, r.id ≠ id

def discipline (platform : Platform) (issuer : Issuer) (directory : Directory) (origin : Tables) :
    Discipline Tables LockName ServerError SessionBootstrapResponse Visit VisitCell where
  inv := Unique
  origin db := db = origin
  good h r := match r with
    | .committed _ _ before after => Grows before after
    | .finished id v result => (admitted issuer directory v = none → ∃ e, result = .error e) ∧
        ∀ site agentRef, admitted issuer directory v = some (site, agentRef) →
          Finished platform issuer origin site agentRef h id v result
  cell := visitCell platform

variable {platform : Platform} {issuer : Issuer} {directory : Directory} {origin : Tables}

lemma grown_since_origin {s : VisitStore} (h : (discipline platform issuer directory origin).Holds s) :
    Grows origin s.1 := by
  obtain ⟨start, rfl, hleads⟩ := h.leads
  refine hleads.preserves (I := Grows start) (grows_refl _) fun i c b a hm hb => ?_
  obtain ⟨_, _, _, hg⟩ := h.good_of_mem hm
  exact hb.trans hg

lemma grown_since {s : VisitStore} (h : (discipline platform issuer directory origin).Holds s) {i : ℕ} {c : Visit}
    {before after : Tables} (hm : .committed i c before after ∈ s.2) : Grows after s.1 := by
  obtain ⟨start, -, hleads⟩ := h.leads
  obtain ⟨h₁, h₂, he⟩ := List.append_of_mem hm
  rw [he] at hleads
  obtain ⟨middle, -, hl⟩ := hleads.split
  refine hl.2.preserves (I := Grows after) (grows_refl _) fun j d b a hmem hb => ?_
  obtain ⟨_, _, _, hg⟩ := h.good_of_mem (he ▸ List.mem_append_right _ (List.mem_cons_of_mem _ hmem))
  exact hb.trans hg

lemma mem_of_conflicting {s : VisitStore} (h : (discipline platform issuer directory origin).Holds s) {site : Site}
    {v : Visit} (hc : Conflicting platform origin site v s.2) : ∃ r ∈ s.1.sessionBootstrapIdempotency,
      r.key = visitKey site v ∧ r.requestHash ≠ requestHash platform v.request := by
  obtain ⟨r, hr | ⟨i, c, before, after, hm, hr⟩, hk, hne⟩ := hc
  · exact ⟨r, (grown_since_origin h).bootstraps r hr, hk, hne⟩
  · exact ⟨r, (grown_since h hm).bootstraps r hr, hk, hne⟩

section Stability

variable {id : ℕ} {held : List (Lock LockName)}

lemma stable_of_grows {X : Tables → Prop} (hX : ∀ a b, Grows a b → X a → X b) :
    (discipline platform issuer directory origin).Stable id held fun s => X s.1 := by
  intro s s' hi hs
  obtain ⟨r, hr, -, -, hl⟩ := hi.record
  cases r with
  | finished i c result =>
    have hsame : s.1 = s'.1 := hl
    change X s'.1
    exact hsame ▸ hs
  | committed i c before after =>
    obtain ⟨rfl, rfl⟩ := hl
    obtain ⟨_, _, _, hg⟩ := hi.after.good_of_mem (hr ▸ List.mem_append_right _ (List.mem_singleton_self _))
    exact hX _ _ hg hs

lemma stable_silent : (discipline platform issuer directory origin).Stable id held fun s => ∀ r ∈ s.2,
    r.id ≠ id := by
  intro s s' hi hs r hr
  obtain ⟨q, hq, hne, -⟩ := hi.record
  rw [hq, List.mem_append, List.mem_singleton] at hr
  rcases hr with hr | rfl
  · exact hs r hr
  · exact hne

lemma stable_no_principal {p : Principal}
    (hl : (⟨.principalBrowser p.tenantId p.siteId p.browserIdentity, .update⟩ : Lock LockName) ∈ held) :
    (discipline platform issuer directory origin).Stable id held fun s => ∀ r ∈ s.1.principals,
      ¬ (r.tenantId = p.tenantId ∧ r.siteId = p.siteId ∧ r.browserIdentity = p.browserIdentity) := by
  intro s s' hi hs r hr hp
  have hcell := congrArg VisitCell.principals (hi.cell _ hl (by simp [Lock.exclusive]))
  have hm : r ∈ principalsUnder s'.1.principals (.principalBrowser p.tenantId p.siteId p.browserIdentity) :=
    List.mem_filter.mpr ⟨hr, by simp [hp]⟩
  change principalsUnder s'.1.principals _ = principalsUnder s.1.principals _ at hcell
  rw [hcell] at hm
  exact hs r (List.mem_filter.mp hm).1 hp

lemma stable_no_session {t : BrowserSession}
    (hl : (⟨.sessionPrincipal t.principalId, .update⟩ : Lock LockName) ∈ held) :
    (discipline platform issuer directory origin).Stable id held fun s => ∀ r ∈ s.1.browserSessions,
      ¬ (r.tenantId = t.tenantId ∧ r.siteId = t.siteId ∧ r.principalId = t.principalId) := by
  intro s s' hi hs r hr hp
  have hcell := congrArg VisitCell.sessions (hi.cell _ hl (by simp [Lock.exclusive]))
  change sessionsUnder s'.1.browserSessions _ = sessionsUnder s.1.browserSessions _ at hcell
  have hm : visitor r ∈ sessionsUnder s'.1.browserSessions (.sessionPrincipal t.principalId) :=
    List.mem_map.mpr ⟨r, List.mem_filter.mpr ⟨hr, by simp [hp]⟩, rfl⟩
  rw [hcell] at hm
  obtain ⟨r₀, hr₀, he⟩ := List.mem_map.mp hm
  simp only [visitor, Prod.mk.injEq] at he
  exact hs r₀ (List.mem_filter.mp hr₀).1 ⟨he.2.1.trans hp.1, he.2.2.1.trans hp.2.1, he.2.2.2.trans hp.2.2⟩

lemma stable_no_bootstrap {site : Site} {v : Visit} (hl : visitLock platform site v ∈ held) :
    (discipline platform issuer directory origin).Stable id held fun s =>
      s.1.sessionBootstrapIdempotency.find? (visitKey site v) = none := by
  intro s s' hi hs
  have hcell := congrArg VisitCell.bootstraps (hi.cell _ hl (by simp [visitLock, Lock.exclusive]))
  change bootstrapsUnder platform s'.1.sessionBootstrapIdempotency _ =
    bootstrapsUnder platform s.1.sessionBootstrapIdempotency _ at hcell
  refine Table.find?_eq_none.mpr fun r hr hk => ?_
  have hm : r ∈ bootstrapsUnder platform s'.1.sessionBootstrapIdempotency (visitLock platform site v).target :=
    List.mem_filter.mpr ⟨hr, by simp [visitLock, hk]⟩
  rw [hcell] at hm
  exact Table.find?_eq_none.mp hs r (List.mem_filter.mp hm).1 hk

lemma stable_new_principal {k : Id} (hl : (⟨.principal k, .update⟩ : Lock LockName) ∈ held) :
    (discipline platform issuer directory origin).Stable id held fun s => s.1.principals.find? k = none :=
  Discipline.stable_cell hl (by simp [Lock.exclusive]) fun c : VisitCell => c.principal = none

lemma stable_new_session {k : Id} (hl : (⟨.browserSession k, .update⟩ : Lock LockName) ∈ held) :
    (discipline platform issuer directory origin).Stable id held fun s => s.1.browserSessions.find? k = none :=
  Discipline.stable_cell hl (by simp [Lock.exclusive]) fun c : VisitCell => c.session = none

end Stability

section Stages

variable {id : ℕ} {v : Visit} {held : List (Lock LockName)} {C : VisitStore → Prop} {site : Site}
  {browserIdentity : Id}

structure Located (site : Site) (browserIdentity : Id) (p : Principal) (X : Tables → Prop)
    (pending : Tables → Tables) : Prop where
  browser : ofBrowser site browserIdentity p = true
  unique : ∀ base, X base → Unique base → Unique (pending base)
  grows : ∀ base, Grows base (pending base)
  principal : ∀ base, X base → p ∈ (pending base).principals
  sessions : ∀ base, (pending base).browserSessions = base.browserSessions
  bootstraps : ∀ base, (pending base).sessionBootstrapIdempotency = base.sessionBootstrapIdempotency

def NoPrincipal (p : Principal) (db : Tables) : Prop := db.principals.find? p.principalId = none ∧
  ∀ r ∈ db.principals, ¬ (r.tenantId = p.tenantId ∧ r.siteId = p.siteId ∧ r.browserIdentity = p.browserIdentity)

lemma stable_noPrincipal (p : Principal) : (discipline platform issuer directory origin).Stable id
    (principals.insertLocks p ++ held) fun s => NoPrincipal p s.1 :=
  (stable_new_principal (List.mem_append_left _ (List.mem_cons_self ..))).and
    (stable_no_principal (List.mem_append_left _ (List.mem_cons_of_mem _ (List.mem_cons_self ..))))

lemma located_found {p : Principal} (hp : ofBrowser site browserIdentity p = true) :
    Located site browserIdentity p (fun db => p ∈ db.principals) (fun base => base) :=
  ⟨hp, fun _ _ h => h, fun _ => grows_refl _, fun _ h => h, fun _ => rfl, fun _ => rfl⟩

lemma located_inserted {p : Principal} (hp : ofBrowser site browserIdentity p = true) :
    Located site browserIdentity p (NoPrincipal p) (insertPrincipal p) :=
  ⟨hp, fun _ hX h => unique_insertPrincipal h hX.2, grows_insertPrincipal p,
    fun _ hX => (Table.mem_insert_of_absent hX.1).mpr (Or.inr rfl), fun _ => rfl, fun _ => rfl⟩

lemma ofBrowser_iff {p : Principal} : ofBrowser site browserIdentity p = true ↔
    p.tenantId = site.tenantId ∧ p.siteId = site.siteId ∧ p.browserIdentity = browserIdentity := by
  simp [ofBrowser, and_assoc]

lemma ofVisitor_iff {principalId : Id} {s : BrowserSession} : ofVisitor site principalId s = true ↔
    s.tenantId = site.tenantId ∧ s.siteId = site.siteId ∧ s.principalId = principalId := by
  simp [ofVisitor, and_assoc]

lemma safe_findPrincipal {principalId : Id} {time : Timestamp} {k : Principal → Query SessionBootstrapResponse}
    (hst : (discipline platform issuer directory origin).Stable id held C)
    (habort : ∀ e, (discipline platform issuer directory origin).Abortable id v C e)
    (h : ∀ p X pending held', held ⊆ held' →
      (discipline platform issuer directory origin).Stable id held' (fun s => X s.1) →
      Located site browserIdentity p X pending →
      (discipline platform issuer directory origin).Safe id v (k p) pending held' fun s => C s ∧ X s.1) :
    (discipline platform issuer directory origin).Safe id v
      (findPrincipal site browserIdentity principalId time >>= k) (fun base => base) held C := by
  have hfound : ∀ (s : VisitStore) (p : Principal), C s →
    p ∈ principals.matching (ofBrowser site browserIdentity) s.1 →
      ∃ P', P' s ∧ (discipline platform issuer directory origin).Safe id v (k p) (fun base => base) held P' := by
    intro s p hC hp
    obtain ⟨hm, hp⟩ := List.mem_filter.mp hp
    exact ⟨_, ⟨hC, hm⟩, h p _ _ held (List.Subset.refl _) (stable_of_grows fun a b hg hX => hg.principals p hX)
      (located_found hp)⟩
  rw [findPrincipal, bind_assoc]
  refine Discipline.safe_selectFirst hst fun s hs hC => ?_
  cases hf : (principals.matching (ofBrowser site browserIdentity) s.1).head? with
  | some p => exact hfound s p hC (List.mem_of_mem_head? hf)
  | none =>
    refine ⟨C, hC, ?_⟩
    simp only [bind_assoc]
    refine Discipline.safe_insertUnless hst (fun _ name _ => habort _) (fun s hs hC _ => ⟨C, hC, ?skip⟩)
      fun s hs hC hnone hok => ?_
    case skip =>
      exact Discipline.safe_selectFirstOrThrow hst (habort _) fun s p hs hC hp => hfound s p hC hp
    · have hnew : NoPrincipal ⟨principalId, site.tenantId, site.siteId, browserIdentity, time⟩ s.1 := by
        refine ⟨(principals.broken_eq_none.mp hok).2.1, fun r hr hp => ?_⟩
        have hmem : r ∈ principals.matching (ofBrowser site browserIdentity) s.1 :=
          List.mem_filter.mpr ⟨hr, ofBrowser_iff.mpr hp⟩
        rw [hnone] at hmem
        cases hmem
      have hstable := (hst.mono (List.subset_append_right (principals.insertLocks _) _)).and
        (stable_noPrincipal ⟨principalId, site.tenantId, site.siteId, browserIdentity, time⟩)
      refine ⟨fun s => C s ∧ NoPrincipal ⟨principalId, site.tenantId, site.siteId, browserIdentity, time⟩ s.1,
        ⟨hC, hnew⟩, ?_⟩
      refine Discipline.safe_selectFirstOrThrow hstable (fun s hs hP => habort _ s hs hP.1) fun s p hs hP hp => ?_
      obtain ⟨hm, hp⟩ := List.mem_filter.mp hp
      obtain rfl : p = ⟨principalId, site.tenantId, site.siteId, browserIdentity, time⟩ := by
        rcases Table.mem_of_mem_insert hm with hm | hm
        · exact absurd (ofBrowser_iff.mp hp) (hP.2.2 p hm)
        · exact hm
      exact ⟨_, hP, h _ _ _ _ (List.subset_append_right _ _) (stable_noPrincipal _) (located_inserted hp)⟩

structure Visited (site : Site) (identity : Id × Id × Id) (X : Tables → Prop)
    (pending : Tables → Tables) : Prop where
  unique : ∀ base, X base → Unique base → Unique (pending base)
  grows : ∀ base, Grows base (pending base)
  principal : ∀ base, X base →
    ∃ p ∈ (pending base).principals, p.principalId = identity.1 ∧ ofBrowser site identity.2.2 p = true
  session : ∀ base, X base →
    ∃ s ∈ (pending base).browserSessions, s.sessionId = identity.2.1 ∧ ofVisitor site identity.1 s = true
  bootstraps : ∀ base, (pending base).sessionBootstrapIdempotency = base.sessionBootstrapIdempotency

def HasSession (t : BrowserSession) (db : Tables) : Prop := ∃ s ∈ db.browserSessions, visitor s = visitor t

def NoSession (t : BrowserSession) (db : Tables) : Prop := db.browserSessions.find? t.sessionId = none ∧
  ∀ r ∈ db.browserSessions, ¬ (r.tenantId = t.tenantId ∧ r.siteId = t.siteId ∧ r.principalId = t.principalId)

lemma stable_hasSession (t : BrowserSession) :
    (discipline platform issuer directory origin).Stable id held fun s => HasSession t s.1 := by
  refine stable_of_grows fun a b hg hX => ?_
  obtain ⟨s, hs, he⟩ := hX
  obtain ⟨u, hu, he'⟩ := hg.sessions s hs
  exact ⟨u, hu, he'.trans he⟩

lemma stable_noSession (t : BrowserSession) : (discipline platform issuer directory origin).Stable id
    (browserSessions.insertLocks t ++ held) fun s => NoSession t s.1 :=
  (stable_new_session (List.mem_append_left _ (List.mem_cons_self ..))).and
    (stable_no_session (List.mem_append_left _ (List.mem_cons_of_mem _ (List.mem_cons_self ..))))

variable {p : Principal} {X : Tables → Prop} {pending : Tables → Tables}

lemma visited_renewed {t : BrowserSession} {q : BrowserSession → Bool} {expiresAt : Timestamp}
    (h : Located site browserIdentity p X pending) (ht : ofVisitor site p.principalId t = true) :
    Visited site (p.principalId, t.sessionId, browserIdentity) (fun db => X db ∧ HasSession t db)
      fun base => renew q expiresAt (pending base) := by
  refine ⟨fun base hX hu => unique_renew (h.unique base hX.1 hu), fun base => (h.grows base).trans (grows_renew _),
    fun base hX => ⟨p, h.principal base hX.1, rfl, h.browser⟩, fun base hX => ?_, h.bootstraps⟩
  obtain ⟨s, hs, he⟩ := hX.2
  rw [← h.sessions base] at hs
  obtain ⟨u, hu, he'⟩ : ∃ u ∈ (renew q expiresAt (pending base)).browserSessions, visitor u = visitor s :=
    exists_renewed hs
  have hsame := he'.trans he
  simp only [visitor, Prod.mk.injEq] at hsame
  rw [ofVisitor_iff] at ht
  exact ⟨u, hu, hsame.1,
    ofVisitor_iff.mpr ⟨hsame.2.1.trans ht.1, hsame.2.2.1.trans ht.2.1, hsame.2.2.2.trans ht.2.2⟩⟩

lemma visited_inserted {t : BrowserSession} (h : Located site browserIdentity p X pending)
    (ht : ofVisitor site p.principalId t = true) :
    Visited site (p.principalId, t.sessionId, browserIdentity) (fun db => X db ∧ NoSession t db)
      fun base => insertSession t (pending base) := by
  refine ⟨fun base hX hu => unique_insertSession (h.unique base hX.1 hu) ?_,
    fun base => (h.grows base).trans (grows_insertSession _ _),
    fun base hX => ⟨p, h.principal base hX.1, rfl, h.browser⟩, fun base hX => ⟨t, ?_, rfl, ht⟩, h.bootstraps⟩
  · rw [h.sessions base]
    exact hX.2.2
  · refine (Table.mem_insert_of_absent ?_).mpr (Or.inr rfl)
    rw [h.sessions base]
    exact hX.2.1

lemma safe_findSession {sessionId : Id} {expiresAt : Timestamp}
    {k : BrowserSession → Query SessionBootstrapResponse}
    (hst : (discipline platform issuer directory origin).Stable id held C)
    (habort : ∀ e, (discipline platform issuer directory origin).Abortable id v C e)
    (hX : (discipline platform issuer directory origin).Stable id held fun s => X s.1)
    (hl : Located site browserIdentity p X pending)
    (h : ∀ t X' pending' held', held ⊆ held' →
      (discipline platform issuer directory origin).Stable id held' (fun s => X' s.1) →
      Visited site (p.principalId, t.sessionId, browserIdentity) X' pending' →
      (discipline platform issuer directory origin).Safe id v (k t) pending' held' fun s => C s ∧ X' s.1) :
    (discipline platform issuer directory origin).Safe id v
      (findSession site p.principalId sessionId expiresAt >>= k) pending held fun s => C s ∧ X s.1 := by
  have habort' : ∀ (Y : VisitStore → Prop) e,
      (discipline platform issuer directory origin).Abortable id v (fun s => C s ∧ Y s) e :=
    fun Y e s hs hP => habort e s hs hP.1
  rw [findSession, bind_assoc]
  refine Discipline.safe_selectFirst (hst.and hX) fun s hs hP => ?_
  cases hf : (browserSessions.matching (ofVisitor site p.principalId) (pending s.1)).head? with
  | some t =>
    obtain ⟨hm, ht⟩ := List.mem_filter.mp (List.mem_of_mem_head? hf)
    have hm' : t ∈ s.1.browserSessions := by
      rw [← hl.sessions s.1]
      exact hm
    simp only [bind_assoc, pure_bind]
    refine ⟨fun s => C s ∧ X s.1 ∧ HasSession t s.1, ⟨hP.1, hP.2, t, hm', rfl⟩, ?_⟩
    refine Discipline.safe_updateTable (hst.and (hX.and (stable_hasSession t))) (fun _ _ _ _ _ => habort' _ _)
      fun s hs hP => ⟨fun s => C s ∧ X s.1 ∧ HasSession t s.1, hP, ?_⟩
    exact h t _ _ _ (List.subset_append_right _ _)
      ((hX.and (stable_hasSession t)).mono (List.subset_append_right _ _))
      (visited_renewed hl ht)
  | none =>
    refine ⟨fun s => C s ∧ X s.1, hP, ?_⟩
    simp only [bind_assoc]
    refine Discipline.safe_upsert (hst.and hX) (fun _ => habort' _ _)
      (fun s hs hP _ => ⟨fun s => C s ∧ X s.1, hP, ?renewed⟩) fun s hs hP hnone hok => ?_
    case renewed =>
      refine Discipline.safe_selectFirstOrThrow ((hst.and hX).mono (List.subset_append_right _ _)) (habort' _ _)
        fun s t hs hP ht => ?_
      obtain ⟨hm, ht⟩ := List.mem_filter.mp ht
      obtain ⟨t₀, hm₀, he⟩ := mem_renew.mp hm
      have hsame : visitor t = visitor t₀ := he ▸ visitor_renewed t₀
      rw [hl.sessions s.1] at hm₀
      refine ⟨fun s => C s ∧ X s.1 ∧ HasSession t s.1, ⟨hP.1, hP.2, t₀, hm₀, hsame.symm⟩, ?_⟩
      exact h t _ _ _ (List.subset_append_right _ _)
        ((hX.and (stable_hasSession _)).mono (List.subset_append_right _ _)) (visited_renewed hl ht)
    · have hnew : NoSession ⟨sessionId, site.tenantId, site.siteId, p.principalId, expiresAt⟩ s.1 := by
        rw [NoSession, ← hl.sessions s.1]
        refine ⟨(browserSessions.broken_eq_none.mp hok).2.1, fun r hr hp => ?_⟩
        have hmem : r ∈ browserSessions.matching (ofVisitor site p.principalId) (pending s.1) :=
          List.mem_filter.mpr ⟨hr, ofVisitor_iff.mpr hp⟩
        rw [hnone] at hmem
        cases hmem
      have hX' := (hX.mono (List.subset_append_right (browserSessions.insertLocks _) _)).and
        (stable_noSession ⟨sessionId, site.tenantId, site.siteId, p.principalId, expiresAt⟩)
      refine ⟨fun s => C s ∧ X s.1 ∧
        NoSession ⟨sessionId, site.tenantId, site.siteId, p.principalId, expiresAt⟩ s.1,
        ⟨hP.1, hP.2, hnew⟩, ?_⟩
      refine Discipline.safe_selectFirstOrThrow ((hst.mono (List.subset_append_right _ _)).and hX') (habort' _ _)
        fun s t hs hP ht => ?_
      obtain ⟨hm, ht⟩ := List.mem_filter.mp ht
      obtain rfl : t = ⟨sessionId, site.tenantId, site.siteId, p.principalId, expiresAt⟩ := by
        rcases Table.mem_of_mem_insert hm with hm | hm
        · change t ∈ (pending s.1).browserSessions at hm
          rw [hl.sessions s.1] at hm
          exact absurd (ofVisitor_iff.mp ht) (hP.2.2.2 t hm)
        · exact hm
      exact ⟨_, hP, h _ _ _ _ (List.subset_append_right _ _) hX' (visited_inserted hl ht)⟩

def Calm (site : Site) (v : Visit) (id : ℕ) (previous : Option SessionBootstrapIdempotency)
    (s : VisitStore) : Prop :=
  (∀ r ∈ s.2, r.id ≠ id) ∧ match previous with
    | none => s.1.sessionBootstrapIdempotency.find? (visitKey site v) = none
    | some r => r ∈ s.1.sessionBootstrapIdempotency

def Repeats (platform : Platform) (site : Site) (v : Visit) (r : SessionBootstrapIdempotency) : Prop :=
  r.key = visitKey site v ∧ r.requestHash = requestHash platform v.request

variable {previous : Option SessionBootstrapIdempotency} {agentRef : Id} {identity : Id × Id × Id}

lemma stable_calm (hl : visitLock platform site v ∈ held) :
    (discipline platform issuer directory origin).Stable id held (Calm site v id previous) := by
  cases previous with
  | none => exact stable_silent.and (stable_no_bootstrap hl)
  | some r => exact stable_silent.and (stable_of_grows fun a b hg hX => hg.bootstraps r hX)

lemma not_conflicting {s : VisitStore} (hs : (discipline platform issuer directory origin).Holds s)
    {r : SessionBootstrapIdempotency} (hr : r ∈ s.1.sessionBootstrapIdempotency)
    (hrep : Repeats platform site v r) :
    ¬ Conflicting platform origin site v s.2 := by
  intro hc
  obtain ⟨r', hr', hk, hne⟩ := mem_of_conflicting hs hc
  exact hne (Table.key_injective hr' hr (hk.trans hrep.1.symm) ▸ hrep.2)

lemma abortable_calm (hrep : ∀ r, previous = some r → Repeats platform site v r)
    (hadmitted : admitted issuer directory v = some (site, agentRef)) (e : ServerError) :
    (discipline platform issuer directory origin).Abortable id v (Calm site v id previous) e := by
  intro s hs hcalm
  refine ⟨fun _ => ⟨e, rfl⟩, fun site' agentRef' h => ?_⟩
  obtain ⟨rfl, rfl⟩ := Prod.mk.inj (Option.some.inj (hadmitted.symm.trans h))
  refine ⟨fun _ he => (nomatch he), fun hc => ?_, fun _ _ => hcalm.1⟩
  cases previous with
  | none =>
    obtain ⟨r, hr, hk, -⟩ := mem_of_conflicting hs hc
    exact absurd hk (Table.find?_eq_none.mp hcalm.2 r hr)
  | some r => exact absurd hc (not_conflicting hs hcalm.2 (hrep r rfl))

lemma safe_answer (hadmitted : admitted issuer directory v = some (site, agentRef))
    (hst : (discipline platform issuer directory origin).Stable id held C)
    (hunique : ∀ s : VisitStore, C s → Unique s.1 → Unique (pending s.1))
    (hgrows : ∀ base, Grows base (pending base))
    (hidentified : ∀ s : VisitStore, C s → Identified platform site v identity (pending s.1)) :
    (discipline platform issuer directory origin).Safe id v
      (Program.commitNow >>= fun _ => pure (respond issuer site agentRef v identity)) pending held C := by
  refine Discipline.safe_commitNow hst fun s hs hC => ⟨hunique s hC hs.inv, hgrows s.1,
    fun s => ∃ before after, .committed id v before after ∈ s.2 ∧ Identified platform site v identity after,
    ⟨_, _, List.mem_append_right _ (List.mem_singleton_self _), hidentified s hC⟩, ?_⟩
  refine ⟨fun s s' hi hs => ?_, fun s hs hP => ⟨hs.inv, grows_refl _, fun hn => ?_, fun site' agentRef' h => ?_⟩⟩
  · obtain ⟨before, after, hm, hid⟩ := hs
    exact ⟨before, after, Discipline.stable_mem s s' hi hm, hid⟩
  · rw [hadmitted] at hn
    cases hn
  · obtain ⟨rfl, rfl⟩ := Prod.mk.inj (Option.some.inj (hadmitted.symm.trans h))
    obtain ⟨before, after, hm, hid⟩ := hP
    refine ⟨fun response he => ?_, fun hc => ?_, fun e he => (nomatch he)⟩
    · cases he
      exact ⟨identity, before, after, rfl, List.mem_append_left _ hm, hid⟩
    · have hs' := hs.snoc (Leads.committed id v s.1 s.1) hs.inv (grows_refl s.1)
      obtain ⟨r, hr, hk, hh, -⟩ := hid.bootstrap
      exact absurd hc (not_conflicting hs' ((grown_since hs hm).bootstraps r hr) ⟨hk, hh⟩)

lemma Visited.identified {X : Tables → Prop} (h : Visited site identity X pending) {base : Tables} (hX : X base)
    {r : SessionBootstrapIdempotency} (hr : r ∈ base.sessionBootstrapIdempotency)
    (hrep : Repeats platform site v r)
    (hb : r.browserIdentity = identity.2.2) : Identified platform site v identity (pending base) :=
  ⟨h.principal base hX, h.session base hX, r, h.bootstraps base ▸ hr, hrep.1, hrep.2, hb⟩

lemma safe_resume (hadmitted : admitted issuer directory v = some (site, agentRef))
    (hl : visitLock platform site v ∈ held) (hkey : ∀ r, previous = some r → r.key = visitKey site v) :
    (discipline platform issuer directory origin).Safe id v
      (resume platform issuer site v previous >>= fun identity => Program.commitNow >>= fun _ =>
        pure (respond issuer site agentRef v identity)) (fun base => base) held (Calm site v id previous) := by
  cases previous with
  | none =>
    have habort : ∀ e, (discipline platform issuer directory origin).Abortable id v (Calm site v id none) e :=
      abortable_calm (fun r hr => by cases hr) hadmitted
    simp only [resume, bind_assoc, pure_bind]
    refine safe_findPrincipal (stable_calm hl) habort fun p X pending held₁ hs₁ hX hp => ?_
    refine safe_findSession (stable_calm (hs₁ hl)) habort hX hp fun t X' pending' held₂ hs₂ hX' hv => ?_
    refine Discipline.safe_insertInto ((stable_calm (hs₂ (hs₁ hl))).and hX')
      (fun _ _ _ s hs hP => habort _ s hs hP.1) fun s hs hP _ =>
        ⟨fun s => Calm site v id none s ∧ X' s.1, hP, ?_⟩
    refine safe_answer hadmitted (((stable_calm (hs₂ (hs₁ hl))).and hX').mono (List.subset_append_right _ _))
      (fun s hP hu => ?_) (fun base => (hv.grows base).trans (grows_insertBootstrap _ _)) fun s hP => ?_
    · have hunique := hv.unique s.1 hP.2 hu
      exact ⟨hunique.principals, hunique.sessions⟩
    · refine ⟨hv.principal s.1 hP.2, hv.session s.1 hP.2, newBootstrap platform site v _, ?_, rfl, rfl, rfl⟩
      refine (Table.mem_insert_of_absent ?_).mpr (Or.inr rfl)
      change (pending' s.1).sessionBootstrapIdempotency.find? (visitKey site v) = none
      rw [hv.bootstraps s.1]
      exact hP.1.2
  | some r =>
    simp only [resume]
    split
    · rename_i hne
      refine Discipline.safe_throw (stable_calm hl) fun s hs hcalm =>
        ⟨fun _ => ⟨_, rfl⟩, fun site' agentRef' h => ?_⟩
      exact ⟨fun _ he => (nomatch he), fun _ => rfl, fun _ _ => hcalm.1⟩
    · rename_i heq
      have hrep : Repeats platform site v r := ⟨hkey r rfl, not_not.mp heq⟩
      have habort : ∀ e, (discipline platform issuer directory origin).Abortable id v
        (Calm site v id (some r)) e :=
        abortable_calm (fun r' hr => Option.some.inj hr ▸ hrep) hadmitted
      simp only [bind_assoc, pure_bind]
      refine safe_findPrincipal (stable_calm hl) habort fun p X pending held₁ hs₁ hX hp => ?_
      refine safe_findSession (stable_calm (hs₁ hl)) habort hX hp fun t X' pending' held₂ hs₂ hX' hv => ?_
      exact safe_answer hadmitted ((stable_calm (hs₂ (hs₁ hl))).and hX') (fun s hP hu => hv.unique s.1 hP.2 hu)
        hv.grows fun s hP => hv.identified hP.2 hP.1.2 hrep rfl

lemma safe_body (s : VisitStore) (hsilent : ∀ r ∈ s.2, r.id ≠ id) : ∃ P : VisitStore → Prop, P s ∧
    (discipline platform issuer directory origin).Safe id v (body platform issuer directory v) (fun base => base)
      [] P := by
  refine ⟨fun s => ∀ r ∈ s.2, r.id ≠ id, hsilent, ?_⟩
  rcases body_cases platform issuer directory v with ⟨site, agentRef, hadmitted, hbody⟩ | ⟨hnone, e, hbody⟩
  · rw [hbody, identify_eq, Program.transaction]
    simp only [bind_assoc, pure_bind]
    refine Discipline.safe_lock stable_silent fun s hs hP => ⟨fun s => ∀ r ∈ s.2, r.id ≠ id, hP, ?_⟩
    refine Discipline.safe_selectFirst stable_silent fun s hs hP =>
      ⟨_, ?_, safe_resume hadmitted (List.mem_singleton_self _) ?_⟩
    · refine ⟨hP, ?_⟩
      cases hf : (sessionBootstrapIdempotency.matching (fun r => decide (r.key = visitKey site v)) s.1).head? with
      | none =>
        refine Table.find?_eq_none.mpr fun r hr hk => ?_
        have hmem : r ∈ sessionBootstrapIdempotency.matching (fun r => decide (r.key = visitKey site v)) s.1 :=
          List.mem_filter.mpr ⟨hr, by simp [hk]⟩
        rw [List.head?_eq_none_iff.mp hf] at hmem
        cases hmem
      | some r => exact (List.mem_filter.mp (List.mem_of_mem_head? hf)).1
    · intro r hr
      simpa using (List.mem_filter.mp (List.mem_of_mem_head? hr)).2
  · rw [hbody]
    refine Discipline.safe_throw stable_silent fun s hs hP => ⟨fun _ => ⟨e, rfl⟩, fun site agentRef h => ?_⟩
    rw [hnone] at h
    cases h

end Stages

end Discipline

section Answers

variable {platform : Platform} {issuer : Issuer} {directory : Directory} {origin : Tables}

lemma sound (hdb : Unique origin) (moves : List (Move Visit)) :
    (discipline platform issuer directory origin).Sound
      ((World.initial origin : VisitWorld).exec (body platform issuer directory) moves) :=
  Discipline.sound_exec (fun v => guarded_body issuer directory v) (fun _ _ s _ hsilent => safe_body s hsilent) hdb
    rfl moves

lemma Identified.mono {site : Site} {v : Visit} {identity : Id × Id × Id} {a b : Tables}
    (h : Identified platform site v identity a) (hg : Grows a b) : Identified platform site v identity b := by
  obtain ⟨p, hp, hpi, hpb⟩ := h.principal
  obtain ⟨s, hs, hsi, hsv⟩ := h.session
  obtain ⟨r, hr, hrep⟩ := h.bootstrap
  obtain ⟨t, ht, he⟩ := hg.sessions s hs
  simp only [visitor, Prod.mk.injEq] at he
  rw [ofVisitor_iff] at hsv
  exact ⟨⟨p, hg.principals p hp, hpi, hpb⟩, ⟨t, ht, he.1.trans hsi, ofVisitor_iff.mpr ⟨he.2.1.trans hsv.1,
    he.2.2.1.trans hsv.2.1, he.2.2.2.trans hsv.2.2⟩⟩, r, hg.bootstraps r hr, hrep⟩

lemma identified_of_finished {s : VisitStore} (hs : (discipline platform issuer directory origin).Holds s) {i : ℕ}
    {v : Visit} {response : SessionBootstrapResponse} (h : .finished i v (.ok response) ∈ s.2) :
    ∃ site agentRef identity, response = respond issuer site agentRef v identity ∧
      Identified platform site v identity s.1 := by
  obtain ⟨h₁, h₂, he, hnone, hsome⟩ := hs.good_of_mem h
  cases hadmitted : admitted issuer directory v with
  | none =>
    obtain ⟨e, hbad⟩ := hnone hadmitted
    cases hbad
  | some found =>
    obtain ⟨identity, before, after, hr, hm, hid⟩ := (hsome found.1 found.2 hadmitted).served response rfl
    exact ⟨found.1, found.2, identity, hr, hid.mono (grown_since hs (he ▸ List.mem_append_left _ hm))⟩

lemma conflicting_of_finished {s : VisitStore} (hs : (discipline platform issuer directory origin).Holds s)
    {earlier later : List VisitRecord} (he : s.2 = earlier ++ later) {j : ℕ} {u v : Visit}
    {q : SessionBootstrapResponse} (hq : .finished j u (.ok q) ∈ earlier) {site : Site}
    (hsite : q.siteId = site.siteId)
    (hkey : u.context.idempotencyKey = v.context.idempotencyKey)
    (hne : requestHash platform u.request ≠ requestHash platform v.request) :
    Conflicting platform origin site v earlier := by
  obtain ⟨h₁, h₂, rfl⟩ := List.append_of_mem hq
  obtain ⟨hnone, hsome⟩ := hs.good h₁ _ (h₂ ++ later) (by simpa using he)
  cases hadmitted : admitted issuer directory u with
  | none =>
    obtain ⟨e, hbad⟩ := hnone hadmitted
    cases hbad
  | some found =>
    obtain ⟨identity, before, after, rfl, hm, hid⟩ := (hsome found.1 found.2 hadmitted).served q rfl
    obtain ⟨r, hr, hrk, hrh, -⟩ := hid.bootstrap
    refine ⟨r, Or.inr ⟨j, u, before, after, List.mem_append_left _ hm, hr⟩, ?_, hrh ▸ hne⟩
    rw [hrk, visitKey, visitKey, hkey]
    exact congrArg (BootstrapKey.mk · _) hsite

end Answers

/-- However bootstraps are interleaved, with crashes and failures among them: a browser has one principal and a
principal one session, the calls that come to the same browser identity or use the same key agree, and a call
that reuses a key for another request is refused without having committed anything. -/
theorem session_bootstrap_unique (platform : Platform) (issuer : Issuer) (directory : Directory) (db : Tables)
    (hdb : Unique db) (moves : List (Move Visit)) :
    let w := (World.initial db : VisitWorld).exec (body platform issuer directory) moves
    Unique w.db ∧
    (∀ i v r j u q, .finished i v (.ok r) ∈ w.history → .finished j u (.ok q) ∈ w.history →
      r.siteId = q.siteId →
        (r.tenantId = q.tenantId → r.browserIdentity = q.browserIdentity →
          r.principalId = q.principalId ∧ r.sessionId = q.sessionId) ∧
        (v.context.idempotencyKey = u.context.idempotencyKey → r.browserIdentity = q.browserIdentity)) ∧
    ∀ earlier id v result later site agentRef, w.history = earlier ++ .finished id v result :: later →
      admitted issuer directory v = some (site, agentRef) →
      (Conflicting platform db site v earlier ∨ ∃ j u q, .finished j u (.ok q) ∈ earlier ∧ q.siteId = site.siteId ∧
        u.context.idempotencyKey = v.context.idempotencyKey ∧
        requestHash platform u.request ≠ requestHash platform v.request) →
      result = .error idempotencyKeyReused ∧ ∀ r ∈ earlier, r.id ≠ id := by
  intro w
  have hsound := @sound platform issuer directory db hdb moves
  have hholds : (discipline platform issuer directory db).Holds (w.db, w.history) := hsound.holds
  refine ⟨hholds.inv, fun i v r j u q hr hq hsite => ?_,
    fun earlier id v result later site agentRef he hadmitted hc => ?_⟩
  · obtain ⟨site, agentRef, identity, rfl, hid⟩ := identified_of_finished hholds hr
    obtain ⟨site', agentRef', identity', rfl, hid'⟩ := identified_of_finished hholds hq
    refine ⟨fun htenant hbrowser => ?_, fun hkey => ?_⟩
    · obtain ⟨p, hp, hpi, hpb⟩ := hid.principal
      obtain ⟨p', hp', hpi', hpb'⟩ := hid'.principal
      rw [ofBrowser_iff] at hpb hpb'
      have hsame : p = p' := hholds.inv.principals p hp p' hp' (hpb.1.trans (htenant.trans hpb'.1.symm))
        (hpb.2.1.trans (hsite.trans hpb'.2.1.symm)) (hpb.2.2.trans (hbrowser.trans hpb'.2.2.symm))
      have hprincipal : identity.1 = identity'.1 := hpi.symm.trans (hsame ▸ hpi')
      obtain ⟨s, hs, hsi, hsv⟩ := hid.session
      obtain ⟨s', hs', hsi', hsv'⟩ := hid'.session
      rw [ofVisitor_iff] at hsv hsv'
      have hsame' : s = s' := hholds.inv.sessions s hs s' hs' (hsv.1.trans (htenant.trans hsv'.1.symm))
        (hsv.2.1.trans (hsite.trans hsv'.2.1.symm)) (hsv.2.2.trans (hprincipal.trans hsv'.2.2.symm))
      exact ⟨hprincipal, hsi.symm.trans (hsame' ▸ hsi')⟩
    · obtain ⟨b, hb, hbk, -, hbi⟩ := hid.bootstrap
      obtain ⟨b', hb', hbk', -, hbi'⟩ := hid'.bootstrap
      have hkeys : b.key = b'.key := by
        rw [hbk, hbk', visitKey, visitKey, hkey]
        exact congrArg (BootstrapKey.mk · _) hsite
      exact hbi.symm.trans (Table.key_injective hb hb' hkeys ▸ hbi')
  · have hfinished := (hholds.good earlier _ later he).2 site agentRef hadmitted
    have hrefused : result = .error idempotencyKeyReused := by
      refine hfinished.refused ?_
      rcases hc with hc | ⟨j, u, q, hq, hsite, hkey, hne⟩
      · exact hc
      · exact conflicting_of_finished hholds he hq hsite hkey hne
    exact ⟨hrefused, hfinished.silent _ hrefused⟩

def hashed : Json → String
  | .array [.string siteKey, _, _, .string browserIdentity] => siteKey ++ browserIdentity
  | _ => ""

def plain : Platform := ⟨hashed, fun text => text.toList.length, fun _ => true⟩

def hourly : Issuer := ⟨3600, some, fun _ => "token"⟩

def shop : Directory := ⟨[⟨"site", "tenant", "key", ["https://example.com"], "agent"⟩], []⟩

def visiting (browserIdentity idempotencyKey principalId sessionId : Id) : Visit where
  request := ⟨"key", none, none, some browserIdentity⟩
  context := ⟨"https://example.com", idempotencyKey⟩
  ids := ⟨"", principalId, sessionId⟩
  now := 0
  currentTimestamp := 0

def racing : List (Move Visit) :=
  .start (visiting "browser" "one" "p1" "s1") :: .start (visiting "browser" "second" "p2" "s2") ::
    ((List.range 40).map fun n => .advance (n % 2)) ++
    .start (visiting "tablet" "one" "p3" "s3") :: List.replicate 10 (.advance 2)

def raced : VisitWorld := (World.initial (unused ∅ ∅ ∅)).exec (body plain hourly shop) racing

def refusals (history : List VisitRecord) : List (ℕ × ServerError) := history.filterMap fun
  | .finished i _ (.error e) => some (i, e)
  | _ => none

lemma unique_unused : Unique (unused ∅ ∅ ∅) := ⟨fun _ hp => (nomatch hp), fun _ hs => (nomatch hs)⟩

theorem racing_visits_unique : Unique raced.db ∧ raced.db.principals.rows.map Principal.principalId = ["p1"] ∧
    raced.db.sessionBootstrapIdempotency.rows.map (fun r => r.key.idempotencyKey) = ["one", "second"] ∧
    refusals raced.history = [(2, idempotencyKeyReused)] :=
  ⟨(session_bootstrap_unique plain hourly shop (unused ∅ ∅ ∅) unique_unused racing).1, by decide +kernel,
    by decide +kernel, by decide +kernel⟩

end ChatCore.Services.Bootstraps
