import ChatCore.Services.Server

namespace ChatCore.Services

open Protocol Relational Database

namespace SessionService

structure Site where
  siteId : Id
  tenantId : Id
  siteKey : Id
  allowedOrigins : List String
  agentRef : Id
  deriving DecidableEq, Repr

structure SiteWidgetAgentAlias where
  agentAlias : Id
  agentRef : Id
  deriving DecidableEq, Repr

structure SiteWidget where
  tenantId : Id
  siteId : Id
  widgetKey : Id
  defaultAgentAlias : Id
  agentAliases : List SiteWidgetAgentAlias
  deriving DecidableEq, Repr

/-- The rows of `sites` and `site_widgets`, which no service writes. -/
structure Directory where
  sites : List Site
  widgets : List SiteWidget
  deriving DecidableEq, Repr

structure AnonymousBootstrapRequest where
  siteKey : Id
  widgetKey : Option Id
  agentAlias : Option Id
  browserIdentity : Option Id
  deriving DecidableEq, Repr

structure BootstrapContext where
  origin : String
  idempotencyKey : String
  deriving DecidableEq, Repr

/-- The values of the three `randomUUID()` calls. -/
structure BootstrapIds where
  browserIdentity : Id
  principalId : Id
  sessionId : Id
  deriving DecidableEq, Repr

inductive AccessScope
  | conversationsRead
  | conversationsWrite
  | eventsRead
  | inputsWrite
  deriving DecidableEq, Repr

structure SessionTokenClaims where
  tenantId : Id
  siteId : Id
  agentRef : Id
  principalId : Id
  sessionId : Id
  scopes : List AccessScope
  issuedAt : Int
  expiresAt : Int
  deriving DecidableEq, Repr

structure SessionBootstrapResponse where
  accessToken : String
  expiresAt : Int
  tenantId : Id
  siteId : Id
  agentRef : Id
  principalId : Id
  sessionId : Id
  browserIdentity : Id
  deriving DecidableEq, Repr

/-- The service's time to live, the `origin` of an http or https URL, and the signature of a token. -/
structure Issuer where
  ttlSeconds : ℕ
  normalizeOrigin : String → Option String
  sign : SessionTokenClaims → String

def siteNotFound : ServerError := .api "SITE_NOT_FOUND" 404 "The site was not found."

def originNotAllowed : ServerError := .api "ORIGIN_NOT_ALLOWED" 403 "The origin is not allowed."

def widgetNotFound : ServerError := .api "WIDGET_NOT_FOUND" 404 "The widget was not found."

def agentAliasNotAllowed : ServerError :=
  .api "AGENT_ALIAS_NOT_ALLOWED" 403 "The agent alias is not allowed for this widget."

def idempotencyKeyReused : ServerError :=
  .api "IDEMPOTENCY_KEY_REUSED" 409 "The idempotency key was already used for a different request."

variable (platform : Platform) (issuer : Issuer) (directory : Directory)

def optional (text : Option Id) : Json := text.elim .null .string

def requestHash (request : AnonymousBootstrapRequest) : String :=
  platform.sha256 (.array [.string request.siteKey, optional request.widgetKey, optional request.agentAlias,
    optional request.browserIdentity])

def resolveAgentRef (site : Site) (widgetKey agentAlias : Option Id) : Query Id :=
  match widgetKey.bind present with
  | none => if (agentAlias.bind present).isSome then .throw agentAliasNotAllowed else pure site.agentRef
  | some widgetKey =>
      match directory.widgets.find?
        (fun w => decide (w.tenantId = site.tenantId) && decide (w.siteId = site.siteId) &&
          decide (w.widgetKey = widgetKey)) with
      | none => .throw widgetNotFound
      | some widget =>
          match widget.agentAliases.find?
            (fun a => decide (a.agentAlias = agentAlias.getD widget.defaultAgentAlias)) with
          | none => .throw agentAliasNotAllowed
          | some found => pure found.agentRef

def issue (tenantId siteId agentRef principalId sessionId : Id) (now : Timestamp) : SessionTokenClaims where
  tenantId := tenantId
  siteId := siteId
  agentRef := agentRef
  principalId := principalId
  sessionId := sessionId
  scopes := [.conversationsRead, .conversationsWrite, .eventsRead, .inputsWrite]
  issuedAt := now / 1000000 * 1000
  expiresAt := (now / 1000000 + issuer.ttlSeconds) * 1000

def ofBrowser (site : Site) (browserIdentity : Id) (p : Principal) : Bool :=
  decide (p.tenantId = site.tenantId) && decide (p.siteId = site.siteId) &&
    decide (p.browserIdentity = browserIdentity)

def ofVisitor (site : Site) (principalId : Id) (s : BrowserSession) : Bool :=
  decide (s.tenantId = site.tenantId) && decide (s.siteId = site.siteId) && decide (s.principalId = principalId)

def renewed (expiresAt : Timestamp) (s : BrowserSession) : BrowserSession := { s with expiresAt := expiresAt }

lemma renewed_sessionId (expiresAt : Timestamp) (s : BrowserSession) :
    (renewed expiresAt s).sessionId = s.sessionId := rfl

def findPrincipal (site : Site) (browserIdentity principalId : Id) (currentTimestamp : Timestamp) :
    Query Principal := do
  match ← principals.selectFirst (ofBrowser site browserIdentity) with
  | some principal => return principal
  | none =>
      principals.insertUnless (ofBrowser site browserIdentity)
        ⟨principalId, site.tenantId, site.siteId, browserIdentity, currentTimestamp⟩
      principals.selectFirstOrThrow (ofBrowser site browserIdentity)

def findSession (site : Site) (principalId sessionId : Id) (expiresAt : Timestamp) : Query BrowserSession := do
  match ← browserSessions.selectFirst (ofVisitor site principalId) with
  | none =>
      browserSessions.upsert (ofVisitor site principalId) (renewed expiresAt) (renewed_sessionId expiresAt)
        ⟨sessionId, site.tenantId, site.siteId, principalId, expiresAt⟩
      browserSessions.selectFirstOrThrow (ofVisitor site principalId)
  | some session =>
      let _ ← browserSessions.updateTable (fun s => decide (s.tenantId = site.tenantId) &&
        decide (s.siteId = site.siteId) && decide (s.sessionId = session.sessionId)) (renewed expiresAt)
        (renewed_sessionId expiresAt)
      return session

def identify (site : Site) (request : AnonymousBootstrapRequest) (idempotencyKey : String) (ids : BootstrapIds)
    (now currentTimestamp : Timestamp) : Query (Id × Id × Id) := do
  Program.lock (fun _ => [⟨.advisory (platform.hashtextextended s!"{site.siteId}:{idempotencyKey}"), .update⟩])
  let previous ← sessionBootstrapIdempotency.selectFirst (fun r => decide (r.key = ⟨site.siteId, idempotencyKey⟩))
  if previous.any fun r => decide (r.requestHash ≠ requestHash platform request) then .throw idempotencyKeyReused
  let browserIdentity := (previous.map (·.browserIdentity)).getD (request.browserIdentity.getD ids.browserIdentity)
  let principal ← findPrincipal site browserIdentity ids.principalId currentTimestamp
  let session ← findSession site principal.principalId ids.sessionId
    (now + milliseconds (issuer.ttlSeconds * 1000))
  if previous.isNone then
    sessionBootstrapIdempotency.insertInto
      ⟨⟨site.siteId, idempotencyKey⟩, requestHash platform request, browserIdentity, currentTimestamp⟩
  return (principal.principalId, session.sessionId, browserIdentity)

def bootstrapAnonymous (request : AnonymousBootstrapRequest) (context : BootstrapContext) (ids : BootstrapIds)
    (now currentTimestamp : Timestamp) : Query SessionBootstrapResponse :=
  match directory.sites.find? (fun s => decide (s.siteKey = request.siteKey)) with
  | none => .throw siteNotFound
  | some site =>
      match (issuer.normalizeOrigin context.origin).bind present with
      | none => .throw originNotAllowed
      | some origin => do
          if site.allowedOrigins.all fun candidate => decide (issuer.normalizeOrigin candidate ≠ some origin) then
            .throw originNotAllowed
          let agentRef ← resolveAgentRef directory site request.widgetKey request.agentAlias
          let (principalId, sessionId, browserIdentity) ← Program.transaction
            (identify platform issuer site request context.idempotencyKey ids now currentTimestamp)
          let claims := issue issuer site.tenantId site.siteId agentRef principalId sessionId now
          return {
            accessToken := issuer.sign claims
            expiresAt := claims.expiresAt
            tenantId := site.tenantId
            siteId := site.siteId
            agentRef := agentRef
            principalId := principalId
            sessionId := sessionId
            browserIdentity := browserIdentity }

end SessionService

inductive Traffic
  | task (task : Task)
  | bootstrap (issuer : SessionService.Issuer) (directory : SessionService.Directory)
      (request : SessionService.AnonymousBootstrapRequest) (context : SessionService.BootstrapContext)
      (ids : SessionService.BootstrapIds) (now currentTimestamp : Timestamp)

inductive Served
  | outcome (outcome : Outcome)
  | session (response : SessionService.SessionBootstrapResponse)

def trafficBody (server : Deployment) : Traffic → Query Served
  | .task task => .outcome <$> taskBody server task
  | .bootstrap issuer directory request context ids now currentTimestamp => .session <$>
      SessionService.bootstrapAnonymous server.platform issuer directory request context ids now currentTimestamp

end ChatCore.Services
