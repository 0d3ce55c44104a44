import ChatCore.Provisioning.Config

/-! `provisionWidgetRegistry`, with the tables that it writes and all their constraints. -/

namespace ChatCore.Provisioning

open Protocol Relational Database Services

structure Tenant where
  tenantId : Id
  displayName : String
  createdAt : Timestamp
  deriving DecidableEq, Repr

structure Site where
  siteId : Id
  tenantId : Id
  siteKey : Id
  displayName : String
  allowedOrigins : List String
  agentRef : Id
  createdAt : Timestamp
  deriving DecidableEq, Repr

structure SiteWidget where
  widgetId : Id
  tenantId : Id
  siteId : Id
  widgetKey : Id
  displayName : String
  version : Id
  theme : Id
  launcher : Id
  placement : Id
  defaultAgentAlias : Id
  agentAliases : List SiteWidgetAgentAlias
  createdAt : Timestamp
  updatedAt : Timestamp
  deriving DecidableEq, Repr

inductive ActorKind
  | anonymous
  | admin
  | system
  deriving DecidableEq, Repr

inductive AuditOutcome
  | success
  | denied
  | failure
  deriving DecidableEq, Repr

structure AuditEvent where
  auditEventId : Id
  correlationId : Id
  actorKind : ActorKind
  actorId : Option Id
  tenantId : Option Id
  siteId : Option Id
  action : String
  outcome : AuditOutcome
  statusCode : ℕ
  occurredAt : Timestamp
  deriving DecidableEq, Repr

/-- The whole database: the visitors' tables and those of the registry. -/
structure Registry extends Tables where
  tenants : Table Tenant.tenantId
  sites : Table Site.siteId
  siteWidgets : Table SiteWidget.widgetId
  auditEvents : Table AuditEvent.auditEventId

section Constraints

variable (db : Registry)

def siteScopes : List (Id × Id) := db.sites.rows.map fun r => (r.tenantId, r.siteId)

def principalScopes : List (Id × Id × Id) := db.principals.rows.map fun r => (r.tenantId, r.siteId, r.principalId)

def conversationScopes : List (Id × Id × Id) :=
  db.conversations.rows.map fun r => (r.tenantId, r.siteId, r.conversationId)

def participantScopes : List (Id × Id × Id × Id) :=
  db.conversationParticipants.rows.map fun r => (r.tenantId, r.siteId, r.conversationId, r.participantId)

def kindCheck (r : ConversationParticipant) : Bool := match r.kind with
  | .user => r.principalId.isSome && r.agentRef.isNone
  | .agent => r.principalId.isNone && r.agentRef.isSome

def immediates : List (Constraint Registry) := [
  ⟨"sites_site_key_key", false, fun db => unique (db.sites.rows.map Site.siteKey)⟩,
  ⟨"sites_tenant_id_fkey", false, fun db => references (db.sites.rows.map Site.tenantId)
    (db.tenants.rows.map Tenant.tenantId)⟩,
  ⟨"sites_tenant_site_unique", false, fun db => unique (siteScopes db)⟩,
  ⟨"principals_browser_identity_unique", false, fun db =>
    unique (db.principals.rows.map fun r => (r.tenantId, r.siteId, r.browserIdentity))⟩,
  ⟨"principals_tenant_site_principal_unique", false, fun db => unique (principalScopes db)⟩,
  ⟨"browser_sessions_principal_unique", false, fun db =>
    unique (db.browserSessions.rows.map fun r => (r.tenantId, r.siteId, r.principalId))⟩,
  ⟨"session_bootstrap_idempotency_site_id_fkey", false, fun db =>
    references (db.sessionBootstrapIdempotency.rows.map fun r => r.key.siteId) (db.sites.rows.map Site.siteId)⟩,
  ⟨"conversations_scope_unique", false, fun db => unique (conversationScopes db)⟩,
  ⟨"conversation_participants_kind_check", false, fun db => db.conversationParticipants.rows.all kindCheck⟩,
  ⟨"conversation_participants_kind_unique", false, fun db =>
    unique (db.conversationParticipants.rows.map fun r => (r.conversationId, r.kind))⟩,
  ⟨"conversation_participants_scope_unique", false, fun db => unique (participantScopes db)⟩,
  ⟨"messages_sequence_check", false, fun db => db.messages.rows.all fun r => decide (1 ≤ r.sequence)⟩,
  ⟨"messages_sequence_unique", false, fun db =>
    unique (db.messages.rows.map fun r => (r.conversationId, r.sequence))⟩,
  ⟨"conversation_events_sequence_check", false, fun db =>
    db.conversationEvents.rows.all fun r => decide (1 ≤ r.sequence)⟩,
  ⟨"conversation_events_sequence_unique", false, fun db =>
    unique (db.conversationEvents.rows.map fun r => (r.conversationId, r.sequence))⟩,
  ⟨"agent_runs_assistant_message_id_key", false, fun db =>
    unique (db.agentRuns.rows.map AgentRun.assistantMessageId)⟩,
  ⟨"agent_runs_trigger_message_foreign", false, fun db =>
    references (db.agentRuns.rows.map AgentRun.triggerMessageId) (db.messages.rows.map Message.messageId)⟩,
  ⟨"handoffs_run_id_key", false, fun db => unique (db.handoffs.rows.map Handoff.runId)⟩,
  ⟨"handoffs_run_foreign", false, fun db =>
    references (db.handoffs.rows.map Handoff.runId) (db.agentRuns.rows.map AgentRun.runId)⟩,
  ⟨"structured_input_resolution_check", false, fun db => db.structuredInputRequests.rows.all resolutionCheck⟩,
  ⟨"structured_input_run_foreign", false, fun db =>
    references (db.structuredInputRequests.rows.map StructuredInputRequest.runId)
      (db.agentRuns.rows.map AgentRun.runId)⟩,
  ⟨"site_widgets_site_widget_key_unique", false, fun db =>
    unique (db.siteWidgets.rows.map fun r => (r.tenantId, r.siteId, r.widgetKey))⟩]

/-- The foreign keys that migration 011 makes `deferrable initially immediate`. -/
def deferrables : List (Constraint Registry) := [
  ⟨"site_widgets_site_foreign", true, fun db =>
    references (db.siteWidgets.rows.map fun r => (r.tenantId, r.siteId)) (siteScopes db)⟩,
  ⟨"principals_tenant_site_foreign", true, fun db =>
    references (db.principals.rows.map fun r => (r.tenantId, r.siteId)) (siteScopes db)⟩,
  ⟨"browser_sessions_principal_foreign", true, fun db =>
    references (db.browserSessions.rows.map fun r => (r.tenantId, r.siteId, r.principalId)) (principalScopes db)⟩,
  ⟨"conversations_principal_foreign", true, fun db =>
    references (db.conversations.rows.map fun r => (r.tenantId, r.siteId, r.principalId)) (principalScopes db)⟩,
  ⟨"conversation_participants_conversation_foreign", true, fun db =>
    references (db.conversationParticipants.rows.map fun r => (r.tenantId, r.siteId, r.conversationId))
      (conversationScopes db)⟩,
  ⟨"messages_participant_foreign", true, fun db =>
    references (db.messages.rows.map fun r => (r.tenantId, r.siteId, r.conversationId, r.participantId))
      (participantScopes db)⟩,
  ⟨"conversation_events_conversation_foreign", true, fun db =>
    references (db.conversationEvents.rows.map fun r => (r.tenantId, r.siteId, r.conversationId))
      (conversationScopes db)⟩,
  ⟨"agent_runs_conversation_foreign", true, fun db =>
    references (db.agentRuns.rows.map fun r => (r.tenantId, r.siteId, r.conversationId)) (conversationScopes db)⟩]

def constraints : List (Constraint Registry) := immediates ++ deferrables

end Constraints

structure SiteTable {ρ κ : Type} (key : ρ → κ) where
  get : Registry → Table key
  put : Registry → Table key → Registry
  tenantId : ρ → Option Id
  siteId : ρ → Option Id
  withTenant : ρ → Id → ρ
  primaryKey : String

namespace SiteTable

variable {ρ κ : Type} {key : ρ → κ} (T : SiteTable key)

def owned (tenantId siteId : Id) (r : ρ) : Bool :=
  decide (T.tenantId r = some tenantId) && decide (T.siteId r = some siteId)

def moved (newTenantId tenantId siteId : Id) (r : ρ) : ρ :=
  if T.owned tenantId siteId r then T.withTenant r newTenantId else r

def setTenant [DecidableEq κ] (newTenantId tenantId siteId : Id) (db : Registry) : Except ServerError Registry :=
  match (T.get db).rewrite (T.moved newTenantId tenantId siteId) with
  | some t => .ok (T.put db t)
  | none => .error (.constraint T.primaryKey)

end SiteTable

def browserSessionSites : SiteTable BrowserSession.sessionId where
  get db := db.browserSessions
  put db t := { db with browserSessions := t }
  tenantId r := some r.tenantId
  siteId r := some r.siteId
  withTenant r tenantId := { r with tenantId := tenantId }
  primaryKey := "browser_sessions_pkey"

def commandIdempotencySites : SiteTable CommandIdempotency.key where
  get db := db.commandIdempotency
  put db t := { db with commandIdempotency := t }
  tenantId r := some r.key.tenantId
  siteId r := some r.key.siteId
  withTenant r tenantId := { r with key := { r.key with tenantId := tenantId } }
  primaryKey := "command_idempotency_primary"

def messageSites : SiteTable Message.messageId where
  get db := db.messages
  put db t := { db with messages := t }
  tenantId r := some r.tenantId
  siteId r := some r.siteId
  withTenant r tenantId := { r with tenantId := tenantId }
  primaryKey := "messages_pkey"

def conversationEventSites : SiteTable ConversationEvent.eventId where
  get db := db.conversationEvents
  put db t := { db with conversationEvents := t }
  tenantId r := some r.tenantId
  siteId r := some r.siteId
  withTenant r tenantId := { r with tenantId := tenantId }
  primaryKey := "conversation_events_pkey"

def conversationParticipantSites : SiteTable ConversationParticipant.participantId where
  get db := db.conversationParticipants
  put db t := { db with conversationParticipants := t }
  tenantId r := some r.tenantId
  siteId r := some r.siteId
  withTenant r tenantId := { r with tenantId := tenantId }
  primaryKey := "conversation_participants_pkey"

def agentRunSites : SiteTable AgentRun.runId where
  get db := db.agentRuns
  put db t := { db with agentRuns := t }
  tenantId r := some r.tenantId
  siteId r := some r.siteId
  withTenant r tenantId := { r with tenantId := tenantId }
  primaryKey := "agent_runs_pkey"

def handoffSites : SiteTable Handoff.handoffId where
  get db := db.handoffs
  put db t := { db with handoffs := t }
  tenantId r := some r.tenantId
  siteId r := some r.siteId
  withTenant r tenantId := { r with tenantId := tenantId }
  primaryKey := "handoffs_pkey"

def structuredInputRequestSites : SiteTable StructuredInputRequest.requestId where
  get db := db.structuredInputRequests
  put db t := { db with structuredInputRequests := t }
  tenantId r := some r.tenantId
  siteId r := some r.siteId
  withTenant r tenantId := { r with tenantId := tenantId }
  primaryKey := "structured_input_requests_pkey"

def conversationSites : SiteTable Conversation.conversationId where
  get db := db.conversations
  put db t := { db with conversations := t }
  tenantId r := some r.tenantId
  siteId r := some r.siteId
  withTenant r tenantId := { r with tenantId := tenantId }
  primaryKey := "conversations_pkey"

def principalSites : SiteTable Principal.principalId where
  get db := db.principals
  put db t := { db with principals := t }
  tenantId r := some r.tenantId
  siteId r := some r.siteId
  withTenant r tenantId := { r with tenantId := tenantId }
  primaryKey := "principals_pkey"

def siteWidgetSites : SiteTable SiteWidget.widgetId where
  get db := db.siteWidgets
  put db t := { db with siteWidgets := t }
  tenantId r := some r.tenantId
  siteId r := some r.siteId
  withTenant r tenantId := { r with tenantId := tenantId }
  primaryKey := "site_widgets_pkey"

def auditEventSites : SiteTable AuditEvent.auditEventId where
  get db := db.auditEvents
  put db t := { db with auditEvents := t }
  tenantId r := r.tenantId
  siteId r := r.siteId
  withTenant r tenantId := { r with tenantId := some tenantId }
  primaryKey := "audit_events_pkey"

abbrev Registration := Statements Registry ServerError

/-- What PostgreSQL makes of the values of `text` columns and of the strings in a `jsonb` column. -/
def storable (texts strings : List Connectors.Text) : Except ServerError Unit :=
  if texts.any fun s => s.contains 0 then .error (.error "invalid byte sequence for encoding \"UTF8\": 0x00")
  else if strings.any fun s => s.contains 0 || !Connectors.isWellFormed s then
    .error (.error "unsupported Unicode escape sequence")
  else .ok ()

/-- `insert into … on conflict do update` for the rows that `p` selects. -/
def upsert {ρ κ : Type} {key : ρ → κ} [DecidableEq κ] (primaryKey : String) (t : Table key)
    (p : ρ → Bool) (f : ρ → ρ)
    (hf : ∀ r, key (f r) = key r) (r : ρ) : Except ServerError (Table key) :=
  if t.rows.any p then .ok (t.update p f hf)
  else match t.find? (key r) with
    | some _ => .error (.constraint primaryKey)
    | none => .ok (t.insert r)

section Provision

variable (config : WidgetProvisioningConfig) (now currentTimestamp : Timestamp)

def renamedTenant (r : Tenant) : Tenant :=
  { r with displayName := Connectors.usvString config.tenant.displayName }

lemma renamedTenant_id (r : Tenant) : (renamedTenant config r).tenantId = r.tenantId := rfl

def upsertTenant (db : Registry) : Except ServerError Registry := do
  storable [config.tenant.displayName] []
  let tenants ← upsert "tenants_pkey" db.tenants (fun r => decide (r.tenantId = config.tenant.tenantId))
    (renamedTenant config) (renamedTenant_id config)
    ⟨config.tenant.tenantId, Connectors.usvString config.tenant.displayName, currentTimestamp⟩
  return { db with tenants := tenants }

def moveSite (tenantId siteId : Id) : Registration Unit := do
  deferConstraints
  execute constraints (browserSessionSites.setTenant config.tenant.tenantId tenantId siteId)
  execute constraints (commandIdempotencySites.setTenant config.tenant.tenantId tenantId siteId)
  execute constraints (messageSites.setTenant config.tenant.tenantId tenantId siteId)
  execute constraints (conversationEventSites.setTenant config.tenant.tenantId tenantId siteId)
  execute constraints (conversationParticipantSites.setTenant config.tenant.tenantId tenantId siteId)
  execute constraints (agentRunSites.setTenant config.tenant.tenantId tenantId siteId)
  execute constraints (handoffSites.setTenant config.tenant.tenantId tenantId siteId)
  execute constraints (structuredInputRequestSites.setTenant config.tenant.tenantId tenantId siteId)
  execute constraints (conversationSites.setTenant config.tenant.tenantId tenantId siteId)
  execute constraints (principalSites.setTenant config.tenant.tenantId tenantId siteId)
  execute constraints (siteWidgetSites.setTenant config.tenant.tenantId tenantId siteId)
  execute constraints (auditEventSites.setTenant config.tenant.tenantId tenantId siteId)

def newSite : Site where
  siteId := config.site.siteId
  tenantId := config.tenant.tenantId
  siteKey := config.site.siteKey
  displayName := Connectors.usvString config.site.displayName
  allowedOrigins := config.site.allowedOrigins
  agentRef := config.agentRef
  createdAt := currentTimestamp

def provisionedSite (r : Site) : Site :=
  { r with
    tenantId := config.tenant.tenantId
    displayName := Connectors.usvString config.site.displayName
    allowedOrigins := config.site.allowedOrigins
    agentRef := config.agentRef }

lemma provisionedSite_id (r : Site) : (provisionedSite config r).siteId = r.siteId := rfl

def upsertSite (db : Registry) : Except ServerError Registry := do
  storable [config.site.displayName] []
  let sites ← upsert "sites_pkey" db.sites (fun r => decide (r.siteKey = config.site.siteKey))
    (provisionedSite config)
    (provisionedSite_id config) (newSite config currentTimestamp)
  return { db with sites := sites }

def newWidget : SiteWidget where
  widgetId := config.widget.widgetId
  tenantId := config.tenant.tenantId
  siteId := config.site.siteId
  widgetKey := config.widget.widgetKey
  displayName := Connectors.usvString config.widget.displayName
  version := config.widget.version
  theme := config.widget.theme
  launcher := config.widget.launcher
  placement := config.widget.placement
  defaultAgentAlias := config.widget.defaultAgentAlias
  agentAliases := config.widget.agentAliases
  createdAt := currentTimestamp
  updatedAt := currentTimestamp

def provisionedWidget (r : SiteWidget) : SiteWidget :=
  { newWidget config now with widgetId := r.widgetId, createdAt := r.createdAt }

lemma provisionedWidget_id (r : SiteWidget) : (provisionedWidget config now r).widgetId = r.widgetId := rfl

def upsertWidget (db : Registry) : Except ServerError Registry := do
  storable [config.widget.displayName] (config.widget.agentAliases.map SiteWidgetAgentAlias.label)
  let siteWidgets ← upsert "site_widgets_pkey" db.siteWidgets
    (fun r => decide (r.widgetId = config.widget.widgetId))
    (provisionedWidget config now) (provisionedWidget_id config now) (newWidget config currentTimestamp)
  return { db with siteWidgets := siteWidgets }

def siteOfKey (siteKey : Id) (db : Registry) : Option Site :=
  db.sites.rows.find? fun s => decide (s.siteKey = siteKey)

def moveExisting : Option Site → Registration Unit
  | some existingSite =>
      if existingSite.tenantId ≠ config.tenant.tenantId then moveSite config existingSite.tenantId
        existingSite.siteId
      else pure ()
  | none => pure ()

/-- The transaction of `provisionWidgetRegistry`. -/
def provision : Registration Unit := do
  execute constraints (upsertTenant config currentTimestamp)
  let existingSite ← Statements.select (siteOfKey config.site.siteKey)
  moveExisting config existingSite
  execute constraints (upsertSite config currentTimestamp)
  execute constraints (upsertWidget config now currentTimestamp)

end Provision

def provisionWidgetRegistry (web : Web) (input : Value) (now currentTimestamp : Timestamp) (db : Registry) :
    Except ServerError WidgetProvisioningConfig × Registry :=
  match parseWidgetProvisioningConfig web input with
  | .error e => (.error e, db)
  | .ok config =>
      match transact constraints (provision config now currentTimestamp) db with
      | (.ok _, db') => (.ok config, db')
      | (.error e, db') => (.error e, db')

end ChatCore.Provisioning
