import ChatCore.Provisioning.Registry
import Mathlib.Data.List.Basic

namespace ChatCore.Provisioning

open Protocol Relational Database Services

section Shift

variable {β : Type} {site : β → Id} {newTenantId tenantId siteId : Id}

def shift (site : β → Id) (newTenantId tenantId siteId : Id) (x : Id × β) : Id × β :=
  if x.1 = tenantId ∧ site x.2 = siteId then (newTenantId, x.2) else x

lemma shift_snd (x : Id × β) : (shift site newTenantId tenantId siteId x).2 = x.2 := by
  unfold shift
  split <;> rfl

lemma shift_nodup {l : List (Id × β)} (hn : l.Nodup) (ho : ∀ x ∈ l, site x.2 = siteId → x.1 = tenantId) :
    (l.map (shift site newTenantId tenantId siteId)).Nodup := by
  refine hn.map_on fun x hx y hy h => ?_
  have hsnd : x.2 = y.2 := by rw [← shift_snd x, h, shift_snd]
  by_cases hs : site x.2 = siteId
  · exact Prod.ext ((ho x hx hs).trans (ho y hy (hsnd ▸ hs)).symm) hsnd
  · have hs' : site y.2 ≠ siteId := hsnd ▸ hs
    simpa [shift, hs, hs'] using h

lemma subset_of_shift {l m l' m' : List (Id × β)} (h : l ⊆ m)
    (hl : l' = l.map (shift site newTenantId tenantId siteId))
    (hm : m' = m.map (shift site newTenantId tenantId siteId)) :
    l' ⊆ m' := by
  rw [hl, hm]
  exact List.map_subset _ h

end Shift

namespace SiteTable

variable {ρ κ : Type} {key : ρ → κ} {T : SiteTable key} {newTenantId tenantId siteId : Id}

lemma map_moved {ξ : Type} {col : ρ → ξ} (h : ∀ r t, col (T.withTenant r t) = col r) (rows : List ρ) :
    (rows.map (T.moved newTenantId tenantId siteId)).map col = rows.map col := by
  rw [List.map_map]
  refine List.map_congr_left fun r _ => ?_
  simp only [Function.comp_apply, moved]
  split
  · exact h r newTenantId
  · rfl

lemma map_moved_scope {β : Type} {col : ρ → Id × β} (site : β → Id) (h : ∀ r, T.tenantId r = some (col r).1 ∧
    T.siteId r = some (site (col r).2) ∧ ∀ t, col (T.withTenant r t) = (t, (col r).2)) (rows : List ρ) :
    (rows.map (T.moved newTenantId tenantId siteId)).map col =
      (rows.map col).map (shift site newTenantId tenantId siteId) := by
  rw [List.map_map, List.map_map]
  refine List.map_congr_left fun r _ => ?_
  obtain ⟨htenant, hsite, hcol⟩ := h r
  simp only [Function.comp_apply, moved, owned, shift, htenant, hsite, Option.some.injEq, Bool.and_eq_true,
    decide_eq_true_eq]
  split
  · exact hcol newTenantId
  · rfl

variable [DecidableEq κ]

lemma setTenant_ok {db db' : Registry} : T.setTenant newTenantId tenantId siteId db = .ok db' ↔
    ∃ t, (T.get db).rewrite (T.moved newTenantId tenantId siteId) = some t ∧ db' = T.put db t := by
  unfold setTenant
  split
  case h_1 t ht => simp only [ht, Except.ok.injEq, Option.some.injEq, exists_eq_left', eq_comm]
  case h_2 ht => simp [ht]

variable {α : Type} {t : Open Registry}

lemma setTenant_last {t' : Open Registry} {u : Unit} :
    execute constraints (T.setTenant newTenantId tenantId siteId) t = .ok (u, t') ↔
      ∃ v, (T.get t.db).rewrite (T.moved newTenantId tenantId siteId) = some v ∧
        (∀ c ∈ constraints, (c.deferrable && t.deferred) = false → c.holds (T.put t.db v) = true) ∧
        t' = ⟨T.put t.db v, t.deferred⟩ := by
  simp only [execute_ok, setTenant_ok]
  constructor
  · rintro ⟨_, ⟨v, hv, rfl⟩, hc, rfl⟩
    exact ⟨v, hv, hc, rfl⟩
  · rintro ⟨v, hv, hc, rfl⟩
    exact ⟨_, ⟨v, hv, rfl⟩, hc, rfl⟩

lemma setTenant_bind {k : Unit → Registration α} {r : α × Open Registry} :
    (execute constraints (T.setTenant newTenantId tenantId siteId) >>= k) t = .ok r ↔
      ∃ v, (T.get t.db).rewrite (T.moved newTenantId tenantId siteId) = some v ∧
        (∀ c ∈ constraints, (c.deferrable && t.deferred) = false → c.holds (T.put t.db v) = true) ∧
        k () ⟨T.put t.db v, t.deferred⟩ = .ok r := by
  simp only [statements_bind, setTenant_last]
  constructor
  · rintro ⟨_, _, ⟨v, hv, hc, rfl⟩, hk⟩
    exact ⟨v, hv, hc, hk⟩
  · rintro ⟨v, hv, hc, hk⟩
    exact ⟨(), _, ⟨v, hv, hc, rfl⟩, hk⟩

lemma rewrite_moved (h : ∀ r t, key (T.withTenant r t) = key r) (t : Table key) :
    ∃ u, t.rewrite (T.moved newTenantId tenantId siteId) = some u := by
  refine Table.rewrite_of_nodup ?_
  rw [← List.map_map, map_moved h]
  exact t.keys_nodup

end SiteTable

lemma nodup_of_key {ρ κ ξ : Type} {key : ρ → κ} (t : Table key) (col : ρ → ξ) (f : ξ → κ)
    (h : ∀ r, f (col r) = key r) :
    (t.rows.map col).Nodup := by
  refine List.Nodup.of_map f ?_
  rw [List.map_map]
  exact (congrArg List.Nodup (List.map_congr_left fun r _ => h r)).mpr t.keys_nodup

section Constraints

variable {db : Registry}

structure Immediate (db : Registry) : Prop where
  siteKeys : (db.sites.rows.map Site.siteKey).Nodup
  siteTenants : db.sites.rows.map Site.tenantId ⊆ db.tenants.rows.map Tenant.tenantId
  siteScopes : (siteScopes db).Nodup
  browserIdentities : (db.principals.rows.map fun r => (r.tenantId, r.siteId, r.browserIdentity)).Nodup
  principalScopes : (principalScopes db).Nodup
  sessionPrincipals : (db.browserSessions.rows.map fun r => (r.tenantId, r.siteId, r.principalId)).Nodup
  bootstrapSites :
    (db.sessionBootstrapIdempotency.rows.map fun r => r.key.siteId) ⊆ db.sites.rows.map Site.siteId
  conversationScopes : (conversationScopes db).Nodup
  participantKinds : ∀ r ∈ db.conversationParticipants.rows, kindCheck r = true
  participantKind : (db.conversationParticipants.rows.map fun r => (r.conversationId, r.kind)).Nodup
  participantScopes : (participantScopes db).Nodup
  messageSequences : ∀ r ∈ db.messages.rows, 1 ≤ r.sequence
  messageSequence : (db.messages.rows.map fun r => (r.conversationId, r.sequence)).Nodup
  eventSequences : ∀ r ∈ db.conversationEvents.rows, 1 ≤ r.sequence
  eventSequence : (db.conversationEvents.rows.map fun r => (r.conversationId, r.sequence)).Nodup
  assistantMessages : (db.agentRuns.rows.map AgentRun.assistantMessageId).Nodup
  triggerMessages : db.agentRuns.rows.map AgentRun.triggerMessageId ⊆ db.messages.rows.map Message.messageId
  handoffRun : (db.handoffs.rows.map Handoff.runId).Nodup
  handoffRuns : db.handoffs.rows.map Handoff.runId ⊆ db.agentRuns.rows.map AgentRun.runId
  resolutions : ∀ r ∈ db.structuredInputRequests.rows, resolutionCheck r = true
  inputRuns : db.structuredInputRequests.rows.map StructuredInputRequest.runId ⊆
    db.agentRuns.rows.map AgentRun.runId
  widgetKeys : (db.siteWidgets.rows.map fun r => (r.tenantId, r.siteId, r.widgetKey)).Nodup

structure Deferrable (db : Registry) : Prop where
  widgets : (db.siteWidgets.rows.map fun r => (r.tenantId, r.siteId)) ⊆ siteScopes db
  principals : (db.principals.rows.map fun r => (r.tenantId, r.siteId)) ⊆ siteScopes db
  sessions : (db.browserSessions.rows.map fun r => (r.tenantId, r.siteId, r.principalId)) ⊆ principalScopes db
  conversations : (db.conversations.rows.map fun r => (r.tenantId, r.siteId, r.principalId)) ⊆ principalScopes db
  participants : (db.conversationParticipants.rows.map fun r => (r.tenantId, r.siteId, r.conversationId)) ⊆
    conversationScopes db
  messages : (db.messages.rows.map fun r => (r.tenantId, r.siteId, r.conversationId, r.participantId)) ⊆
    participantScopes db
  events : (db.conversationEvents.rows.map fun r => (r.tenantId, r.siteId, r.conversationId)) ⊆
    conversationScopes db
  runs : (db.agentRuns.rows.map fun r => (r.tenantId, r.siteId, r.conversationId)) ⊆ conversationScopes db

lemma immediates_iff : (∀ c ∈ immediates, c.holds db = true) ↔ Immediate db := by
  simp only [immediates, List.forall_mem_cons, List.not_mem_nil, false_imp_iff, implies_true, and_true, unique_iff,
    references_iff, List.all_eq_true, decide_eq_true_eq]
  constructor
  · rintro ⟨h₁, h₂, h₃, h₄, h₅, h₆, h₇, h₈, h₉, h₁₀, h₁₁, h₁₂, h₁₃, h₁₄, h₁₅, h₁₆, h₁₇, h₁₈, h₁₉, h₂₀, h₂₁, h₂₂⟩
    exact ⟨h₁, h₂, h₃, h₄, h₅, h₆, h₇, h₈, h₉, h₁₀, h₁₁, h₁₂, h₁₃, h₁₄, h₁₅, h₁₆, h₁₇, h₁₈, h₁₉, h₂₀, h₂₁, h₂₂⟩
  · rintro ⟨h₁, h₂, h₃, h₄, h₅, h₆, h₇, h₈, h₉, h₁₀, h₁₁, h₁₂, h₁₃, h₁₄, h₁₅, h₁₆, h₁₇, h₁₈, h₁₉, h₂₀, h₂₁, h₂₂⟩
    exact ⟨h₁, h₂, h₃, h₄, h₅, h₆, h₇, h₈, h₉, h₁₀, h₁₁, h₁₂, h₁₃, h₁₄, h₁₅, h₁₆, h₁₇, h₁₈, h₁₉, h₂₀, h₂₁, h₂₂⟩

lemma deferrables_iff : (∀ c ∈ deferrables, c.holds db = true) ↔ Deferrable db := by
  simp only [deferrables, List.forall_mem_cons, List.not_mem_nil, false_imp_iff, implies_true, and_true,
    references_iff]
  constructor
  · rintro ⟨h₁, h₂, h₃, h₄, h₅, h₆, h₇, h₈⟩
    exact ⟨h₁, h₂, h₃, h₄, h₅, h₆, h₇, h₈⟩
  · rintro ⟨h₁, h₂, h₃, h₄, h₅, h₆, h₇, h₈⟩
    exact ⟨h₁, h₂, h₃, h₄, h₅, h₆, h₇, h₈⟩

lemma consistent_iff : Consistent constraints db ↔ Immediate db ∧ Deferrable db := by
  rw [← immediates_iff, ← deferrables_iff]
  exact List.forall_mem_append

lemma deferrable_of_mem {c : Constraint Registry} (h : c ∈ deferrables) : c.deferrable = true := by
  revert c
  simp [deferrables]

lemma due_deferred (h : Immediate db) : ∀ c ∈ constraints, (c.deferrable && true) = false → c.holds db = true := by
  intro c hc hd
  rcases List.mem_append.mp hc with hc | hc
  · exact immediates_iff.mpr h c hc
  · rw [deferrable_of_mem hc] at hd
    exact absurd hd (by decide)

end Constraints

def SiteTable.Kept {ρ κ : Type} {key : ρ → κ} (T : SiteTable key) (newTenantId tenantId siteId : Id)
    (before db : Registry) : Prop :=
  (T.get db).rows = (T.get before).rows ∨
    (T.get db).rows = (T.get before).rows.map (T.moved newTenantId tenantId siteId)

namespace SiteTable.Kept

variable {ρ κ ξ β : Type} {key : ρ → κ} {T : SiteTable key} {newTenantId tenantId siteId : Id}
  {before db : Registry}

lemma map_eq (h : T.Kept newTenantId tenantId siteId before db) (col : ρ → ξ)
    (hcol : ∀ r t, col (T.withTenant r t) = col r) :
    (T.get db).rows.map col = (T.get before).rows.map col := by
  rcases h with h | h
  · rw [h]
  · rw [h, map_moved hcol]

lemma forall_mem (h : T.Kept newTenantId tenantId siteId before db) {p : ρ → Prop}
    (hp : ∀ r t, p r → p (T.withTenant r t))
    (hb : ∀ r ∈ (T.get before).rows, p r) : ∀ r ∈ (T.get db).rows, p r := by
  rcases h with h | h
  · rwa [h]
  · rw [h]
    intro r hr
    obtain ⟨q, hq, rfl⟩ := List.mem_map.mp hr
    unfold moved
    split
    · exact hp q newTenantId (hb q hq)
    · exact hb q hq

lemma nodup (h : T.Kept newTenantId tenantId siteId before db) {col : ρ → Id × β} (site : β → Id)
    (hcol : ∀ r, T.tenantId r = some (col r).1 ∧ T.siteId r = some (site (col r).2) ∧
      ∀ t, col (T.withTenant r t) = (t, (col r).2))
    (ho : ∀ x ∈ (T.get before).rows.map col, site x.2 = siteId → x.1 = tenantId)
    (hn : ((T.get before).rows.map col).Nodup) : ((T.get db).rows.map col).Nodup := by
  rcases h with h | h
  · rwa [h]
  · rw [h, map_moved_scope site hcol]
    exact shift_nodup hn ho

end SiteTable.Kept

structure Halfway (newTenantId tenantId siteId : Id) (before db : Registry) : Prop where
  tenants : db.tenants = before.tenants
  sites : db.sites = before.sites
  bootstraps : db.sessionBootstrapIdempotency = before.sessionBootstrapIdempotency
  sessions : browserSessionSites.Kept newTenantId tenantId siteId before db
  commands : commandIdempotencySites.Kept newTenantId tenantId siteId before db
  messages : messageSites.Kept newTenantId tenantId siteId before db
  events : conversationEventSites.Kept newTenantId tenantId siteId before db
  participants : conversationParticipantSites.Kept newTenantId tenantId siteId before db
  runs : agentRunSites.Kept newTenantId tenantId siteId before db
  handoffs : handoffSites.Kept newTenantId tenantId siteId before db
  inputs : structuredInputRequestSites.Kept newTenantId tenantId siteId before db
  conversations : conversationSites.Kept newTenantId tenantId siteId before db
  principals : principalSites.Kept newTenantId tenantId siteId before db
  widgets : siteWidgetSites.Kept newTenantId tenantId siteId before db
  audits : auditEventSites.Kept newTenantId tenantId siteId before db

section Ownership

variable {db : Registry} {site : Site}

lemma tenant_of_scope (hs : site ∈ db.sites) {x : Id × Id} (hx : x ∈ siteScopes db) (he : x.2 = site.siteId) :
    x.1 = site.tenantId := by
  obtain ⟨r, hr, rfl⟩ := List.mem_map.mp hx
  rw [Table.key_injective hr hs he]

lemma principals_owned (hd : Deferrable db) (hs : site ∈ db.sites) {r : Principal} (hr : r ∈ db.principals)
    (he : r.siteId = site.siteId) : r.tenantId = site.tenantId :=
  tenant_of_scope hs (hd.principals (List.mem_map_of_mem hr)) he

lemma sessions_owned (hd : Deferrable db) (hs : site ∈ db.sites) {r : BrowserSession} (hr : r ∈ db.browserSessions)
    (he : r.siteId = site.siteId) : r.tenantId = site.tenantId := by
  obtain ⟨p, hp, heq⟩ := List.mem_map.mp (hd.sessions (List.mem_map_of_mem hr))
  simp only [Prod.mk.injEq] at heq
  rw [← heq.1]
  exact principals_owned hd hs hp (heq.2.1.trans he)

lemma widgets_owned (hd : Deferrable db) (hs : site ∈ db.sites) {r : SiteWidget} (hr : r ∈ db.siteWidgets)
    (he : r.siteId = site.siteId) : r.tenantId = site.tenantId :=
  tenant_of_scope hs (hd.widgets (List.mem_map_of_mem hr)) he

end Ownership

section Halfway

variable {newTenantId : Id} {site : Site} {before db : Registry}

lemma Halfway.immediate (hi : Immediate before) (hd : Deferrable before) (hs : site ∈ before.sites)
    (h : Halfway newTenantId site.tenantId site.siteId before db) : Immediate db where
  siteKeys := h.sites ▸ hi.siteKeys
  siteTenants := by
    rw [h.sites, h.tenants]
    exact hi.siteTenants
  siteScopes := by
    rw [siteScopes, h.sites]
    exact hi.siteScopes
  browserIdentities := by
    refine h.principals.nodup Prod.fst (fun r => ⟨rfl, rfl, fun t => rfl⟩) (fun x hx he => ?_) hi.browserIdentities
    obtain ⟨r, hr, rfl⟩ := List.mem_map.mp hx
    exact principals_owned hd hs hr he
  principalScopes := nodup_of_key db.principals _ (fun x => x.2.2) fun r => rfl
  sessionPrincipals := by
    refine h.sessions.nodup Prod.fst (fun r => ⟨rfl, rfl, fun t => rfl⟩) (fun x hx he => ?_) hi.sessionPrincipals
    obtain ⟨r, hr, rfl⟩ := List.mem_map.mp hx
    exact sessions_owned hd hs hr he
  bootstrapSites := by
    rw [h.sites, h.bootstraps]
    exact hi.bootstrapSites
  conversationScopes := nodup_of_key db.conversations _ (fun x => x.2.2) fun r => rfl
  participantKinds := h.participants.forall_mem (fun r t hr => hr) hi.participantKinds
  participantKind := by
    have hmap := h.participants.map_eq (fun r => (r.conversationId, r.kind)) fun r t => rfl
    exact hmap ▸ hi.participantKind
  participantScopes := nodup_of_key db.conversationParticipants _ (fun x => x.2.2.2) fun r => rfl
  messageSequences := h.messages.forall_mem (fun r t hr => hr) hi.messageSequences
  messageSequence := by
    have hmap := h.messages.map_eq (fun r => (r.conversationId, r.sequence)) fun r t => rfl
    exact hmap ▸ hi.messageSequence
  eventSequences := h.events.forall_mem (fun r t hr => hr) hi.eventSequences
  eventSequence := by
    have hmap := h.events.map_eq (fun r => (r.conversationId, r.sequence)) fun r t => rfl
    exact hmap ▸ hi.eventSequence
  assistantMessages := by
    have hmap := h.runs.map_eq AgentRun.assistantMessageId fun r t => rfl
    exact hmap ▸ hi.assistantMessages
  triggerMessages := by
    have hruns := h.runs.map_eq AgentRun.triggerMessageId fun r t => rfl
    have hmessages := h.messages.map_eq Message.messageId fun r t => rfl
    exact hruns ▸ hmessages ▸ hi.triggerMessages
  handoffRun := by
    have hmap := h.handoffs.map_eq Handoff.runId fun r t => rfl
    exact hmap ▸ hi.handoffRun
  handoffRuns := by
    have hhandoffs := h.handoffs.map_eq Handoff.runId fun r t => rfl
    have hruns := h.runs.map_eq AgentRun.runId fun r t => rfl
    exact hhandoffs ▸ hruns ▸ hi.handoffRuns
  resolutions := h.inputs.forall_mem (fun r t hr => hr) hi.resolutions
  inputRuns := by
    have hinputs := h.inputs.map_eq StructuredInputRequest.runId fun r t => rfl
    have hruns := h.runs.map_eq AgentRun.runId fun r t => rfl
    exact hinputs ▸ hruns ▸ hi.inputRuns
  widgetKeys := by
    refine h.widgets.nodup Prod.fst (fun r => ⟨rfl, rfl, fun t => rfl⟩) (fun x hx he => ?_) hi.widgetKeys
    obtain ⟨r, hr, rfl⟩ := List.mem_map.mp hx
    exact widgets_owned hd hs hr he

end Halfway

def SiteTable.Moved {ρ κ : Type} {key : ρ → κ} (T : SiteTable key) (newTenantId tenantId siteId : Id)
    (before after : Registry) : Prop :=
  (T.get after).rows = (T.get before).rows.map (T.moved newTenantId tenantId siteId)

lemma SiteTable.Moved.map_scope {ρ κ β : Type} {key : ρ → κ} {T : SiteTable key} {newTenantId tenantId siteId : Id}
    {before after : Registry} (h : T.Moved newTenantId tenantId siteId before after) {col : ρ → Id × β}
    (site : β → Id)
    (hcol : ∀ r, T.tenantId r = some (col r).1 ∧ T.siteId r = some (site (col r).2) ∧
      ∀ t, col (T.withTenant r t) = (t, (col r).2)) :
    (T.get after).rows.map col = ((T.get before).rows.map col).map (shift site newTenantId tenantId siteId) := by
  rw [h, map_moved_scope site hcol]

structure Relocated (newTenantId tenantId siteId : Id) (before after : Registry) : Prop where
  tenants : after.tenants = before.tenants
  sites : after.sites = before.sites
  bootstraps : after.sessionBootstrapIdempotency = before.sessionBootstrapIdempotency
  sessions : browserSessionSites.Moved newTenantId tenantId siteId before after
  commands : commandIdempotencySites.Moved newTenantId tenantId siteId before after
  messages : messageSites.Moved newTenantId tenantId siteId before after
  events : conversationEventSites.Moved newTenantId tenantId siteId before after
  participants : conversationParticipantSites.Moved newTenantId tenantId siteId before after
  runs : agentRunSites.Moved newTenantId tenantId siteId before after
  handoffs : handoffSites.Moved newTenantId tenantId siteId before after
  inputs : structuredInputRequestSites.Moved newTenantId tenantId siteId before after
  conversations : conversationSites.Moved newTenantId tenantId siteId before after
  principals : principalSites.Moved newTenantId tenantId siteId before after
  widgets : siteWidgetSites.Moved newTenantId tenantId siteId before after
  audits : auditEventSites.Moved newTenantId tenantId siteId before after

section MoveSite

variable {config : WidgetProvisioningConfig} {tenantId siteId : Id} {t t' : Open Registry} {u : Unit}

open SiteTable in
lemma moveSite_relocates (h : moveSite config tenantId siteId t = .ok (u, t')) :
    Relocated config.tenant.tenantId tenantId siteId t.db t'.db := by
  obtain ⟨_, _, hdefer, h⟩ := statements_bind.mp h
  obtain rfl := deferConstraints_ok.mp hdefer
  obtain ⟨u1, h1, -, h⟩ := setTenant_bind.mp h
  obtain ⟨u2, h2, -, h⟩ := setTenant_bind.mp h
  obtain ⟨u3, h3, -, h⟩ := setTenant_bind.mp h
  obtain ⟨u4, h4, -, h⟩ := setTenant_bind.mp h
  obtain ⟨u5, h5, -, h⟩ := setTenant_bind.mp h
  obtain ⟨u6, h6, -, h⟩ := setTenant_bind.mp h
  obtain ⟨u7, h7, -, h⟩ := setTenant_bind.mp h
  obtain ⟨u8, h8, -, h⟩ := setTenant_bind.mp h
  obtain ⟨u9, h9, -, h⟩ := setTenant_bind.mp h
  obtain ⟨u10, h10, -, h⟩ := setTenant_bind.mp h
  obtain ⟨u11, h11, -, h⟩ := setTenant_bind.mp h
  obtain ⟨u12, h12, -, rfl⟩ := setTenant_last.mp h
  exact ⟨rfl, rfl, rfl, Table.rewrite_eq_some.mp h1, Table.rewrite_eq_some.mp h2, Table.rewrite_eq_some.mp h3,
    Table.rewrite_eq_some.mp h4, Table.rewrite_eq_some.mp h5, Table.rewrite_eq_some.mp h6,
    Table.rewrite_eq_some.mp h7, Table.rewrite_eq_some.mp h8, Table.rewrite_eq_some.mp h9,
    Table.rewrite_eq_some.mp h10, Table.rewrite_eq_some.mp h11, Table.rewrite_eq_some.mp h12⟩

lemma rewrite_commands {newTenantId : Id} {site : Site} {commands : Table CommandIdempotency.key}
    (h : ∀ r ∈ commands, r.key.siteId = site.siteId → r.key.tenantId = site.tenantId) :
    ∃ v, commands.rewrite (commandIdempotencySites.moved newTenantId site.tenantId site.siteId) = some v := by
  let columns : CommandKey → Id × Id × Id × String × String :=
    fun k => (k.tenantId, k.siteId, k.principalId, k.operation, k.idempotencyKey)
  refine Table.rewrite_of_nodup (List.Nodup.of_map columns ?_)
  have hmap : ((commands.rows.map (commandIdempotencySites.moved newTenantId site.tenantId site.siteId)).map
      (columns ∘ CommandIdempotency.key)) = _ :=
    SiteTable.map_moved_scope Prod.fst (fun r => ⟨rfl, rfl, fun t => rfl⟩) commands.rows
  rw [List.map_map] at hmap ⊢
  refine (congrArg List.Nodup hmap).mpr (shift_nodup ?_ fun x hx he => ?_)
  · exact nodup_of_key commands _ (fun x => ⟨x.1, x.2.1, x.2.2.1, x.2.2.2.1, x.2.2.2.2⟩) fun r => rfl
  · obtain ⟨r, hr, rfl⟩ := List.mem_map.mp hx
    exact h r hr he

open SiteTable in
lemma moveSite_succeeds {site : Site} (hi : Immediate t.db) (hd : Deferrable t.db) (hs : site ∈ t.db.sites)
    (hcommands : ∀ r ∈ t.db.commandIdempotency, r.key.siteId = site.siteId → r.key.tenantId = site.tenantId) :
    ∃ after, moveSite config site.tenantId site.siteId t = .ok ((), ⟨after, true⟩) := by
  have h₀ : Halfway config.tenant.tenantId site.tenantId site.siteId t.db t.db :=
    ⟨rfl, rfl, rfl, Or.inl rfl, Or.inl rfl, Or.inl rfl, Or.inl rfl, Or.inl rfl, Or.inl rfl, Or.inl rfl,
    Or.inl rfl, Or.inl rfl, Or.inl rfl, Or.inl rfl, Or.inl rfl⟩
  obtain ⟨u₁, w₁⟩ := rewrite_moved (T := browserSessionSites) (fun _ _ => rfl) t.db.browserSessions
  let d₁ := browserSessionSites.put t.db u₁
  have h₁ : Halfway config.tenant.tenantId site.tenantId site.siteId t.db d₁ :=
    { h₀ with sessions := Or.inr (Table.rewrite_eq_some.mp w₁) }
  obtain ⟨u₂, w₂⟩ := rewrite_commands hcommands
  let d₂ := commandIdempotencySites.put d₁ u₂
  have h₂ : Halfway config.tenant.tenantId site.tenantId site.siteId t.db d₂ :=
    { h₁ with commands := Or.inr (Table.rewrite_eq_some.mp w₂) }
  obtain ⟨u₃, w₃⟩ := rewrite_moved (T := messageSites) (fun _ _ => rfl) t.db.messages
  let d₃ := messageSites.put d₂ u₃
  have h₃ : Halfway config.tenant.tenantId site.tenantId site.siteId t.db d₃ :=
    { h₂ with messages := Or.inr (Table.rewrite_eq_some.mp w₃) }
  obtain ⟨u₄, w₄⟩ := rewrite_moved (T := conversationEventSites) (fun _ _ => rfl) t.db.conversationEvents
  let d₄ := conversationEventSites.put d₃ u₄
  have h₄ : Halfway config.tenant.tenantId site.tenantId site.siteId t.db d₄ :=
    { h₃ with events := Or.inr (Table.rewrite_eq_some.mp w₄) }
  obtain ⟨u₅, w₅⟩ :=
    rewrite_moved (T := conversationParticipantSites) (fun _ _ => rfl) t.db.conversationParticipants
  let d₅ := conversationParticipantSites.put d₄ u₅
  have h₅ : Halfway config.tenant.tenantId site.tenantId site.siteId t.db d₅ :=
    { h₄ with participants := Or.inr (Table.rewrite_eq_some.mp w₅) }
  obtain ⟨u₆, w₆⟩ := rewrite_moved (T := agentRunSites) (fun _ _ => rfl) t.db.agentRuns
  let d₆ := agentRunSites.put d₅ u₆
  have h₆ : Halfway config.tenant.tenantId site.tenantId site.siteId t.db d₆ :=
    { h₅ with runs := Or.inr (Table.rewrite_eq_some.mp w₆) }
  obtain ⟨u₇, w₇⟩ := rewrite_moved (T := handoffSites) (fun _ _ => rfl) t.db.handoffs
  let d₇ := handoffSites.put d₆ u₇
  have h₇ : Halfway config.tenant.tenantId site.tenantId site.siteId t.db d₇ :=
    { h₆ with handoffs := Or.inr (Table.rewrite_eq_some.mp w₇) }
  obtain ⟨u₈, w₈⟩ := rewrite_moved (T := structuredInputRequestSites) (fun _ _ => rfl) t.db.structuredInputRequests
  let d₈ := structuredInputRequestSites.put d₇ u₈
  have h₈ : Halfway config.tenant.tenantId site.tenantId site.siteId t.db d₈ :=
    { h₇ with inputs := Or.inr (Table.rewrite_eq_some.mp w₈) }
  obtain ⟨u₉, w₉⟩ := rewrite_moved (T := conversationSites) (fun _ _ => rfl) t.db.conversations
  let d₉ := conversationSites.put d₈ u₉
  have h₉ : Halfway config.tenant.tenantId site.tenantId site.siteId t.db d₉ :=
    { h₈ with conversations := Or.inr (Table.rewrite_eq_some.mp w₉) }
  obtain ⟨u₁₀, w₁₀⟩ := rewrite_moved (T := principalSites) (fun _ _ => rfl) t.db.principals
  let d₁₀ := principalSites.put d₉ u₁₀
  have h₁₀ : Halfway config.tenant.tenantId site.tenantId site.siteId t.db d₁₀ :=
    { h₉ with principals := Or.inr (Table.rewrite_eq_some.mp w₁₀) }
  obtain ⟨u₁₁, w₁₁⟩ := rewrite_moved (T := siteWidgetSites) (fun _ _ => rfl) t.db.siteWidgets
  let d₁₁ := siteWidgetSites.put d₁₀ u₁₁
  have h₁₁ : Halfway config.tenant.tenantId site.tenantId site.siteId t.db d₁₁ :=
    { h₁₀ with widgets := Or.inr (Table.rewrite_eq_some.mp w₁₁) }
  obtain ⟨u₁₂, w₁₂⟩ := rewrite_moved (T := auditEventSites) (fun _ _ => rfl) t.db.auditEvents
  let d₁₂ := auditEventSites.put d₁₁ u₁₂
  have h₁₂ : Halfway config.tenant.tenantId site.tenantId site.siteId t.db d₁₂ :=
    { h₁₁ with audits := Or.inr (Table.rewrite_eq_some.mp w₁₂) }
  refine ⟨d₁₂, statements_bind.mpr ⟨(), _, deferConstraints_ok.mpr rfl, ?_⟩⟩
  refine setTenant_bind.mpr ⟨u₁, w₁, due_deferred (h₁.immediate hi hd hs), ?_⟩
  refine setTenant_bind.mpr ⟨u₂, w₂, due_deferred (h₂.immediate hi hd hs), ?_⟩
  refine setTenant_bind.mpr ⟨u₃, w₃, due_deferred (h₃.immediate hi hd hs), ?_⟩
  refine setTenant_bind.mpr ⟨u₄, w₄, due_deferred (h₄.immediate hi hd hs), ?_⟩
  refine setTenant_bind.mpr ⟨u₅, w₅, due_deferred (h₅.immediate hi hd hs), ?_⟩
  refine setTenant_bind.mpr ⟨u₆, w₆, due_deferred (h₆.immediate hi hd hs), ?_⟩
  refine setTenant_bind.mpr ⟨u₇, w₇, due_deferred (h₇.immediate hi hd hs), ?_⟩
  refine setTenant_bind.mpr ⟨u₈, w₈, due_deferred (h₈.immediate hi hd hs), ?_⟩
  refine setTenant_bind.mpr ⟨u₉, w₉, due_deferred (h₉.immediate hi hd hs), ?_⟩
  refine setTenant_bind.mpr ⟨u₁₀, w₁₀, due_deferred (h₁₀.immediate hi hd hs), ?_⟩
  refine setTenant_bind.mpr ⟨u₁₁, w₁₁, due_deferred (h₁₁.immediate hi hd hs), ?_⟩
  exact setTenant_last.mpr ⟨u₁₂, w₁₂, due_deferred (h₁₂.immediate hi hd hs), rfl⟩

end MoveSite

section Upsert

variable {ρ κ : Type} {key : ρ → κ} [DecidableEq κ] {primaryKey : String} {t t' : Table key}
  {p : ρ → Bool} {f : ρ → ρ}
  {hf : ∀ r, key (f r) = key r} {r : ρ}

lemma upsert_ok : upsert primaryKey t p f hf r = .ok t' ↔ (t.rows.any p = true ∧ t' = t.update p f hf) ∨
    (t.rows.any p = false ∧ t.find? (key r) = none ∧ t' = t.insert r) := by
  unfold upsert
  cases hany : t.rows.any p with
  | true => simp [eq_comm]
  | false =>
    cases hfind : t.find? (key r) with
    | some q => simp
    | none => simp [eq_comm]

lemma mem_upsert_selected (h : upsert primaryKey t p f hf r = .ok t') {q : ρ} (hq : q ∈ t') (hp : p q = true) :
    (∃ q' ∈ t, q = f q') ∨ q = r := by
  rcases upsert_ok.mp h with ⟨-, rfl⟩ | ⟨hnone, hfind, rfl⟩
  · obtain ⟨q', hq', rfl⟩ := Table.mem_update.mp hq
    by_cases hpq : p q' = true
    · exact Or.inl ⟨q', hq', if_pos hpq⟩
    · rw [if_neg hpq] at hp
      exact absurd hp hpq
  · rcases (Table.mem_insert_of_absent hfind).mp hq with hq | hq
    · exact absurd (List.any_eq_true.mpr ⟨q, hq, hp⟩) (by simp [hnone])
    · exact Or.inr hq

lemma upsert_succeeds (primaryKey : String) (t : Table key) (hp : ∀ q, p q = decide (key q = key r)) :
    ∃ t', upsert primaryKey t p f hf r = .ok t' ∧ t.rows.map key ⊆ t'.rows.map key ∧ key r ∈ t'.rows.map key := by
  by_cases hany : t.rows.any p = true
  · refine ⟨_, upsert_ok.mpr (Or.inl ⟨hany, rfl⟩), ?_⟩
    have hkeys : (t.update p f hf).rows.map key = t.rows.map key := by
      rw [Table.update_rows, List.map_map]
      refine List.map_congr_left fun q _ => ?_
      rw [Function.comp_apply]
      split
      · exact hf q
      · rfl
    obtain ⟨q, hq, hpq⟩ := List.any_eq_true.mp hany
    rw [hkeys]
    rw [hp, decide_eq_true_eq] at hpq
    exact ⟨List.Subset.refl _, hpq ▸ List.mem_map_of_mem hq⟩
  · have hfind : t.find? (key r) = none := by
      refine Table.find?_eq_none.mpr fun q hq he => hany (List.any_eq_true.mpr ⟨q, hq, ?_⟩)
      rw [hp, decide_eq_true he]
    refine ⟨_, upsert_ok.mpr (Or.inr ⟨Bool.eq_false_iff.mpr hany, hfind, rfl⟩), ?_⟩
    rw [Table.insert_of_absent hfind, List.map_append]
    exact ⟨List.subset_append_left _ _, List.mem_append_right _ (List.mem_singleton.mpr rfl)⟩

lemma storable_ok {texts strings : List Connectors.Text} {u : Unit} : storable texts strings = .ok u ↔
    (∀ s ∈ texts, 0 ∉ s) ∧ ∀ s ∈ strings, 0 ∉ s ∧ Connectors.isWellFormed s = true := by
  have htexts : (texts.any fun s => s.contains 0) = true ↔ ¬ ∀ s ∈ texts, 0 ∉ s := by simp
  have hstrings : (strings.any fun s => s.contains 0 || !Connectors.isWellFormed s) = true ↔
      ¬ ∀ s ∈ strings, 0 ∉ s ∧ Connectors.isWellFormed s = true := by
    simp only [List.any_eq_true, Bool.or_eq_true, List.contains_iff_mem, Bool.not_eq_true', not_forall, not_and_or,
      not_not, Bool.not_eq_true, exists_prop]
  unfold storable
  split
  case isTrue h => exact iff_of_false (fun hn => by cases hn) fun hall => htexts.mp h hall.1
  case isFalse h =>
    split
    case isTrue h' => exact iff_of_false (fun hn => by cases hn) fun hall => hstrings.mp h' hall.2
    case isFalse h' => exact iff_of_true rfl ⟨not_not.mp (mt htexts.mpr h), not_not.mp (mt hstrings.mpr h')⟩

example : storable [[0xD800]] [] = .ok () ∧
    storable [] [[0xD800]] = .error (.error "unsupported Unicode escape sequence") := ⟨rfl, rfl⟩

end Upsert

section Provision

variable {config : WidgetProvisioningConfig} {now currentTimestamp : Timestamp} {db after : Registry}

lemma upsertTenant_ok : upsertTenant config currentTimestamp db = .ok after ↔
    0 ∉ config.tenant.displayName ∧ ∃ tenants,
      upsert "tenants_pkey" db.tenants (fun r => decide (r.tenantId = config.tenant.tenantId))
      (renamedTenant config)
        (renamedTenant_id config)
        ⟨config.tenant.tenantId, Connectors.usvString config.tenant.displayName, currentTimestamp⟩ = .ok tenants ∧
      after = { db with tenants := tenants } := by
  simp only [upsertTenant, bind_eq_ok, pure_eq_ok, storable_ok, List.forall_mem_singleton, List.not_mem_nil,
    false_imp_iff, implies_true, and_true, exists_const, eq_comm (a := after)]

lemma upsertSite_ok : upsertSite config currentTimestamp db = .ok after ↔
    0 ∉ config.site.displayName ∧ ∃ sites,
      upsert "sites_pkey" db.sites (fun r => decide (r.siteKey = config.site.siteKey)) (provisionedSite config)
        (provisionedSite_id config) (newSite config currentTimestamp) = .ok sites ∧
      after = { db with sites := sites } := by
  simp only [upsertSite, bind_eq_ok, pure_eq_ok, storable_ok, List.forall_mem_singleton, List.not_mem_nil,
    false_imp_iff, implies_true, and_true, exists_const, eq_comm (a := after)]

lemma upsertWidget_ok : upsertWidget config now currentTimestamp db = .ok after ↔
    (0 ∉ config.widget.displayName ∧
      ∀ a ∈ config.widget.agentAliases, 0 ∉ a.label ∧ Connectors.isWellFormed a.label = true) ∧ ∃ widgets,
      upsert "site_widgets_pkey" db.siteWidgets (fun r => decide (r.widgetId = config.widget.widgetId))
        (provisionedWidget config now) (provisionedWidget_id config now) (newWidget config currentTimestamp) =
          .ok widgets ∧
      after = { db with siteWidgets := widgets } := by
  simp only [upsertWidget, bind_eq_ok, pure_eq_ok, storable_ok, List.forall_mem_singleton, List.forall_mem_map,
    exists_const, eq_comm (a := after)]

lemma provision_ok {t : Open Registry} {u : Unit}
    (h : provision config now currentTimestamp ⟨db, false⟩ = .ok (u, t)) :
    ∃ tenants d sites widgets,
      moveExisting config (siteOfKey config.site.siteKey db)
      ⟨{ db with tenants := tenants }, false⟩ = .ok ((), d) ∧
      upsert "sites_pkey" d.db.sites (fun r => decide (r.siteKey = config.site.siteKey)) (provisionedSite config)
        (provisionedSite_id config) (newSite config currentTimestamp) = .ok sites ∧
      upsert "site_widgets_pkey" d.db.siteWidgets (fun r => decide (r.widgetId = config.widget.widgetId))
        (provisionedWidget config now) (provisionedWidget_id config now) (newWidget config currentTimestamp) =
          .ok widgets ∧
      t.db = { d.db with sites := sites, siteWidgets := widgets } := by
  obtain ⟨_, _, htenant, h⟩ := statements_bind.mp h
  obtain ⟨_, hf, -, rfl⟩ := execute_ok.mp htenant
  obtain ⟨-, tenants, -, rfl⟩ := upsertTenant_ok.mp hf
  obtain ⟨_, _, hselect, h⟩ := statements_bind.mp h
  obtain ⟨rfl, rfl⟩ := select_ok.mp hselect
  obtain ⟨_, d, hmove, h⟩ := statements_bind.mp h
  obtain ⟨_, _, hsite, h⟩ := statements_bind.mp h
  obtain ⟨_, hg, -, rfl⟩ := execute_ok.mp hsite
  obtain ⟨-, sites, hsites, rfl⟩ := upsertSite_ok.mp hg
  obtain ⟨_, hk, -, rfl⟩ := execute_ok.mp h
  obtain ⟨-, widgets, hwidgets, rfl⟩ := upsertWidget_ok.mp hk
  exact ⟨tenants, d, sites, widgets, hmove, hsites, hwidgets, rfl⟩

lemma provisionWidgetRegistry_ok {web : Web} {input : Value} {c : WidgetProvisioningConfig}
    (h : provisionWidgetRegistry web input now currentTimestamp db = (.ok c, after)) :
    parseWidgetProvisioningConfig web input = .ok c ∧
      ∃ t, provision c now currentTimestamp ⟨db, false⟩ = .ok ((), t) ∧ t.db = after ∧
      Consistent constraints after := by
  unfold provisionWidgetRegistry at h
  split at h
  · cases h
  case h_2 config hparse =>
    split at h
    case h_1 u db' htransact =>
      cases h
      exact ⟨hparse, transact_ok.mp htransact⟩
    · cases h

lemma provisionWidgetRegistry_error {web : Web} {input : Value} {e : ServerError}
    (h : provisionWidgetRegistry web input now currentTimestamp db = (.error e, after)) : after = db := by
  unfold provisionWidgetRegistry at h
  split at h
  · cases h
    rfl
  · split at h
    · cases h
    case h_2 e' db' htransact =>
      cases h
      exact transact_error htransact

lemma siteOfKey_eq_some (h : Immediate db) {siteKey : Id} {site : Site} :
    siteOfKey siteKey db = some site ↔ site ∈ db.sites ∧ site.siteKey = siteKey := by
  constructor
  · intro hf
    exact ⟨List.mem_of_find?_eq_some hf, by simpa using List.find?_some hf⟩
  · rintro ⟨hs, rfl⟩
    cases hf : siteOfKey site.siteKey db with
    | none => exact absurd (List.find?_eq_none.mp hf site hs) (by simp)
    | some r =>
      have hk : r.siteKey = site.siteKey := by simpa using List.find?_some hf
      rw [List.inj_on_of_nodup_map h.siteKeys (List.mem_of_find?_eq_some hf) hs hk]

lemma mem_upsert {ρ κ : Type} {key : ρ → κ} [DecidableEq κ] {primaryKey : String} {t t' : Table key} {p : ρ → Bool}
    {f : ρ → ρ} {hf : ∀ r, key (f r) = key r} {r q : ρ} (h : upsert primaryKey t p f hf r = .ok t')
    (hq : p q = false)
    (hr : p r = true) (hp : ∀ q, p (f q) = p q) : q ∈ t' ↔ q ∈ t := by
  rcases upsert_ok.mp h with ⟨-, rfl⟩ | ⟨-, hfind, rfl⟩
  · rw [Table.mem_update]
    constructor
    · rintro ⟨q', hq', rfl⟩
      by_cases hpq : p q' = true
      · rw [if_pos hpq, hp, hpq] at hq
        exact absurd hq (by decide)
      · rwa [if_neg hpq]
    · intro hm
      exact ⟨q, hm, by rw [hq]; rfl⟩
  · rw [Table.mem_insert_of_absent hfind]
    refine or_iff_left ?_
    rintro rfl
    rw [hr] at hq
    exact absurd hq (by decide)

end Provision

/-- The names can be stored as text, and the labels in `jsonb`. -/
structure Storable (config : WidgetProvisioningConfig) : Prop where
  names : ∀ s ∈ [config.tenant.displayName, config.site.displayName, config.widget.displayName], 0 ∉ s
  labels : ∀ a ∈ config.widget.agentAliases, 0 ∉ a.label ∧ Connectors.isWellFormed a.label = true

section Success

variable {config : WidgetProvisioningConfig} {now currentTimestamp : Timestamp} {db d : Registry} {site : Site}
  {tenants : Table Tenant.tenantId} {sites : Table Site.siteId} {widgets : Table SiteWidget.widgetId}

lemma Relocated.halfway {newTenantId tenantId siteId : Id} (h : Relocated newTenantId tenantId siteId db d) :
    Halfway newTenantId tenantId siteId db d :=
  ⟨h.tenants, h.sites, h.bootstraps, Or.inr h.sessions, Or.inr h.commands, Or.inr h.messages, Or.inr h.events,
    Or.inr h.participants, Or.inr h.runs, Or.inr h.handoffs, Or.inr h.inputs, Or.inr h.conversations,
    Or.inr h.principals, Or.inr h.widgets, Or.inr h.audits⟩

lemma Immediate.withTenants (h : Immediate db)
    (ht : db.tenants.rows.map Tenant.tenantId ⊆ tenants.rows.map Tenant.tenantId) :
    Immediate { db with tenants := tenants } :=
  { h with siteTenants := List.Subset.trans h.siteTenants ht }

def registered (config : WidgetProvisioningConfig) (d : Registry) : Registry :=
  { d with
    sites := d.sites.update (fun r => decide (r.siteKey = config.site.siteKey)) (provisionedSite config)
      (provisionedSite_id config) }

lemma registered_rows : (registered config d).sites.rows =
    d.sites.rows.map fun r => if r.siteKey = config.site.siteKey then provisionedSite config r else r := by
  simp [registered]

lemma registered_map {ξ : Type} {col : Site → ξ} (h : ∀ r, col (provisionedSite config r) = col r) :
    (registered config d).sites.rows.map col = d.sites.rows.map col := by
  rw [registered_rows, List.map_map]
  refine List.map_congr_left fun r _ => ?_
  rw [Function.comp_apply]
  split
  · exact h r
  · rfl

lemma Immediate.registered (h : Immediate d) (hn : config.tenant.tenantId ∈ d.tenants.rows.map Tenant.tenantId) :
    Immediate (registered config d) :=
  { h with
    siteKeys := by
      rw [registered_map fun r => rfl]
      exact h.siteKeys
    siteTenants := by
      intro x hx
      obtain ⟨r, hr, rfl⟩ := List.mem_map.mp hx
      rw [registered_rows] at hr
      obtain ⟨q, hq, rfl⟩ := List.mem_map.mp hr
      split
      · exact hn
      · exact h.siteTenants (List.mem_map_of_mem hq)
    siteScopes := nodup_of_key _ _ Prod.snd fun r => rfl
    bootstrapSites := by
      rw [registered_map fun r => rfl]
      exact h.bootstrapSites }

lemma Immediate.withWidget (h : Immediate d)
    (hw : upsert "site_widgets_pkey" d.siteWidgets (fun r => decide (r.widgetId = config.widget.widgetId))
      (provisionedWidget config now) (provisionedWidget_id config now)
      (newWidget config currentTimestamp) = .ok widgets)
    (hfree : ∀ w ∈ d.siteWidgets, w.siteId = config.site.siteId → w.widgetKey = config.widget.widgetKey →
      w.widgetId = config.widget.widgetId) : Immediate { d with siteWidgets := widgets } := by
  have hold : ∀ w ∈ widgets, w.widgetId ≠ config.widget.widgetId → w ∈ d.siteWidgets := fun w hm hne =>
    (mem_upsert hw (decide_eq_false hne) (decide_eq_true rfl) fun q => rfl).mp hm
  have hnew : ∀ w ∈ widgets, w.widgetId = config.widget.widgetId →
      w.siteId = config.site.siteId ∧ w.widgetKey = config.widget.widgetKey := by
    intro w hm he
    rcases mem_upsert_selected hw hm (decide_eq_true he) with ⟨q, -, rfl⟩ | rfl
    · exact ⟨rfl, rfl⟩
    · exact ⟨rfl, rfl⟩
  have hother : ∀ v ∈ widgets, v.widgetId = config.widget.widgetId → ∀ w ∈ widgets,
      (v.tenantId, v.siteId, v.widgetKey) = (w.tenantId, w.siteId, w.widgetKey) →
      w.widgetId = config.widget.widgetId := by
    intro v hv hvid w hm he
    by_contra hne
    simp only [Prod.mk.injEq] at he
    obtain ⟨hsite, hkey⟩ := hnew v hv hvid
    exact hne (hfree w (hold w hm hne) (he.2.1.symm.trans hsite) (he.2.2.symm.trans hkey))
  refine { h with widgetKeys := List.Nodup.map_on (fun v hv w hm he => ?_) widgets.keys_nodup.of_map }
  by_cases hvid : v.widgetId = config.widget.widgetId
  · exact Table.key_injective hv hm (hvid.trans (hother v hv hvid w hm he).symm)
  · have hwid : w.widgetId ≠ config.widget.widgetId := fun hwid => hvid (hother w hm hwid v hv he.symm)
    exact List.inj_on_of_nodup_map h.widgetKeys (hold v hv hvid) (hold w hm hwid) he

lemma siteScopes_registered (hi : Immediate db) (hs : site ∈ db.sites) (hk : site.siteKey = config.site.siteKey)
    (hd : d.sites = db.sites) : siteScopes (registered config d) =
      (siteScopes db).map (shift id config.tenant.tenantId site.tenantId site.siteId) := by
  rw [siteScopes, registered_rows, siteScopes, List.map_map, List.map_map, hd]
  refine List.map_congr_left fun r hr => ?_
  simp only [Function.comp_apply, shift, id_eq]
  by_cases hrk : r.siteKey = config.site.siteKey
  · obtain rfl : r = site := List.inj_on_of_nodup_map hi.siteKeys hr hs (hrk.trans hk.symm)
    rw [if_pos hrk, if_pos ⟨rfl, rfl⟩]
    rfl
  · have hne : r.siteId ≠ site.siteId := fun he => hrk ((Table.key_injective hr hs he) ▸ hk)
    rw [if_neg hrk, if_neg fun h => hne h.2]

lemma deferrable_moved (hi : Immediate db) (hd : Deferrable db) (hs : site ∈ db.sites)
    (hk : site.siteKey = config.site.siteKey) (hid : config.site.siteId = site.siteId)
    (hr : Relocated config.tenant.tenantId site.tenantId site.siteId { db with tenants := tenants } d)
    (hw : upsert "site_widgets_pkey" d.siteWidgets (fun r => decide (r.widgetId = config.widget.widgetId))
      (provisionedWidget config now) (provisionedWidget_id config now) (newWidget config currentTimestamp) =
        .ok widgets) :
    Deferrable { registered config d with siteWidgets := widgets } := by
  have hscopes := siteScopes_registered hi hs hk hr.sites
  have hprincipals : principalScopes d = _ := hr.principals.map_scope Prod.fst fun r => ⟨rfl, rfl, fun t => rfl⟩
  have hconversations : conversationScopes d = _ := hr.conversations.map_scope Prod.fst fun r =>
    ⟨rfl, rfl, fun t => rfl⟩
  have hparticipants : participantScopes d = _ := hr.participants.map_scope Prod.fst fun r =>
    ⟨rfl, rfl, fun t => rfl⟩
  exact {
    widgets := by
      intro x hx
      obtain ⟨w, hm, rfl⟩ := List.mem_map.mp hx
      by_cases hwid : w.widgetId = config.widget.widgetId
      · have hwhere : (w.tenantId, w.siteId) = (config.tenant.tenantId, config.site.siteId) := by
          rcases mem_upsert_selected hw hm (decide_eq_true hwid) with ⟨q, -, rfl⟩ | rfl <;> rfl
        refine List.mem_map.mpr ⟨provisionedSite config site, ?_, (hwhere.trans (by rw [hid]; rfl)).symm⟩
        change _ ∈ (registered config d).sites.rows
        rw [registered_rows, hr.sites]
        exact List.mem_map.mpr ⟨site, hs, if_pos hk⟩
      · have hold := (mem_upsert hw (decide_eq_false hwid) (decide_eq_true rfl) fun q => rfl).mp hm
        have hrows : (d.siteWidgets.rows.map fun r => (r.tenantId, r.siteId)) = _ :=
          hr.widgets.map_scope id fun r => ⟨rfl, rfl, fun t => rfl⟩
        exact subset_of_shift hd.widgets hrows hscopes (List.mem_map_of_mem hold)
    principals := by
      have hrows : (d.principals.rows.map fun r => (r.tenantId, r.siteId)) = _ :=
        hr.principals.map_scope id fun r => ⟨rfl, rfl, fun t => rfl⟩
      exact subset_of_shift hd.principals hrows hscopes
    sessions := subset_of_shift hd.sessions
      (hr.sessions.map_scope Prod.fst fun r => ⟨rfl, rfl, fun t => rfl⟩) hprincipals
    conversations :=
      subset_of_shift hd.conversations
        (hr.conversations.map_scope Prod.fst fun r => ⟨rfl, rfl, fun t => rfl⟩) hprincipals
    participants :=
      subset_of_shift hd.participants (hr.participants.map_scope Prod.fst fun r => ⟨rfl, rfl, fun t => rfl⟩)
        hconversations
    messages := subset_of_shift hd.messages
      (hr.messages.map_scope Prod.fst fun r => ⟨rfl, rfl, fun t => rfl⟩) hparticipants
    events := subset_of_shift hd.events (hr.events.map_scope Prod.fst fun r => ⟨rfl, rfl, fun t => rfl⟩)
      hconversations
    runs := subset_of_shift hd.runs (hr.runs.map_scope Prod.fst fun r => ⟨rfl, rfl, fun t => rfl⟩) hconversations }

lemma provision_succeeds (hdb : Consistent constraints db) (hs : site ∈ db.sites)
    (hk : site.siteKey = config.site.siteKey) (htenant : site.tenantId ≠ config.tenant.tenantId)
    (hid : config.site.siteId = site.siteId)
    (hfree : ∀ w ∈ db.siteWidgets, w.siteId = site.siteId → w.widgetKey = config.widget.widgetKey →
      w.widgetId = config.widget.widgetId)
    (hcommands : ∀ r ∈ db.commandIdempotency, r.key.siteId = site.siteId → r.key.tenantId = site.tenantId)
    (hstorable : Storable config) :
    ∃ t, provision config now currentTimestamp ⟨db, false⟩ = .ok ((), t) ∧ Consistent constraints t.db := by
  obtain ⟨hi, hd⟩ := consistent_iff.mp hdb
  obtain ⟨htenantName, hsiteName, hwidgetName, -⟩ :
      0 ∉ config.tenant.displayName ∧ 0 ∉ config.site.displayName ∧ 0 ∉ config.widget.displayName ∧ _ := by
    simpa only [List.forall_mem_cons] using hstorable.names
  obtain ⟨tenants, htenants, hsubset, hn⟩ : ∃ tenants, upsert "tenants_pkey" db.tenants
      (fun r => decide (r.tenantId = config.tenant.tenantId)) (renamedTenant config) (renamedTenant_id config)
      ⟨config.tenant.tenantId, Connectors.usvString config.tenant.displayName, currentTimestamp⟩ =
        .ok tenants ∧ _ :=
    upsert_succeeds "tenants_pkey" db.tenants fun q => rfl
  have hi₀ : Immediate { db with tenants := tenants } := hi.withTenants hsubset
  have hd₀ : Deferrable { db with tenants := tenants } := { hd with }
  obtain ⟨d, hmove⟩ : ∃ d, moveSite config site.tenantId site.siteId ⟨{ db with tenants := tenants }, false⟩ =
      .ok ((), ⟨d, true⟩) := moveSite_succeeds hi₀ hd₀ hs hcommands
  have hr := moveSite_relocates hmove
  have hi₁ : Immediate d := hr.halfway.immediate hi₀ hd₀ hs
  have hi₂ : Immediate (registered config d) := hi₁.registered (by rw [hr.tenants]; exact hn)
  have hany : (d.sites.rows.any fun r => decide (r.siteKey = config.site.siteKey)) = true := by
    rw [hr.sites]
    exact List.any_eq_true.mpr ⟨site, hs, decide_eq_true hk⟩
  obtain ⟨widgets, hwidgets, -⟩ : ∃ widgets, upsert "site_widgets_pkey" d.siteWidgets
      (fun r => decide (r.widgetId = config.widget.widgetId)) (provisionedWidget config now)
      (provisionedWidget_id config now) (newWidget config currentTimestamp) = .ok widgets ∧ _ :=
    upsert_succeeds "site_widgets_pkey" d.siteWidgets fun q => rfl
  have hi₃ : Immediate { registered config d with siteWidgets := widgets } := by
    refine hi₂.withWidget hwidgets fun w hw hws hwk => ?_
    have hrows : d.siteWidgets.rows = db.siteWidgets.rows.map _ := hr.widgets
    change w ∈ d.siteWidgets.rows at hw
    rw [hrows] at hw
    obtain ⟨q, hq, rfl⟩ := List.mem_map.mp hw
    have hmoved : ∀ r,
      (siteWidgetSites.moved config.tenant.tenantId site.tenantId site.siteId r).siteId = r.siteId ∧
        (siteWidgetSites.moved config.tenant.tenantId site.tenantId site.siteId r).widgetKey = r.widgetKey ∧
        (siteWidgetSites.moved config.tenant.tenantId site.tenantId site.siteId r).widgetId = r.widgetId := by
      intro r
      unfold SiteTable.moved
      split <;> exact ⟨rfl, rfl, rfl⟩
    obtain ⟨h₁, h₂, h₃⟩ := hmoved q
    rw [h₃]
    exact hfree q hq (h₁.symm.trans (hws.trans hid)) (h₂.symm.trans hwk)
  have hfinal : Consistent constraints { registered config d with siteWidgets := widgets } :=
    consistent_iff.mpr ⟨hi₃, deferrable_moved hi hd hs hk hid hr hwidgets⟩
  refine ⟨⟨{ registered config d with siteWidgets := widgets }, true⟩, ?_, hfinal⟩
  refine statements_bind.mpr ⟨(), ⟨{ db with tenants := tenants }, false⟩, execute_ok.mpr ⟨_, ?_, ?_, rfl⟩, ?_⟩
  · exact upsertTenant_ok.mpr ⟨htenantName, tenants, htenants, rfl⟩
  · exact fun c hc _ => consistent_iff.mpr ⟨hi₀, hd₀⟩ c hc
  refine statements_bind.mpr ⟨_, _, select_ok.mpr ⟨rfl, rfl⟩, ?_⟩
  refine statements_bind.mpr ⟨(), ⟨d, true⟩, ?_, ?_⟩
  · rw [(siteOfKey_eq_some hi₀).mpr ⟨hs, hk⟩, moveExisting, if_pos htenant]
    exact hmove
  refine statements_bind.mpr ⟨(), ⟨registered config d, true⟩, execute_ok.mpr ⟨_, ?_, due_deferred hi₂, rfl⟩, ?_⟩
  · exact upsertSite_ok.mpr ⟨hsiteName, _, upsert_ok.mpr (Or.inl ⟨hany, rfl⟩), rfl⟩
  refine execute_ok.mpr ⟨_, ?_, due_deferred hi₃, rfl⟩
  exact upsertWidget_ok.mpr ⟨⟨hwidgetName, hstorable.labels⟩, widgets, hwidgets, rfl⟩

end Success

/-- The rows of the site have moved to the config's tenant, and nothing else has changed but the
registry's row of the site and the provisioned widget. -/
structure SiteMoved (config : WidgetProvisioningConfig) (site : Site) (before after : Registry) : Prop where
  sessions : browserSessionSites.Moved config.tenant.tenantId site.tenantId site.siteId before after
  commands : commandIdempotencySites.Moved config.tenant.tenantId site.tenantId site.siteId before after
  messages : messageSites.Moved config.tenant.tenantId site.tenantId site.siteId before after
  events : conversationEventSites.Moved config.tenant.tenantId site.tenantId site.siteId before after
  participants : conversationParticipantSites.Moved config.tenant.tenantId site.tenantId site.siteId before after
  runs : agentRunSites.Moved config.tenant.tenantId site.tenantId site.siteId before after
  handoffs : handoffSites.Moved config.tenant.tenantId site.tenantId site.siteId before after
  inputs : structuredInputRequestSites.Moved config.tenant.tenantId site.tenantId site.siteId before after
  conversations : conversationSites.Moved config.tenant.tenantId site.tenantId site.siteId before after
  principals : principalSites.Moved config.tenant.tenantId site.tenantId site.siteId before after
  audits : auditEventSites.Moved config.tenant.tenantId site.tenantId site.siteId before after
  widgets : ∀ r, r.widgetId ≠ config.widget.widgetId → (r ∈ after.siteWidgets ↔
    ∃ q ∈ before.siteWidgets, siteWidgetSites.moved config.tenant.tenantId site.tenantId site.siteId q = r)
  sites : ∀ r, r.siteKey ≠ config.site.siteKey → (r ∈ after.sites ↔ r ∈ before.sites)
  site : provisionedSite config site ∈ after.sites
  bootstraps : after.sessionBootstrapIdempotency = before.sessionBootstrapIdempotency

section Moves

variable {web : Web} {input : Value} {config : WidgetProvisioningConfig} {now currentTimestamp : Timestamp}
  {db after : Registry} {site : Site}

lemma provision_moves (hdb : Consistent constraints db) (hsite : site ∈ db.sites)
    (hkey : site.siteKey = config.site.siteKey) (htenant : site.tenantId ≠ config.tenant.tenantId)
    {t : Open Registry}
    {u : Unit} (h : provision config now currentTimestamp ⟨db, false⟩ = .ok (u, t)) :
    SiteMoved config site db t.db := by
  obtain ⟨tenants, d, sites, widgets, hmove, hsites, hwidgets, hdb'⟩ := provision_ok h
  rw [(siteOfKey_eq_some (consistent_iff.mp hdb).1).mpr ⟨hsite, hkey⟩, moveExisting, if_pos htenant] at hmove
  have hr := moveSite_relocates hmove
  rw [hdb']
  refine ⟨hr.sessions, hr.commands, hr.messages, hr.events, hr.participants, hr.runs, hr.handoffs, hr.inputs,
    hr.conversations, hr.principals, hr.audits, fun r hid => ?_, fun r hk => ?_, ?_, hr.bootstraps⟩
  · have hmem := mem_upsert (q := r) hwidgets (decide_eq_false hid) (decide_eq_true rfl) fun q => rfl
    have hrows : d.db.siteWidgets.rows = db.siteWidgets.rows.map _ := hr.widgets
    refine hmem.trans ?_
    rw [← Table.mem_rows, hrows, List.mem_map]
    rfl
  · have hmem := mem_upsert (q := r) hsites (decide_eq_false hk) (decide_eq_true rfl) fun q => rfl
    exact hmem.trans (by rw [hr.sites])
  · have hold : site ∈ d.db.sites := hr.sites ▸ hsite
    have hany : (d.db.sites.rows.any fun r => decide (r.siteKey = config.site.siteKey)) = true :=
      List.any_eq_true.mpr ⟨site, hold, decide_eq_true hkey⟩
    rcases upsert_ok.mp hsites with ⟨-, rfl⟩ | ⟨hnone, -, -⟩
    · change _ ∈ Table.update _ _ _ (provisionedSite_id config)
      refine Table.mem_update.mpr ⟨site, hold, ?_⟩
      rw [if_pos (decide_eq_true hkey)]
    · rw [hnone] at hany
      exact absurd hany (by decide)

variable (now currentTimestamp) in
theorem site_moves_whole (hparse : parseWidgetProvisioningConfig web input = .ok config)
    (hdb : Consistent constraints db) (hsite : site ∈ db.sites) (hkey : site.siteKey = config.site.siteKey)
    (htenant : site.tenantId ≠ config.tenant.tenantId) :
    (∀ c after, provisionWidgetRegistry web input now currentTimestamp db = (.ok c, after) →
      SiteMoved config site db after ∧ Consistent constraints after) ∧
    (∀ e after, provisionWidgetRegistry web input now currentTimestamp db = (.error e, after) → after = db) ∧
    (config.site.siteId = site.siteId →
      (∀ w ∈ db.siteWidgets, w.siteId = site.siteId → w.widgetKey = config.widget.widgetKey →
        w.widgetId = config.widget.widgetId) →
      (∀ r ∈ db.commandIdempotency, r.key.siteId = site.siteId → r.key.tenantId = site.tenantId) →
      Storable config →
      ∃ after, provisionWidgetRegistry web input now currentTimestamp db = (.ok config, after)) := by
  refine ⟨fun c after h => ?_, fun e after h => provisionWidgetRegistry_error h,
    fun hid hfree hcommands hstorable => ?_⟩
  · obtain ⟨hc, t, hrun, rfl, hafter⟩ := provisionWidgetRegistry_ok h
    obtain rfl : config = c := by
      rw [hparse] at hc
      exact Except.ok.inj hc
    exact ⟨provision_moves hdb hsite hkey htenant hrun, hafter⟩
  · obtain ⟨t, hrun, hafter⟩ : ∃ t, provision config now currentTimestamp ⟨db, false⟩ = .ok ((), t) ∧
        Consistent constraints t.db := provision_succeeds hdb hsite hkey htenant hid hfree hcommands hstorable
    refine ⟨t.db, ?_⟩
    rw [provisionWidgetRegistry, hparse]
    simp only [transact_ok.mpr ⟨t, hrun, rfl, hafter⟩]

end Moves

section Scenario

open Connectors (Text text)

def web : Web where
  newURL s := if s = "https://shop.test" then some ⟨"https:", s⟩ else none
  newURL_empty := if_neg (by decide)

def configFor (displayName : Text) : Value := .record [
  ("tenant", .record [("tenantId", .string (text "buyer")), ("displayName", .string displayName)]),
  ("site", .record
    [("siteId", .string (text "site")), ("siteKey", .string (text "shop")), ("displayName", .string (text "Shop")),
    ("allowedOrigins", .array [.string (text "https://shop.test")])]),
  ("widget", .record [("widgetId", .string (text "widget")), ("widgetKey", .string (text "main")),
    ("displayName", .string (text "Chat")),
    ("version", .string (text "1")), ("theme", .string (text "earth")), ("launcher", .string (text "agent")),
    ("placement", .string (text "right")), ("defaultAgentAlias", .string (text "support")),
      ("agentAliases", .array [.record [
      ("alias", .string (text "support")), ("label", .string (text "Support")),
        ("agentRef", .string (text "agent"))]])])]

def configOf (displayName : Text) : WidgetProvisioningConfig where
  tenant := ⟨"buyer", displayName⟩
  site := ⟨"site", "shop", text "Shop", ["https://shop.test"]⟩
  agentRef := "agent"
  widget := ⟨"widget", "main", text "Chat", "1", "earth", "agent", "right", "support",
    [⟨"support", text "Support", "agent", false⟩]⟩

def shop : Site := ⟨"site", "seller", "shop", "Shop", ["https://shop.test"], "agent", 0⟩

def visited : Registry where
  toTables := { unused ((∅ : Table Principal.principalId).insert ⟨"visitor", "seller", "site", "browser", 0⟩)
      ((∅ : Table BrowserSession.sessionId).insert ⟨"session", "seller", "site", "visitor", 0⟩) ∅ with
    conversations := (∅ : Table Conversation.conversationId).insert
      ⟨"conversation", "seller", "site", "visitor", "agent", .active, 1, 1, 0, 0⟩ }
  tenants := (∅ : Table Tenant.tenantId).insert ⟨"seller", "Seller", 0⟩
  sites := (∅ : Table Site.siteId).insert shop
  siteWidgets := ∅
  auditEvents := ∅

theorem visited_site_moves : ∃ after, provisionWidgetRegistry web (configFor (text "Buyer")) 0 0 visited =
    (.ok (configOf (text "Buyer")), after) ∧ SiteMoved (configOf (text "Buyer")) shop visited after := by
  have hparse : parseWidgetProvisioningConfig web (configFor (text "Buyer")) =
    .ok (configOf (text "Buyer")) := by rfl
  have hdb : Consistent constraints visited := by decide +kernel
  have hsite : shop ∈ visited.sites := List.mem_singleton.mpr rfl
  have hmoves := site_moves_whole 0 0 hparse hdb hsite rfl (by decide)
  obtain ⟨after, hafter⟩ :=
    hmoves.2.2 rfl (fun w hw => absurd hw List.not_mem_nil) (fun r hr => absurd hr List.not_mem_nil)
    ⟨by decide +kernel, by decide +kernel⟩
  exact ⟨after, hafter, (hmoves.1 _ after hafter).1⟩

/-- PostgreSQL stores no text with a NUL character, which `displayText` accepts. -/
theorem unstorable_name_fails :
    parseWidgetProvisioningConfig web (configFor (text "\x00")) = .ok (configOf (text "\x00")) ∧
    Consistent constraints visited ∧ shop ∈ visited.sites ∧ shop.siteKey = (configOf (text "\x00")).site.siteKey ∧
    shop.tenantId ≠ (configOf (text "\x00")).tenant.tenantId ∧ (configOf (text "\x00")).site.siteId = shop.siteId ∧
    visited.siteWidgets.rows = [] ∧ visited.commandIdempotency.rows = [] ∧
    (provisionWidgetRegistry web (configFor (text "\x00")) 0 0 visited).1 =
      .error (.error "invalid byte sequence for encoding \"UTF8\": 0x00") := by
  exact ⟨by rfl, by decide +kernel, List.mem_singleton.mpr rfl, rfl, by decide, rfl, rfl, rfl, by rfl⟩

end Scenario

end ChatCore.Provisioning
