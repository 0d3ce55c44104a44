import ChatCore.Provisioning.Moves

namespace ChatCore.Provisioning

open Protocol Relational Database Services

def normalizeOrigin (web : Web) (value : String) : Option String :=
  (web.newURL value).bind fun url => if url.protocol = "http:" ∨
    url.protocol = "https:" then some url.origin else none

def Site.listed (s : Site) : SessionService.Site := ⟨s.siteId, s.tenantId, s.siteKey, s.allowedOrigins, s.agentRef⟩

def SiteWidget.listed (w : SiteWidget) : SessionService.SiteWidget :=
  ⟨w.tenantId, w.siteId, w.widgetKey, w.defaultAgentAlias, w.agentAliases.map fun a => ⟨a.agentAlias, a.agentRef⟩⟩

def directory (db : Registry) : SessionService.Directory where
  sites := db.sites.rows.map Site.listed
  widgets := db.siteWidgets.rows.map SiteWidget.listed

section Bootstrap

variable (platform : Platform) (issuer : SessionService.Issuer) (normalized : String → Option String)
  (directory : SessionService.Directory)

def admits (site : SessionService.Site) (origin : String) : Bool :=
  ((normalized origin).bind present).any fun origin =>
    !site.allowedOrigins.all fun candidate => decide (normalized candidate ≠ some origin)

def agentIn (site : SessionService.Site) (widgetKey agentAlias : Option Id) : Except ServerError Id :=
  match widgetKey.bind present with
  | none =>
      if (agentAlias.bind present).isSome then .error SessionService.agentAliasNotAllowed else .ok site.agentRef
  | some widgetKey =>
      match directory.widgets.find?
        (fun w => decide (w.tenantId = site.tenantId) && decide (w.siteId = site.siteId) &&
          decide (w.widgetKey = widgetKey)) with
      | none => .error SessionService.widgetNotFound
      | some widget =>
          match widget.agentAliases.find?
            (fun a => decide (a.agentAlias = agentAlias.getD widget.defaultAgentAlias)) with
          | none => .error SessionService.agentAliasNotAllowed
          | some found => .ok found.agentRef

def resolution (siteKey : Id) (widgetKey agentAlias : Option Id) (origin : String) :
    Except ServerError (SessionService.Site × Id) :=
  match directory.sites.find? fun s => decide (s.siteKey = siteKey) with
  | none => .error SessionService.siteNotFound
  | some site =>
      if admits normalized site origin then (agentIn directory site widgetKey agentAlias).map fun agentRef =>
        (site, agentRef)
      else .error SessionService.originNotAllowed

lemma resolveAgentRef_eq (site : SessionService.Site) (widgetKey agentAlias : Option Id) :
    SessionService.resolveAgentRef directory site widgetKey agentAlias =
      match agentIn directory site widgetKey agentAlias with
      | .error e => .throw e
      | .ok agentRef => pure agentRef := by
  unfold SessionService.resolveAgentRef agentIn
  cases widgetKey.bind present with
  | none => cases (agentAlias.bind present).isSome <;> rfl
  | some widgetKey =>
    dsimp only
    cases directory.widgets.find? fun w => decide (w.tenantId = site.tenantId) &&
      decide (w.siteId = site.siteId) &&
        decide (w.widgetKey = widgetKey) with
    | none => rfl
    | some widget =>
      dsimp only
      cases widget.agentAliases.find? fun a =>
        decide (a.agentAlias = agentAlias.getD widget.defaultAgentAlias) <;> rfl

lemma bootstrapAnonymous_eq (request : SessionService.AnonymousBootstrapRequest)
    (context : SessionService.BootstrapContext) (ids : SessionService.BootstrapIds)
    (now currentTimestamp : Timestamp) :
    SessionService.bootstrapAnonymous platform issuer directory request context ids now currentTimestamp =
      match resolution issuer.normalizeOrigin directory request.siteKey request.widgetKey request.agentAlias
      context.origin with
      | .error e => .throw e
      | .ok (site, agentRef) => do
          let (principalId, sessionId, browserIdentity) ← Program.transaction
            (SessionService.identify platform issuer site request context.idempotencyKey ids now currentTimestamp)
          let claims := SessionService.issue issuer site.tenantId site.siteId agentRef principalId sessionId now
          return {
            accessToken := issuer.sign claims
            expiresAt := claims.expiresAt
            tenantId := site.tenantId
            siteId := site.siteId
            agentRef := agentRef
            principalId := principalId
            sessionId := sessionId
            browserIdentity := browserIdentity } := by
  unfold SessionService.bootstrapAnonymous resolution admits
  cases directory.sites.find? fun s => decide (s.siteKey = request.siteKey) with
  | none => rfl
  | some site =>
    dsimp only
    cases (issuer.normalizeOrigin context.origin).bind present with
    | none => rfl
    | some origin =>
      simp only [Option.any_some]
      by_cases hall :
          (site.allowedOrigins.all fun candidate => decide (issuer.normalizeOrigin candidate ≠ some origin)) = true
      · simp only [hall, if_true, Bool.not_true, Bool.false_eq_true, if_false]
        rfl
      · simp only [hall, if_false, Bool.not_false, if_true, Bool.false_eq_true, resolveAgentRef_eq]
        cases agentIn directory site request.widgetKey request.agentAlias <;> rfl

end Bootstrap

def resolved (web : Web) (db : Registry) (siteKey : Id) (widgetKey agentAlias : Option Id) (origin : String) :
    Except ServerError (Id × Id) :=
  (resolution (normalizeOrigin web) (directory db) siteKey widgetKey agentAlias origin).map fun r =>
    (r.1.tenantId, r.2)

section Lookup

variable {web : Web} {db : Registry}

def widgetOf (db : Registry) (tenantId siteId widgetKey : Id) : Option SiteWidget :=
  db.siteWidgets.rows.find? fun w => decide (w.tenantId = tenantId) && decide (w.siteId = siteId) &&
    decide (w.widgetKey = widgetKey)

def answer (defaultAgentAlias : Id) (agentAliases : List SiteWidgetAgentAlias) (agentAlias : Option Id) :
    Except ServerError Id :=
  match aliasNamed (agentAlias.getD defaultAgentAlias) agentAliases with
  | none => .error SessionService.agentAliasNotAllowed
  | some found => .ok found.agentRef

def agentOf (db : Registry) (site : Site) (widgetKey agentAlias : Option Id) : Except ServerError Id :=
  match widgetKey.bind present with
  | none =>
      if (agentAlias.bind present).isSome then .error SessionService.agentAliasNotAllowed else .ok site.agentRef
  | some widgetKey =>
      match widgetOf db site.tenantId site.siteId widgetKey with
      | none => .error SessionService.widgetNotFound
      | some widget => answer widget.defaultAgentAlias widget.agentAliases agentAlias

lemma listed_widget (site : Site) (widgetKey : Id) : ((directory db).widgets.find? fun w =>
    decide (w.tenantId = site.listed.tenantId) && decide (w.siteId = site.listed.siteId) &&
      decide (w.widgetKey = widgetKey)) = (widgetOf db site.tenantId site.siteId widgetKey).map
      SiteWidget.listed :=
  List.find?_map

lemma listed_alias (widget : SiteWidget) (name : Id) : (widget.listed.agentAliases.find? fun a =>
    decide (a.agentAlias = name)) = (aliasNamed name widget.agentAliases).map fun a =>
      ⟨a.agentAlias, a.agentRef⟩ :=
  List.find?_map

lemma listed_site (siteKey : Id) : ((directory db).sites.find? fun s => decide (s.siteKey = siteKey)) =
    (siteOfKey siteKey db).map Site.listed :=
  List.find?_map

lemma agentIn_directory (site : Site) (widgetKey agentAlias : Option Id) :
    agentIn (directory db) site.listed widgetKey agentAlias = agentOf db site widgetKey agentAlias := by
  unfold agentIn agentOf
  cases widgetKey.bind present with
  | none => rfl
  | some widgetKey =>
    simp only [listed_widget]
    cases widgetOf db site.tenantId site.siteId widgetKey with
    | none => rfl
    | some widget =>
      have hdefault : widget.listed.defaultAgentAlias = widget.defaultAgentAlias := rfl
      simp only [Option.map_some, listed_alias, hdefault, answer]
      cases aliasNamed (agentAlias.getD widget.defaultAgentAlias) widget.agentAliases <;> rfl

lemma resolved_eq (siteKey : Id) (widgetKey agentAlias : Option Id) (origin : String) :
    resolved web db siteKey widgetKey agentAlias origin =
      match siteOfKey siteKey db with
      | none => .error SessionService.siteNotFound
      | some site =>
          if admits (normalizeOrigin web) site.listed origin then
            (agentOf db site widgetKey agentAlias).map fun agentRef => (site.tenantId, agentRef)
          else .error SessionService.originNotAllowed := by
  unfold resolved resolution
  simp only [listed_site]
  cases siteOfKey siteKey db with
  | none => rfl
  | some site =>
    simp only [Option.map_some, agentIn_directory]
    split
    · cases agentOf db site widgetKey agentAlias <;> rfl
    · rfl

lemma widgetOf_eq_some (h : Immediate db) {tenantId siteId widgetKey : Id} {w : SiteWidget} :
    widgetOf db tenantId siteId widgetKey = some w ↔
      w ∈ db.siteWidgets ∧ w.tenantId = tenantId ∧ w.siteId = siteId ∧ w.widgetKey = widgetKey := by
  constructor
  · intro hf
    have hp := List.find?_some hf
    simp only [Bool.and_eq_true, decide_eq_true_eq, and_assoc] at hp
    exact ⟨List.mem_of_find?_eq_some hf, hp⟩
  · rintro ⟨hw, rfl, rfl, rfl⟩
    cases hf : widgetOf db w.tenantId w.siteId w.widgetKey with
    | none => exact absurd (List.find?_eq_none.mp hf w hw) (by simp)
    | some v =>
      have hp := List.find?_some hf
      simp only [Bool.and_eq_true, decide_eq_true_eq, and_assoc] at hp
      rw [List.inj_on_of_nodup_map h.widgetKeys (List.mem_of_find?_eq_some hf) hw
        (Prod.ext hp.1 (Prod.ext hp.2.1 hp.2.2))]

end Lookup

section Outcome

variable {config : WidgetProvisioningConfig} {now currentTimestamp : Timestamp} {before after : Registry}

def home (config : WidgetProvisioningConfig) (db : Registry) : Id :=
  ((siteOfKey config.site.siteKey db).map Site.siteId).getD config.site.siteId

def rehomed (config : WidgetProvisioningConfig) (db : Registry) (w : SiteWidget) : SiteWidget :=
  if w.siteId = home config db then { w with tenantId := config.tenant.tenantId } else w

structure Outcome (config : WidgetProvisioningConfig) (before after : Registry) : Prop where
  site : ∃ s ∈ after.sites, s.siteKey = config.site.siteKey ∧ s.siteId = home config before ∧
    s.tenantId = config.tenant.tenantId ∧ s.allowedOrigins = config.site.allowedOrigins ∧
      s.agentRef = config.agentRef
  sites : ∀ s, s.siteKey ≠ config.site.siteKey → (s ∈ after.sites ↔ s ∈ before.sites)
  widget : ∃ w ∈ after.siteWidgets, w.widgetId = config.widget.widgetId ∧ w.tenantId = config.tenant.tenantId ∧
    w.siteId = config.site.siteId ∧ w.widgetKey = config.widget.widgetKey ∧
    w.defaultAgentAlias = config.widget.defaultAgentAlias ∧ w.agentAliases = config.widget.agentAliases
  widgets : ∀ w, w.widgetId ≠ config.widget.widgetId →
    (w ∈ after.siteWidgets ↔ ∃ q ∈ before.siteWidgets, rehomed config before q = w)

lemma outcome_widget {t widgets : Table SiteWidget.widgetId}
    (h : upsert "site_widgets_pkey" t (fun r => decide (r.widgetId = config.widget.widgetId))
      (provisionedWidget config now) (provisionedWidget_id config now) (newWidget config currentTimestamp) =
      .ok widgets) :
    ∃ w ∈ widgets, w.widgetId = config.widget.widgetId ∧ w.tenantId = config.tenant.tenantId ∧
      w.siteId = config.site.siteId ∧ w.widgetKey = config.widget.widgetKey ∧
      w.defaultAgentAlias = config.widget.defaultAgentAlias ∧ w.agentAliases = config.widget.agentAliases := by
  obtain ⟨t', ht', -, hkey⟩ : ∃ t', upsert "site_widgets_pkey" t
    (fun r => decide (r.widgetId = config.widget.widgetId))
      (provisionedWidget config now) (provisionedWidget_id config now)
        (newWidget config currentTimestamp) = .ok t' ∧ _ ∧
        (newWidget config currentTimestamp).widgetId ∈ t'.rows.map SiteWidget.widgetId :=
    upsert_succeeds "site_widgets_pkey" t fun q => rfl
  obtain rfl : widgets = t' := Except.ok.inj (h.symm.trans ht')
  obtain ⟨w, hw, hid⟩ := List.mem_map.mp hkey
  refine ⟨w, hw, hid, ?_⟩
  rcases mem_upsert_selected h hw (decide_eq_true hid) with ⟨q, -, rfl⟩ | rfl
  · exact ⟨rfl, rfl, rfl, rfl, rfl⟩
  · exact ⟨rfl, rfl, rfl, rfl, rfl⟩

section Existing

variable {tenants : Table Tenant.tenantId} {d : Open Registry}

lemma moveExisting_sites {existing : Option Site}
    (h : moveExisting config existing ⟨{ before with tenants := tenants }, false⟩ = .ok ((), d)) :
    d.db.sites = before.sites := by
  cases existing with
  | none =>
    obtain rfl := (statements_pure_ok.mp h).2
    rfl
  | some site =>
    by_cases hother : site.tenantId ≠ config.tenant.tenantId
    · rw [moveExisting, if_pos hother] at h
      exact (moveSite_relocates h).sites
    · rw [moveExisting, if_neg hother] at h
      obtain rfl := (statements_pure_ok.mp h).2
      rfl

lemma map_rehomed_eq {rows : List SiteWidget} (h : ∀ w ∈ rows, rehomed config before w = w) :
    rows = rows.map (rehomed config before) :=
  (List.map_id _).symm.trans (List.map_congr_left fun w hw => (h w hw).symm)

lemma moveExisting_widgets (hb : Consistent constraints before)
    (hfresh : siteOfKey config.site.siteKey before = none → before.sites.find? config.site.siteId = none)
    (h : moveExisting config (siteOfKey config.site.siteKey before) ⟨{ before with tenants := tenants }, false⟩ =
      .ok ((), d)) : d.db.siteWidgets.rows = before.siteWidgets.rows.map (rehomed config before) := by
  obtain ⟨hi, hd⟩ := consistent_iff.mp hb
  cases hs : siteOfKey config.site.siteKey before with
  | none =>
    rw [hs] at h
    obtain rfl := (statements_pure_ok.mp h).2
    refine map_rehomed_eq fun w hw => if_neg ?_
    obtain ⟨s, hm, he⟩ := List.mem_map.mp (hd.widgets (List.mem_map_of_mem hw))
    have hsame : s.siteId = w.siteId := (Prod.ext_iff.mp he).2
    simp only [home, hs, Option.map_none, Option.getD_none]
    rw [← hsame]
    exact Table.find?_eq_none.mp (hfresh hs) s hm
  | some site =>
    obtain ⟨hm, hk⟩ := (siteOfKey_eq_some hi).mp hs
    have hhome : home config before = site.siteId := by simp [home, hs]
    rw [hs] at h
    by_cases hother : site.tenantId ≠ config.tenant.tenantId
    · rw [moveExisting, if_pos hother] at h
      have hrows : d.db.siteWidgets.rows = before.siteWidgets.rows.map _ := (moveSite_relocates h).widgets
      rw [hrows]
      refine List.map_congr_left fun w hw => ?_
      rw [rehomed, hhome]
      by_cases hws : w.siteId = site.siteId
      · rw [if_pos hws]
        exact if_pos (by simp [SiteTable.owned, siteWidgetSites, hws, widgets_owned hd hm hw hws])
      · rw [if_neg hws]
        exact if_neg (by simp [SiteTable.owned, siteWidgetSites, hws])
    · rw [moveExisting, if_neg hother] at h
      obtain rfl := (statements_pure_ok.mp h).2
      refine map_rehomed_eq fun w hw => ?_
      rw [rehomed, hhome]
      by_cases hws : w.siteId = site.siteId
      · rw [if_pos hws, ← not_not.mp hother, ← widgets_owned hd hm hw hws]
      · exact if_neg hws

end Existing

lemma provision_outcome (hb : Consistent constraints before) {t : Open Registry} {u : Unit}
    (h : provision config now currentTimestamp ⟨before, false⟩ = .ok (u, t)) : Outcome config before t.db := by
  obtain ⟨tenants, d, sites, widgets, hmove, hsites, hwidgets, hdb⟩ := provision_ok h
  obtain ⟨hi, -⟩ := consistent_iff.mp hb
  have hsame := moveExisting_sites hmove
  rw [hsame] at hsites
  have hfresh : siteOfKey config.site.siteKey before = none → before.sites.find? config.site.siteId = none := by
    intro hnone
    rcases upsert_ok.mp hsites with ⟨hany, -⟩ | ⟨-, hfind, -⟩
    · obtain ⟨s, hs, hk⟩ := List.any_eq_true.mp hany
      exact absurd hk (List.find?_eq_none.mp hnone s hs)
    · exact hfind
  have hrows := moveExisting_widgets hb hfresh hmove
  rw [hdb]
  refine ⟨?_, fun s hs => mem_upsert hsites (decide_eq_false hs) (decide_eq_true rfl) fun q => rfl,
    outcome_widget hwidgets, fun w hw => ?_⟩
  · rcases upsert_ok.mp hsites with ⟨hany, rfl⟩ | ⟨hany, hfind, rfl⟩
    · obtain ⟨s, hs, hk⟩ := List.any_eq_true.mp hany
      have hkey : s.siteKey = config.site.siteKey := of_decide_eq_true hk
      refine ⟨provisionedSite config s, ?_, hkey, ?_, rfl, rfl, rfl⟩
      · change _ ∈ Table.update _ _ _ (provisionedSite_id config)
        refine Table.mem_update.mpr ⟨s, hs, ?_⟩
        rw [if_pos hk]
      · rw [home, (siteOfKey_eq_some hi).mpr ⟨hs, hkey⟩]
        rfl
    · have hnone : siteOfKey config.site.siteKey before = none := by
        rw [Bool.eq_false_iff, ne_eq, List.any_eq_true, not_exists] at hany
        exact List.find?_eq_none.mpr fun s hs hk => hany s ⟨hs, hk⟩
      refine ⟨newSite config currentTimestamp, ?_, rfl, ?_, rfl, rfl, rfl⟩
      · exact (Table.mem_insert_of_absent hfind).mpr (Or.inr rfl)
      · rw [home, hnone]
        rfl
  · refine (mem_upsert hwidgets (decide_eq_false hw) (decide_eq_true rfl) fun q => rfl).trans ?_
    rw [← Table.mem_rows, hrows, List.mem_map]
    rfl

end Outcome

/-- Visitors of the provisioned site get what the config says, and those of the other sites what they got
before. -/
structure Provisioned (web : Web) (config : WidgetProvisioningConfig) (before after : Registry) : Prop where
  aliased : ∀ origin ∈ config.site.allowedOrigins, ∀ a ∈ config.widget.agentAliases,
    resolved web after config.site.siteKey (some config.widget.widgetKey) (some a.agentAlias) origin =
      .ok (config.tenant.tenantId, a.agentRef)
  default : ∀ origin ∈ config.site.allowedOrigins,
    resolved web after config.site.siteKey (some config.widget.widgetKey) none origin =
      .ok (config.tenant.tenantId, config.agentRef)
  plain : ∀ origin ∈ config.site.allowedOrigins,
    resolved web after config.site.siteKey none none origin = .ok (config.tenant.tenantId, config.agentRef)
  others : ∀ siteKey, siteKey ≠ config.site.siteKey → ∀ widgetKey agentAlias origin,
    resolved web after siteKey widgetKey agentAlias origin = resolved web before siteKey widgetKey
      agentAlias origin

def Askable (web : Web) (s : Site) : Prop := ∃ origin, admits (normalizeOrigin web) s.listed origin = true

/-- No other site loses its widget to the config, and the site that the key names is the one that gets the widget.
Otherwise the widgets that are there already have to answer as those of the config would. -/
structure Harmless (web : Web) (config : WidgetProvisioningConfig) (db : Registry) : Prop where
  elsewhere : ∀ w ∈ db.siteWidgets, w.widgetId = config.widget.widgetId → ∀ s ∈ db.sites, s.siteId = w.siteId →
    s.siteKey ≠ config.site.siteKey → Askable web s → w.widgetKey ≠ "" →
      w.siteId = config.site.siteId ∧ w.widgetKey = config.widget.widgetKey ∧
        ∀ agentAlias, answer w.defaultAgentAlias w.agentAliases agentAlias =
          answer config.widget.defaultAgentAlias config.widget.agentAliases agentAlias
  sameSite : ∀ s ∈ db.sites, s.siteKey = config.site.siteKey → s.siteId = config.site.siteId ∨
    (∃ w ∈ db.siteWidgets, w.siteId = s.siteId ∧ w.widgetKey = config.widget.widgetKey ∧
      w.widgetId ≠ config.widget.widgetId ∧ answer w.defaultAgentAlias w.agentAliases none = .ok config.agentRef ∧
      ∀ a ∈ config.widget.agentAliases, answer w.defaultAgentAlias w.agentAliases (some a.agentAlias) =
        .ok a.agentRef) ∧
    ∀ t ∈ db.sites, t.siteId = config.site.siteId → Askable web t → ∃ w ∈ db.siteWidgets,
      w.widgetId = config.widget.widgetId ∧ w.siteId = config.site.siteId ∧ w.widgetKey = config.widget.widgetKey

section Answers

variable {web : Web} {config : WidgetProvisioningConfig} {db : Registry}

lemma present_of_ne {text : Id} (h : text ≠ "") : present text = some text := if_neg h

lemma resolved_site (hi : Immediate db) {s : Site} (hs : s ∈ db.sites) (widgetKey agentAlias : Option Id)
    (origin : String) :
    resolved web db s.siteKey widgetKey agentAlias origin = if admits (normalizeOrigin web) s.listed origin then
      (agentOf db s widgetKey agentAlias).map fun agentRef => (s.tenantId, agentRef)
    else .error SessionService.originNotAllowed := by
  rw [resolved_eq, (siteOfKey_eq_some hi).mpr ⟨hs, rfl⟩]

lemma resolved_admitted (hi : Immediate db) {s : Site} (hs : s ∈ db.sites) {origin : String}
    (ho : admits (normalizeOrigin web) s.listed origin = true) (widgetKey agentAlias : Option Id) :
    resolved web db s.siteKey widgetKey agentAlias origin =
      (agentOf db s widgetKey agentAlias).map fun agentRef => (s.tenantId, agentRef) := by
  rw [resolved_site hi hs, if_pos ho]

lemma agentOf_widget (hi : Immediate db) (hd : Deferrable db) {s : Site} (hs : s ∈ db.sites) {w : SiteWidget}
    (hw : w ∈ db.siteWidgets) (hsite : w.siteId = s.siteId) (hne : w.widgetKey ≠ "") (agentAlias : Option Id) :
    agentOf db s (some w.widgetKey) agentAlias = answer w.defaultAgentAlias w.agentAliases agentAlias := by
  have hfind := (widgetOf_eq_some hi).mpr ⟨hw, widgets_owned hd hs hw hsite, hsite, rfl⟩
  simp only [agentOf, Option.bind_some, present_of_ne hne, hfind]

lemma agentOf_missing {s : Site} {widgetKey : Id} (hne : widgetKey ≠ "")
    (h : ∀ w ∈ db.siteWidgets, w.siteId = s.siteId → w.widgetKey ≠ widgetKey) (agentAlias : Option Id) :
    agentOf db s (some widgetKey) agentAlias = .error SessionService.widgetNotFound := by
  have hfind : widgetOf db s.tenantId s.siteId widgetKey = none := by
    refine List.find?_eq_none.mpr fun w hw hp => ?_
    simp only [Bool.and_eq_true, decide_eq_true_eq] at hp
    exact h w hw hp.1.2 hp.2
  simp only [agentOf, Option.bind_some, present_of_ne hne, hfind]

lemma answer_ne_missing {defaultAgentAlias : Id} {agentAliases : List SiteWidgetAgentAlias}
    {agentAlias : Option Id} :
    answer defaultAgentAlias agentAliases agentAlias ≠ .error SessionService.widgetNotFound := by
  unfold answer
  split
  · exact fun h => absurd (Except.error.inj h) (by decide)
  · intro h
    cases h

lemma answer_default (hc : Accepted web config) :
    answer config.widget.defaultAgentAlias config.widget.agentAliases none = .ok config.agentRef := by
  obtain ⟨a, ha, he⟩ := Option.map_eq_some_iff.mp hc.default
  simp only [answer, Option.getD_none, ha, he]

lemma answer_alias (hc : Accepted web config) {a : SiteWidgetAgentAlias} (ha : a ∈ config.widget.agentAliases) :
    answer config.widget.defaultAgentAlias config.widget.agentAliases (some a.agentAlias) = .ok a.agentRef := by
  have hfind : aliasNamed a.agentAlias config.widget.agentAliases = some a := by
    cases hf : aliasNamed a.agentAlias config.widget.agentAliases with
    | none => exact absurd (List.find?_eq_none.mp hf a ha) (by simp)
    | some b =>
      have hb : b.agentAlias = a.agentAlias := by simpa using List.find?_some hf
      rw [List.inj_on_of_nodup_map hc.unique (List.mem_of_find?_eq_some hf) ha hb]
  simp only [answer, Option.getD_some, hfind]

lemma admits_allowed (hc : Accepted web config) {s : Site} (hs : s.allowedOrigins = config.site.allowedOrigins)
    {origin : String} (ho : origin ∈ config.site.allowedOrigins) :
    admits (normalizeOrigin web) s.listed origin = true := by
  have hurl := hc.origins origin ho
  have hne : origin ≠ "" := by
    rintro rfl
    rw [web.newURL_empty] at hurl
    cases hurl
  have hnormal : normalizeOrigin web origin = some origin := by simp [normalizeOrigin, hurl]
  have hall :
      (s.allowedOrigins.all fun candidate => decide (normalizeOrigin web candidate ≠ some origin)) = false := by
    refine List.all_eq_false.mpr ⟨origin, hs ▸ ho, ?_⟩
    simp [hnormal]
  simp only [admits, hnormal, Option.bind_some, present_of_ne hne, Option.any_some, Site.listed, hall,
    Bool.not_false]

end Answers

section Provisioned

variable {web : Web} {config : WidgetProvisioningConfig} {before after : Registry}
  (hb : Consistent constraints before) (ha : Consistent constraints after) (h : Outcome config before after)

include hb in
lemma home_of_key {s : Site} (hs : s ∈ before.sites) (hk : s.siteKey = config.site.siteKey) :
    s.siteId = home config before := by
  rw [home, (siteOfKey_eq_some (consistent_iff.mp hb).1).mpr ⟨hs, hk⟩]
  rfl

include h in
lemma Outcome.ne_home {s : Site} (hs : s ∈ before.sites) (hk : s.siteKey ≠ config.site.siteKey) :
    s.siteId ≠ home config before := by
  obtain ⟨t, ht, hkey, hhome, -⟩ := h.site
  intro he
  rw [← hhome] at he
  rw [Table.key_injective ((h.sites s hk).mpr hs) ht he] at hk
  exact hk hkey

lemma rehomed_siteId (w : SiteWidget) : (rehomed config before w).siteId = w.siteId := by
  unfold rehomed
  split <;> rfl

variable (config before) in
lemma rehomed_widget (w : SiteWidget) : (rehomed config before w).widgetId = w.widgetId ∧
    (rehomed config before w).widgetKey = w.widgetKey ∧
    (rehomed config before w).defaultAgentAlias = w.defaultAgentAlias ∧
    (rehomed config before w).agentAliases = w.agentAliases := by
  unfold rehomed
  split <;> exact ⟨rfl, rfl, rfl, rfl⟩

include h in
lemma Outcome.widget_elsewhere {w : SiteWidget} (hw : w.widgetId ≠ config.widget.widgetId)
    (hs : w.siteId ≠ home config before) : w ∈ after.siteWidgets ↔ w ∈ before.siteWidgets := by
  rw [h.widgets w hw]
  constructor
  · rintro ⟨q, hq, rfl⟩
    rw [rehomed_siteId] at hs
    rwa [rehomed, if_neg hs]
  · exact fun hm => ⟨w, hm, if_neg hs⟩

include hb ha h in
lemma Outcome.siteOfKey_eq {siteKey : Id} (hk : siteKey ≠ config.site.siteKey) :
    siteOfKey siteKey after = siteOfKey siteKey before := by
  have hi := (consistent_iff.mp hb).1
  have hi' := (consistent_iff.mp ha).1
  cases hs : siteOfKey siteKey before with
  | some s =>
    obtain ⟨hm, rfl⟩ := (siteOfKey_eq_some hi).mp hs
    exact (siteOfKey_eq_some hi').mpr ⟨(h.sites s hk).mpr hm, rfl⟩
  | none =>
    cases hs' : siteOfKey siteKey after with
    | none => rfl
    | some s =>
      obtain ⟨hm, rfl⟩ := (siteOfKey_eq_some hi').mp hs'
      rw [(siteOfKey_eq_some hi).mpr ⟨(h.sites s hk).mp hm, rfl⟩] at hs
      cases hs

include hb ha h in
lemma Harmless.agentOf_eq (hh : Harmless web config before) {s : Site} (hs : s ∈ before.sites)
    (hk : s.siteKey ≠ config.site.siteKey) (hask : Askable web s) (widgetKey agentAlias : Option Id) :
    agentOf after s widgetKey agentAlias = agentOf before s widgetKey agentAlias := by
  obtain ⟨hi, hd⟩ := consistent_iff.mp hb
  obtain ⟨hi', hd'⟩ := consistent_iff.mp ha
  have hs' : s ∈ after.sites := (h.sites s hk).mpr hs
  have hhome := h.ne_home hs hk
  obtain ⟨v, hv, hvid, -, hvsite, hvkey, hvdefault, hvaliases⟩ := h.widget
  cases hpresent : widgetKey.bind present with
  | none => simp only [agentOf, hpresent]
  | some key =>
    obtain ⟨hkey, hne⟩ : widgetKey = some key ∧ key ≠ "" := by
      cases widgetKey with
      | none => cases hpresent
      | some k =>
        simp only [Option.bind_some, present, Option.ite_none_left_eq_some, Option.some.injEq] at hpresent
        obtain ⟨hne, rfl⟩ := hpresent
        exact ⟨rfl, hne⟩
    subst hkey
    by_cases hex : ∃ w ∈ before.siteWidgets, w.siteId = s.siteId ∧ w.widgetKey = key
    · obtain ⟨w, hw, hws, rfl⟩ := hex
      rw [agentOf_widget hi hd hs hw hws hne]
      by_cases hwid : w.widgetId = config.widget.widgetId
      · obtain ⟨hsite, hkey, hanswer⟩ := hh.elsewhere w hw hwid s hs hws.symm hk hask hne
        rw [hanswer, ← hvdefault, ← hvaliases, hkey, ← hvkey]
        rw [hkey, ← hvkey] at hne
        exact agentOf_widget hi' hd' hs' hv (hvsite.trans (hsite.symm.trans hws)) hne agentAlias
      · have hw' := (h.widget_elsewhere hwid (hws ▸ hhome)).mpr hw
        exact agentOf_widget hi' hd' hs' hw' hws hne agentAlias
    · have hnone : ∀ w ∈ before.siteWidgets, w.siteId = s.siteId → w.widgetKey ≠ key :=
        fun w hw hws hwk => hex ⟨w, hw, hws, hwk⟩
      rw [agentOf_missing hne hnone]
      refine agentOf_missing hne (fun w hw hws hwk => ?_) agentAlias
      by_cases hwid : w.widgetId = config.widget.widgetId
      · obtain rfl : w = v := Table.key_injective hw hv (hwid.trans hvid.symm)
        have hcs : config.site.siteId = s.siteId := hvsite.symm.trans hws
        cases hexisting : siteOfKey config.site.siteKey before with
        | none =>
          refine hhome ?_
          rw [home, hexisting]
          exact hcs.symm
        | some t =>
          obtain ⟨ht, htk⟩ := (siteOfKey_eq_some hi).mp hexisting
          rcases hh.sameSite t ht htk with hsame | ⟨-, hheld⟩
          · exact hhome ((hcs.symm.trans hsame.symm).trans (home_of_key hb ht htk))
          · obtain ⟨q, hq, -, hqs, hqk⟩ := hheld s hs hcs.symm hask
            exact hnone q hq (hqs.trans hcs) (hqk.trans (hvkey.symm.trans hwk))
      · exact hnone w ((h.widget_elsewhere hwid (hws ▸ hhome)).mp hw) hws hwk

include hb h in
lemma Harmless.widget_home (hh : Harmless web config before) (hc : Accepted web config) : ∃ w ∈ after.siteWidgets,
    w.siteId = home config before ∧ w.widgetKey = config.widget.widgetKey ∧
      answer w.defaultAgentAlias w.agentAliases none = .ok config.agentRef ∧
      ∀ a ∈ config.widget.agentAliases, answer w.defaultAgentAlias w.agentAliases (some a.agentAlias) =
      .ok a.agentRef := by
  obtain ⟨v, hv, -, -, hvsite, hvkey, hvdefault, hvaliases⟩ := h.widget
  by_cases hsame : config.site.siteId = home config before
  · refine ⟨v, hv, hvsite.trans hsame, hvkey, ?_, fun a ha => ?_⟩
    · rw [hvdefault, hvaliases]
      exact answer_default hc
    · rw [hvdefault, hvaliases]
      exact answer_alias hc ha
  · cases hexisting : siteOfKey config.site.siteKey before with
    | none => exact absurd (by rw [home, hexisting]; rfl) hsame
    | some s =>
      obtain ⟨hs, hk⟩ := (siteOfKey_eq_some (consistent_iff.mp hb).1).mp hexisting
      have hhome := home_of_key hb hs hk
      rcases hh.sameSite s hs hk with he | ⟨⟨w, hw, hws, hwk, hwid, hnone, hsome⟩, -⟩
      · exact absurd (he.symm.trans hhome) hsame
      · obtain ⟨hid, hkey, hdefault, haliases⟩ := rehomed_widget config before w
        refine ⟨rehomed config before w, (h.widgets _ (hid ▸ hwid)).mpr ⟨w, hw, rfl⟩,
          (rehomed_siteId w).trans (hws.trans hhome), hkey.trans hwk, ?_, ?_⟩
        · rwa [hdefault, haliases]
        · rwa [hdefault, haliases]

include hb ha h in
lemma Harmless.provisioned (hh : Harmless web config before) (hc : Accepted web config) :
    Provisioned web config before after := by
  obtain ⟨hi', hd'⟩ := consistent_iff.mp ha
  obtain ⟨s, hs, hk, hhome, htenant, horigins, hagent⟩ := h.site
  obtain ⟨w, hw, hws, hwk, hnone, hsome⟩ := hh.widget_home hb h hc
  have hne : w.widgetKey ≠ "" := hwk ▸ isOpaqueId_ne_empty hc.widgetKey
  have hwidget := fun agentAlias => agentOf_widget hi' hd' hs hw (hws.trans hhome.symm) hne agentAlias
  refine ⟨fun origin ho a ha => ?_, fun origin ho => ?_, fun origin ho =>
    ?_, fun siteKey hne' widgetKey agentAlias origin => ?_⟩
  · rw [← hk, resolved_admitted hi' hs (admits_allowed hc horigins ho), ← hwk, hwidget, hsome a ha, ← htenant]
    rfl
  · rw [← hk, resolved_admitted hi' hs (admits_allowed hc horigins ho), ← hwk, hwidget, hnone, ← htenant]
    rfl
  · rw [← hk, resolved_admitted hi' hs (admits_allowed hc horigins ho), ← htenant, ← hagent]
    rfl
  · rw [resolved_eq, resolved_eq, h.siteOfKey_eq hb ha hne']
    cases hf : siteOfKey siteKey before with
    | none => rfl
    | some t =>
      obtain ⟨ht, rfl⟩ := (siteOfKey_eq_some (consistent_iff.mp hb).1).mp hf
      by_cases hallowed : admits (normalizeOrigin web) t.listed origin = true
      · simp only [hallowed, if_true, hh.agentOf_eq hb ha h ht hne' ⟨origin, hallowed⟩]
      · simp only [hallowed, if_false, Bool.false_eq_true]

lemma map_agent_inj {tenantId : Id} {x y : Except ServerError Id}
    (h : x.map (fun agentRef => (tenantId, agentRef)) = y.map fun agentRef => (tenantId, agentRef)) : x = y := by
  cases x with
  | error e =>
    cases y with
    | error e' => exact congrArg Except.error (Except.error.inj h)
    | ok b => cases h
  | ok a =>
    cases y with
    | error e' => cases h
    | ok b => exact congrArg Except.ok (Prod.ext_iff.mp (Except.ok.inj h)).2

include hb ha h in
lemma Provisioned.agentOf_eq (hp : Provisioned web config before after) {s : Site} (hs : s ∈ before.sites)
    (hk : s.siteKey ≠ config.site.siteKey) (hask : Askable web s) (widgetKey agentAlias : Option Id) :
    agentOf after s widgetKey agentAlias = agentOf before s widgetKey agentAlias := by
  obtain ⟨origin, ho⟩ := hask
  have hsame := hp.others s.siteKey hk widgetKey agentAlias origin
  rw [resolved_admitted (consistent_iff.mp ha).1 ((h.sites s hk).mpr hs) ho,
    resolved_admitted (consistent_iff.mp hb).1 hs ho] at hsame
  exact map_agent_inj hsame

include hb ha h in
lemma Provisioned.harmless (hp : Provisioned web config before after) (hc : Accepted web config) :
    Harmless web config before := by
  obtain ⟨hi, hd⟩ := consistent_iff.mp hb
  obtain ⟨hi', hd'⟩ := consistent_iff.mp ha
  obtain ⟨v, hv, hvid, hvtenant, hvsite, hvkey, hvdefault, hvaliases⟩ := h.widget
  have hkey : config.widget.widgetKey ≠ "" := isOpaqueId_ne_empty hc.widgetKey
  refine ⟨fun w hw hwid s hs hws hk hask hne => ?_, fun s hs hk => ?_⟩
  · have hs' : s ∈ after.sites := (h.sites s hk).mpr hs
    have hbefore := fun agentAlias => (hp.agentOf_eq hb ha h hs hk hask (some w.widgetKey) agentAlias).trans
      (agentOf_widget hi hd hs hw hws.symm hne agentAlias)
    have hfound : ∃ q ∈ after.siteWidgets, q.siteId = s.siteId ∧ q.widgetKey = w.widgetKey := by
      by_contra hex
      have hmissing : ∀ q ∈ after.siteWidgets, q.siteId = s.siteId → q.widgetKey ≠ w.widgetKey :=
        fun q hq hqs hqk => hex ⟨q, hq, hqs, hqk⟩
      exact answer_ne_missing ((hbefore none).symm.trans (agentOf_missing hne hmissing none))
    obtain ⟨q, hq, hqs, hqk⟩ := hfound
    have hqid : q.widgetId = config.widget.widgetId := by
      by_contra hqid
      have hq' := (h.widget_elsewhere hqid (hqs ▸ h.ne_home hs hk)).mp hq
      have hqw : q = w := List.inj_on_of_nodup_map hi.widgetKeys hq' hw (Prod.ext
        ((widgets_owned hd hs hq' hqs).trans (widgets_owned hd hs hw hws.symm).symm)
          (Prod.ext (hqs.trans hws) hqk))
      exact hqid (hqw ▸ hwid)
    obtain rfl : q = v := Table.key_injective hq hv (hqid.trans hvid.symm)
    refine ⟨hws.symm.trans (hqs.symm.trans hvsite), hqk.symm.trans hvkey, fun agentAlias => ?_⟩
    rw [← hbefore agentAlias, ← hqk, ← hvdefault, ← hvaliases]
    exact agentOf_widget hi' hd' hs' hq hqs (hqk ▸ hne) agentAlias
  · by_cases hsame : s.siteId = config.site.siteId
    · exact Or.inl hsame
    refine Or.inr ⟨?_, fun t ht hts hask => ?_⟩
    · obtain ⟨r, hr, hrk, hhome, htenant, horigins, -⟩ := h.site
      have hrs : r.siteId = s.siteId := hhome.trans (home_of_key hb hs hk).symm
      obtain ⟨origin, ho⟩ := List.exists_mem_of_ne_nil _ hc.someOrigin
      have hdefault := hp.default origin ho
      rw [← hrk, resolved_admitted hi' hr (admits_allowed hc horigins ho)] at hdefault
      have hfound : ∃ q ∈ after.siteWidgets, q.siteId = r.siteId ∧ q.widgetKey = config.widget.widgetKey := by
        by_contra hex
        have hmissing : ∀ q ∈ after.siteWidgets, q.siteId = r.siteId → q.widgetKey ≠ config.widget.widgetKey :=
          fun q hq hqs hqk => hex ⟨q, hq, hqs, hqk⟩
        rw [agentOf_missing hkey hmissing] at hdefault
        cases hdefault
      obtain ⟨q, hq, hqs, hqk⟩ := hfound
      have hqid : q.widgetId ≠ config.widget.widgetId := by
        intro hqid
        rw [Table.key_injective hq hv (hqid.trans hvid.symm)] at hqs
        exact hsame (hrs.symm.trans (hqs.symm.trans hvsite))
      obtain ⟨w, hw, rfl⟩ := (h.widgets q hqid).mp hq
      obtain ⟨hwid, hwk, hwdefault, hwaliases⟩ := rehomed_widget config before w
      have hanswer : ∀ agentAlias, agentOf after r (some config.widget.widgetKey) agentAlias =
          answer w.defaultAgentAlias w.agentAliases agentAlias := by
        intro agentAlias
        rw [← hqk, ← hwdefault, ← hwaliases]
        exact agentOf_widget hi' hd' hr hq hqs (hqk ▸ hkey) agentAlias
      refine ⟨w, hw, (rehomed_siteId w).symm.trans (hqs.trans hrs), hwk.symm.trans hqk, hwid ▸ hqid, ?_,
        fun a ha => ?_⟩
      · rw [← htenant, hanswer] at hdefault
        exact map_agent_inj hdefault
      · have halias := hp.aliased origin ho a ha
        rw [← hrk, resolved_admitted hi' hr (admits_allowed hc horigins ho), ← htenant, hanswer] at halias
        exact map_agent_inj halias
    · have htk : t.siteKey ≠ config.site.siteKey := by
        intro htk
        exact hsame ((home_of_key hb hs hk).trans ((home_of_key hb ht htk).symm.trans hts))
      have hafter : agentOf after t (some v.widgetKey) none = answer v.defaultAgentAlias v.agentAliases none :=
        agentOf_widget hi' hd' ((h.sites t htk).mpr ht) hv (hvsite.trans hts.symm) (hvkey ▸ hkey) none
      rw [hp.agentOf_eq hb ha h ht htk hask] at hafter
      by_contra hex
      refine answer_ne_missing (hafter.symm.trans (agentOf_missing (hvkey ▸ hkey) (fun w hw hws hwk => ?_) none))
      by_cases hwid : w.widgetId = config.widget.widgetId
      · exact hex ⟨w, hw, hwid, hws.trans hts, hwk.trans hvkey⟩
      · have hw' := (h.widget_elsewhere hwid (hws ▸ h.ne_home ht htk)).mpr hw
        have ht' := (h.sites t htk).mpr ht
        have hwv : w = v := List.inj_on_of_nodup_map hi'.widgetKeys hw' hv (Prod.ext
          ((widgets_owned hd' ht' hw' hws).trans (widgets_owned hd' ht' hv (hvsite.trans hts.symm)).symm)
          (Prod.ext (hws.trans (hts.trans hvsite.symm)) hwk))
        exact hwid (hwv ▸ hvid)

end Provisioned

theorem provisioned_iff {web : Web} {input : Value} {config : WidgetProvisioningConfig}
    {now currentTimestamp : Timestamp}
    {before after : Registry} (hb : Consistent constraints before)
    (hp : provisionWidgetRegistry web input now currentTimestamp before = (.ok config, after)) :
    Provisioned web config before after ↔ Harmless web config before := by
  obtain ⟨hparse, t, hrun, rfl, ha⟩ := provisionWidgetRegistry_ok hp
  have h := provision_outcome hb hrun
  have hc := accepted_of_parsed hparse
  exact ⟨fun hp => hp.harmless hb ha h hc, fun hh => hh.provisioned hb ha h hc⟩

section Scenario

def twoSites : Registry :=
  { visited with
    toTables := unused ∅ ∅ ∅
    tenants := (∅ : Table Tenant.tenantId).insert ⟨"buyer", "Buyer", 0⟩
    sites := ((∅ : Table Site.siteId).insert
      ⟨"first", "buyer", "shop", "Shop", ["https://shop.test"], "agent", 0⟩).insert
      ⟨"site", "buyer", "blog", "Blog", ["https://shop.test"], "writer", 0⟩ }

/-- The widget is attached to the other site, and the visitors of the shop do not get it. -/
theorem widget_on_another_site : Consistent constraints twoSites ∧
    (provisionWidgetRegistry web (configFor (Connectors.text "Buyer")) 0 0 twoSites).1 =
      .ok (configOf (Connectors.text "Buyer")) ∧
    resolved web (provisionWidgetRegistry web (configFor (Connectors.text "Buyer")) 0 0 twoSites).2 "shop"
      (some "main") none
      "https://shop.test" = .error SessionService.widgetNotFound ∧
    resolved web twoSites "blog" (some "main") none "https://shop.test" = .error SessionService.widgetNotFound ∧
    resolved web (provisionWidgetRegistry web (configFor (Connectors.text "Buyer")) 0 0 twoSites).2 "blog"
      (some "main") none
      "https://shop.test" = .ok ("buyer", "agent") := by
  exact ⟨by decide +kernel, by rfl, by rfl, by rfl, by rfl⟩

theorem moved_site_provisioned : Provisioned web (configOf (Connectors.text "Buyer")) visited
    (provisionWidgetRegistry web (configFor (Connectors.text "Buyer")) 0 0 visited).2 := by
  have hdb : Consistent constraints visited := by decide +kernel
  have hcommits : (provisionWidgetRegistry web (configFor (Connectors.text "Buyer")) 0 0 visited).1 =
    .ok (configOf (Connectors.text "Buyer")) := by rfl
  refine (provisioned_iff hdb (Prod.ext hcommits rfl)).mpr
    ⟨fun w hw => absurd hw List.not_mem_nil, fun s hs _ => ?_⟩
  rw [List.mem_singleton.mp hs]
  exact Or.inl rfl

end Scenario

end ChatCore.Provisioning
