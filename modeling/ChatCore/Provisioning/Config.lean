import ChatCore.Connectors.Text
import ChatCore.Relational.Deferred
import ChatCore.Services.Sessions

namespace ChatCore.Provisioning

open Protocol Relational Database Services

/-- A value of the type `unknown`; `other` stands for numbers, `null` and `undefined`. -/
inductive Value
  | string (text : Connectors.Text)
  | bool (value : Bool)
  | array (items : List Value)
  | record (fields : List (String × Value))
  | other

structure URL where
  protocol : String
  origin : String
  deriving DecidableEq, Repr

/-- `new URL(value)` for a `USVString`, unless it throws, as it does for the empty string. -/
structure Web where
  newURL : String → Option URL
  newURL_empty : newURL "" = none

structure TenantConfig where
  tenantId : Id
  displayName : Connectors.Text
  deriving DecidableEq, Repr

structure SiteConfig where
  siteId : Id
  siteKey : Id
  displayName : Connectors.Text
  allowedOrigins : List String
  deriving DecidableEq, Repr

structure SiteWidgetAgentAlias where
  agentAlias : Id
  label : Connectors.Text
  agentRef : Id
  emailHandoff : Bool
  deriving DecidableEq, Repr

structure WidgetConfig where
  widgetId : Id
  widgetKey : Id
  displayName : Connectors.Text
  version : Id
  theme : Id
  launcher : Id
  placement : Id
  defaultAgentAlias : Id
  agentAliases : List SiteWidgetAgentAlias
  deriving DecidableEq, Repr

/-- `agentRef` is the field `site.agentRef`. -/
structure WidgetProvisioningConfig where
  tenant : TenantConfig
  site : SiteConfig
  agentRef : Id
  widget : WidgetConfig
  deriving DecidableEq, Repr

abbrev Parsed := Except ServerError

def configError (message : String) : ServerError := .error message

def require (ok : Bool) (message : String) : Parsed Unit := if ok then .ok () else .error (configError message)

lemma require_ok {ok : Bool} {message : String} {u : Unit} : require ok message = .ok u ↔ ok = true := by
  cases ok <;> simp [require]

def Value.fields : Value → Option (List (String × Value))
  | .record fields => some fields
  | _ => none

def property (fields : List (String × Value)) (name : String) : Value :=
  ((fields.find? fun f => decide (f.1 = name)).map Prod.snd).getD .other

def record (input : Value) (message : String) : Parsed (List (String × Value)) :=
  match input.fields with
  | some fields => .ok fields
  | none => .error (configError message)

def publicToken (input : Value) (label : String) : Parsed Id :=
  match input with
  | .string s =>
      if isOpaqueId (Connectors.usvString s) then .ok (Connectors.usvString s)
      else .error (configError s!"{label} must be a public token.")
  | _ => .error (configError s!"{label} must be a public token.")

def displayText (input : Value) (label : String) (maxLength : ℕ) : Parsed Connectors.Text :=
  match input with
  | .string s =>
      if decide (Connectors.trim s = []) || decide (maxLength < s.length) then
        .error (configError s!"{label} must be non-empty text.")
      else .ok s
  | _ => .error (configError s!"{label} must be non-empty text.")

def arrayOf {α : Type} (input : Value) (label : String) (parser : Value → String → Parsed α) : Parsed (List α) :=
  match input with
  | .array items => (items.zipIdx).mapM fun (value, index) => parser value s!"{label}[{index}]"
  | _ => .error (configError s!"{label} must be an array.")

def exactHttpsOrigin (web : Web) (input : Value) (label : String) : Parsed String :=
  match input with
  | .string s =>
      match web.newURL (Connectors.usvString s) with
      | some url =>
          if url.protocol = "https:" ∧ Connectors.text url.origin = s then .ok url.origin
          else .error (configError s!"{label} must be an exact HTTPS origin.")
      | none => .error (configError s!"{label} must be an exact HTTPS origin.")
  | _ => .error (configError s!"{label} must be an origin.")

def privateFieldNames : List String :=
  ["agentSlug", "apiKey", "baseUrl", "connectorToken", "credential", "credentials", "haystackTenantKey", "model",
    "provider", "secret", "tenantKey", "token"]

mutual

def rejectPrivateFields (path : String) : Value → Parsed Unit
  | .array items => rejectItems path 0 items
  | .record fields => rejectFields path fields
  | _ => .ok ()

def rejectItems (path : String) (index : ℕ) : List Value → Parsed Unit
  | [] => .ok ()
  | value :: items => do
      rejectPrivateFields s!"{path}[{index}]" value
      rejectItems path (index + 1) items

def rejectFields (path : String) : List (String × Value) → Parsed Unit
  | [] => .ok ()
  | (key, value) :: fields => do
      require (!privateFieldNames.contains key) s!"{path}.{key} is private connector wiring."
      rejectPrivateFields s!"{path}.{key}" value
      rejectFields path fields

end

def parseTenant (input : Value) : Parsed TenantConfig := do
  let fields ← record input "tenant must be an object."
  let tenantId ← publicToken (property fields "tenantId") "tenant.tenantId"
  let displayName ← displayText (property fields "displayName") "tenant.displayName" 200
  return ⟨tenantId, displayName⟩

def parseSite (web : Web) (input : Value) : Parsed SiteConfig := do
  let fields ← record input "site must be an object."
  let allowedOrigins ← arrayOf (property fields "allowedOrigins") "site.allowedOrigins" (exactHttpsOrigin web)
  require (decide (1 ≤ allowedOrigins.length ∧ allowedOrigins.length ≤ 20))
    "site.allowedOrigins must contain 1 to 20 origins."
  let siteId ← publicToken (property fields "siteId") "site.siteId"
  let siteKey ← publicToken (property fields "siteKey") "site.siteKey"
  let displayName ← displayText (property fields "displayName") "site.displayName" 200
  return ⟨siteId, siteKey, displayName, allowedOrigins⟩

def parseAgentAlias (input : Value) (label : String) : Parsed SiteWidgetAgentAlias := do
  let fields ← record input s!"{label} must be an object."
  let agentAlias ← publicToken (property fields "alias") s!"{label}.alias"
  let name ← displayText (property fields "label") s!"{label}.label" 80
  let agentRef ← publicToken (property fields "agentRef") s!"{label}.agentRef"
  return ⟨agentAlias, name, agentRef, match property fields "emailHandoff" with
    | .bool true => true
    | _ => false⟩

def parseWidget (input : Value) : Parsed WidgetConfig := do
  let fields ← record input "widget must be an object."
  let agentAliases ← arrayOf (property fields "agentAliases") "widget.agentAliases" parseAgentAlias
  require (decide (1 ≤ agentAliases.length ∧ agentAliases.length ≤ 20))
    "widget.agentAliases must contain 1 to 20 aliases."
  require (decide (agentAliases.map SiteWidgetAgentAlias.agentAlias).Nodup) "widget.agentAliases must be unique."
  let widgetId ← publicToken (property fields "widgetId") "widget.widgetId"
  let widgetKey ← publicToken (property fields "widgetKey") "widget.widgetKey"
  let displayName ← displayText (property fields "displayName") "widget.displayName" 200
  let version ← publicToken (property fields "version") "widget.version"
  let theme ← publicToken (property fields "theme") "widget.theme"
  let launcher ← publicToken (property fields "launcher") "widget.launcher"
  let placement ← publicToken (property fields "placement") "widget.placement"
  let defaultAgentAlias ← publicToken (property fields "defaultAgentAlias") "widget.defaultAgentAlias"
  return { widgetId, widgetKey, displayName, version, theme, launcher, placement, defaultAgentAlias, agentAliases }

def aliasNamed (name : Id) (agentAliases : List SiteWidgetAgentAlias) : Option SiteWidgetAgentAlias :=
  agentAliases.find? fun a => decide (a.agentAlias = name)

def parseWidgetProvisioningConfig (web : Web) (input : Value) : Parsed WidgetProvisioningConfig := do
  rejectPrivateFields "config" input
  let fields ← record input "Config must be an object."
  let tenant ← parseTenant (property fields "tenant")
  let site ← parseSite web (property fields "site")
  let widget ← parseWidget (property fields "widget")
  match aliasNamed widget.defaultAgentAlias widget.agentAliases with
  | none => .error (configError "defaultAgentAlias must match one configured public alias.")
  | some defaultAlias => return ⟨tenant, site, defaultAlias.agentRef, widget⟩

section Accepted

variable {web : Web}

lemma publicToken_ok {input : Value} {label : String} {s : Id} (h : publicToken input label = .ok s) :
    isOpaqueId s = true := by
  unfold publicToken at h
  split at h
  · split at h
    case isTrue ht =>
      cases h
      exact ht
    · cases h
  · cases h

lemma isOpaqueId_ne_empty {s : Id} (h : isOpaqueId s = true) : s ≠ "" := by
  rintro rfl
  exact absurd h (by decide)

lemma exactHttpsOrigin_ok {input : Value} {label origin : String}
    (h : exactHttpsOrigin web input label = .ok origin) :
    web.newURL origin = some ⟨"https:", origin⟩ := by
  unfold exactHttpsOrigin at h
  split at h
  · split at h
    case h_1 s url hurl =>
      split at h
      case isTrue hs =>
        cases h
        obtain ⟨hp, ho⟩ := hs
        cases url
        simp only at hp ho
        subst hp ho
        rwa [Connectors.usvString_text] at hurl
      · cases h
    · cases h
  · cases h

lemma mapM_ok {α β : Type} {f : α → Parsed β} : ∀ {l : List α} {bs : List β}, l.mapM f = .ok bs →
    ∀ b ∈ bs, ∃ a ∈ l, f a = .ok b := by
  intro l
  induction l with
  | nil =>
    intro bs h b hb
    rw [List.mapM_nil, pure_eq_ok] at h
    exact absurd (h ▸ hb) List.not_mem_nil
  | cons a l ih =>
    intro bs h b hb
    rw [List.mapM_cons] at h
    obtain ⟨c, hc, h⟩ := bind_eq_ok.mp h
    obtain ⟨cs, hcs, h⟩ := bind_eq_ok.mp h
    rw [← pure_eq_ok.mp h, List.mem_cons] at hb
    rcases hb with rfl | hb
    · exact ⟨a, List.mem_cons_self, hc⟩
    · obtain ⟨a', ha', hf⟩ := ih hcs b hb
      exact ⟨a', List.mem_cons_of_mem _ ha', hf⟩

lemma arrayOf_ok {α : Type} {input : Value} {label : String} {parser : Value → String → Parsed α} {as : List α}
    (h : arrayOf input label parser = .ok as) : ∀ a ∈ as, ∃ value label, parser value label = .ok a := by
  unfold arrayOf at h
  split at h
  · intro a ha
    obtain ⟨⟨value, index⟩, -, hp⟩ := mapM_ok h a ha
    exact ⟨value, _, hp⟩
  · cases h

structure Accepted (web : Web) (config : WidgetProvisioningConfig) : Prop where
  siteKey : isOpaqueId config.site.siteKey = true
  widgetKey : isOpaqueId config.widget.widgetKey = true
  origins : ∀ origin ∈ config.site.allowedOrigins, web.newURL origin = some ⟨"https:", origin⟩
  someOrigin : config.site.allowedOrigins ≠ []
  unique : (config.widget.agentAliases.map SiteWidgetAgentAlias.agentAlias).Nodup
  aliases : ∀ a ∈ config.widget.agentAliases, isOpaqueId a.agentAlias = true
  default : (aliasNamed config.widget.defaultAgentAlias config.widget.agentAliases).map
    SiteWidgetAgentAlias.agentRef = some config.agentRef

lemma parseSite_ok {input : Value} {site : SiteConfig} (h : parseSite web input = .ok site) :
    isOpaqueId site.siteKey = true ∧
      (∀ origin ∈ site.allowedOrigins, web.newURL origin = some ⟨"https:", origin⟩) ∧
      site.allowedOrigins ≠ [] := by
  obtain ⟨fields, -, h⟩ := bind_eq_ok.mp h
  obtain ⟨allowedOrigins, horigins, h⟩ := bind_eq_ok.mp h
  obtain ⟨u, hlength, h⟩ := bind_eq_ok.mp h
  obtain ⟨siteId, -, h⟩ := bind_eq_ok.mp h
  obtain ⟨siteKey, hkey, h⟩ := bind_eq_ok.mp h
  obtain ⟨displayName, -, h⟩ := bind_eq_ok.mp h
  rw [← pure_eq_ok.mp h]
  have hlength := of_decide_eq_true (require_ok.mp hlength)
  refine ⟨publicToken_ok hkey, fun origin ho => ?_, fun hnil => ?_⟩
  · obtain ⟨value, label, hp⟩ := arrayOf_ok horigins origin ho
    exact exactHttpsOrigin_ok hp
  · simp only at hnil
    rw [hnil] at hlength
    exact absurd hlength.1 (by decide)

lemma parseAgentAlias_ok {input : Value} {label : String} {a : SiteWidgetAgentAlias}
    (h : parseAgentAlias input label = .ok a) : isOpaqueId a.agentAlias = true := by
  obtain ⟨fields, -, h⟩ := bind_eq_ok.mp h
  obtain ⟨agentAlias, halias, h⟩ := bind_eq_ok.mp h
  obtain ⟨name, -, h⟩ := bind_eq_ok.mp h
  obtain ⟨agentRef, -, h⟩ := bind_eq_ok.mp h
  rw [← pure_eq_ok.mp h]
  exact publicToken_ok halias

lemma parseWidget_ok {input : Value} {widget : WidgetConfig} (h : parseWidget input = .ok widget) :
    isOpaqueId widget.widgetKey = true ∧ (widget.agentAliases.map SiteWidgetAgentAlias.agentAlias).Nodup ∧
      ∀ a ∈ widget.agentAliases, isOpaqueId a.agentAlias = true := by
  obtain ⟨fields, -, h⟩ := bind_eq_ok.mp h
  obtain ⟨agentAliases, haliases, h⟩ := bind_eq_ok.mp h
  obtain ⟨_, -, h⟩ := bind_eq_ok.mp h
  obtain ⟨_, hunique, h⟩ := bind_eq_ok.mp h
  obtain ⟨widgetId, -, h⟩ := bind_eq_ok.mp h
  obtain ⟨widgetKey, hkey, h⟩ := bind_eq_ok.mp h
  obtain ⟨displayName, -, h⟩ := bind_eq_ok.mp h
  obtain ⟨version, -, h⟩ := bind_eq_ok.mp h
  obtain ⟨theme, -, h⟩ := bind_eq_ok.mp h
  obtain ⟨launcher, -, h⟩ := bind_eq_ok.mp h
  obtain ⟨placement, -, h⟩ := bind_eq_ok.mp h
  obtain ⟨defaultAgentAlias, -, h⟩ := bind_eq_ok.mp h
  rw [← pure_eq_ok.mp h]
  refine ⟨publicToken_ok hkey, of_decide_eq_true (require_ok.mp hunique), fun a ha => ?_⟩
  obtain ⟨value, label, hp⟩ := arrayOf_ok haliases a ha
  exact parseAgentAlias_ok hp

lemma accepted_of_parsed {input : Value} {config : WidgetProvisioningConfig}
    (h : parseWidgetProvisioningConfig web input = .ok config) : Accepted web config := by
  obtain ⟨_, -, h⟩ := bind_eq_ok.mp h
  obtain ⟨fields, -, h⟩ := bind_eq_ok.mp h
  obtain ⟨tenant, -, h⟩ := bind_eq_ok.mp h
  obtain ⟨site, hsite, h⟩ := bind_eq_ok.mp h
  obtain ⟨widget, hwidget, h⟩ := bind_eq_ok.mp h
  obtain ⟨hkey, horigins, hsome⟩ := parseSite_ok hsite
  obtain ⟨hwidgetKey, hunique, haliases⟩ := parseWidget_ok hwidget
  split at h
  · cases h
  case h_2 defaultAlias hdefault =>
    rw [← pure_eq_ok.mp h]
    exact ⟨hkey, hwidgetKey, horigins, hsome, hunique, haliases, by simp only [hdefault, Option.map_some]⟩

end Accepted

end ChatCore.Provisioning
