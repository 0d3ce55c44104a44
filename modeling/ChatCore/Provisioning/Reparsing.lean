import ChatCore.Provisioning.Moves

namespace ChatCore.Provisioning

open Protocol Relational Database Services

section Privacy

inductive Inside (w : Value) : Value → Prop
  | refl : Inside w w
  | item {v : Value} {items : List Value} (hv : v ∈ items) (h : Inside w v) : Inside w (.array items)
  | field {f : String × Value} {fields : List (String × Value)} (hf : f ∈ fields) (h : Inside w f.2) :
      Inside w (.record fields)

def HasPrivateField (input : Value) : Prop :=
  ∃ fields, Inside (.record fields) input ∧ ∃ f ∈ fields, f.1 ∈ privateFieldNames

variable {items : List Value} {fields : List (String × Value)}

lemma hasPrivateField_array : HasPrivateField (.array items) ↔ ∃ v ∈ items, HasPrivateField v := by
  constructor
  · rintro ⟨fields, h, hf⟩
    cases h with
    | item hv h => exact ⟨_, hv, fields, h, hf⟩
  · rintro ⟨v, hv, fields, h, hf⟩
    exact ⟨fields, .item hv h, hf⟩

lemma hasPrivateField_record : HasPrivateField (.record fields) ↔
    ∃ f ∈ fields, f.1 ∈ privateFieldNames ∨ HasPrivateField f.2 := by
  constructor
  · rintro ⟨inner, h, f, hf, hp⟩
    cases h with
    | refl => exact ⟨f, hf, .inl hp⟩
    | field hg h => exact ⟨_, hg, .inr ⟨inner, h, f, hf, hp⟩⟩
  · rintro ⟨f, hf, hp | ⟨inner, h, hp⟩⟩
    · exact ⟨fields, .refl, f, hf, hp⟩
    · exact ⟨inner, .field hf h, hp⟩

lemma not_hasPrivateField_string (s : Connectors.Text) : ¬ HasPrivateField (.string s) := by
  rintro ⟨_, h, -⟩
  cases h

lemma not_hasPrivateField_bool (b : Bool) : ¬ HasPrivateField (.bool b) := by
  rintro ⟨_, h, -⟩
  cases h

lemma not_hasPrivateField_other : ¬ HasPrivateField .other := by
  rintro ⟨_, h, -⟩
  cases h

lemma checks_ok {x y : Parsed Unit} : (do x; y) = .ok () ↔ x = .ok () ∧ y = .ok () := by
  rw [bind_eq_ok]
  constructor
  · rintro ⟨_, hx, hy⟩
    exact ⟨hx, hy⟩
  · rintro ⟨hx, hy⟩
    exact ⟨(), hx, hy⟩

mutual

theorem rejectPrivateFields_ok (path : String) :
    ∀ input, rejectPrivateFields path input = .ok () ↔ ¬ HasPrivateField input
  | .string s => iff_of_true rfl (not_hasPrivateField_string s)
  | .bool b => iff_of_true rfl (not_hasPrivateField_bool b)
  | .other => iff_of_true rfl not_hasPrivateField_other
  | .array items => by
    rw [rejectPrivateFields, rejectItems_ok path 0 items, hasPrivateField_array]
    simp only [not_exists, not_and]
  | .record fields => by
    rw [rejectPrivateFields, rejectFields_ok path fields, hasPrivateField_record]
    simp only [not_exists, not_and, not_or]

theorem rejectItems_ok (path : String) (index : ℕ) :
    ∀ items, rejectItems path index items = .ok () ↔ ∀ v ∈ items, ¬ HasPrivateField v
  | [] => iff_of_true rfl fun _ h => absurd h List.not_mem_nil
  | value :: items => by
    rw [rejectItems, checks_ok, List.forall_mem_cons, rejectItems_ok path (index + 1) items,
      rejectPrivateFields_ok s!"{path}[{index}]" value]

theorem rejectFields_ok (path : String) :
    ∀ fields, rejectFields path fields = .ok () ↔ ∀ f ∈ fields, f.1 ∉ privateFieldNames ∧ ¬ HasPrivateField f.2
  | [] => iff_of_true rfl fun _ h => absurd h List.not_mem_nil
  | (key, value) :: fields => by
    rw [rejectFields, checks_ok, checks_ok, List.forall_mem_cons, rejectFields_ok path fields,
      rejectPrivateFields_ok s!"{path}.{key}" value, require_ok, and_assoc]
    simp

end

end Privacy

section Results

def Value.ofString (s : String) : Value := .string (Connectors.text s)

def SiteWidgetAgentAlias.toValue (a : SiteWidgetAgentAlias) : Value := .record (
  [("alias", .ofString a.agentAlias), ("label", .string a.label), ("agentRef", .ofString a.agentRef)] ++
    if a.emailHandoff then [("emailHandoff", .bool true)] else [])

def TenantConfig.toValue (tenant : TenantConfig) : Value := .record [
  ("tenantId", .ofString tenant.tenantId), ("displayName", .string tenant.displayName)]

def SiteConfig.toValue (site : SiteConfig) (agentRef : Id) : Value := .record [
  ("siteId", .ofString site.siteId), ("siteKey", .ofString site.siteKey),
    ("displayName", .string site.displayName),
  ("allowedOrigins", .array (site.allowedOrigins.map .ofString)), ("agentRef", .ofString agentRef)]

def WidgetConfig.toValue (widget : WidgetConfig) : Value := .record [
  ("widgetId", .ofString widget.widgetId), ("widgetKey", .ofString widget.widgetKey),
  ("displayName", .string widget.displayName), ("version", .ofString widget.version),
    ("theme", .ofString widget.theme),
  ("launcher", .ofString widget.launcher), ("placement", .ofString widget.placement),
  ("defaultAgentAlias", .ofString widget.defaultAgentAlias),
  ("agentAliases", .array (widget.agentAliases.map SiteWidgetAgentAlias.toValue))]

/-- The object that the parser returns. -/
def WidgetProvisioningConfig.toValue (config : WidgetProvisioningConfig) : Value := .record [
  ("tenant", config.tenant.toValue), ("site", config.site.toValue config.agentRef),
    ("widget", config.widget.toValue)]

variable {web : Web} {input : Value} {label s : String} {t : Connectors.Text} {maxLength : ℕ}

lemma publicToken_again (h : publicToken input label = .ok s) (label' : String) :
    publicToken (.ofString s) label' = .ok s := by
  rw [Value.ofString, publicToken, Connectors.usvString_text]
  exact if_pos (publicToken_ok h)

lemma displayText_again (h : displayText input label maxLength = .ok t) (label' : String) :
    displayText (.string t) label' maxLength = .ok t := by
  unfold displayText at h
  split at h
  · split at h
    · cases h
    · rename_i hvalid
      cases h
      exact if_neg hvalid
  · cases h

lemma exactHttpsOrigin_again (h : exactHttpsOrigin web input label = .ok s) (label' : String) :
    exactHttpsOrigin web (.ofString s) label' = .ok s := by
  have hurl := exactHttpsOrigin_ok h
  rw [Value.ofString, exactHttpsOrigin, Connectors.usvString_text, hurl]
  exact if_pos ⟨rfl, rfl⟩

lemma arrayOf_again {α : Type} {parser : Value → String → Parsed α} {toValue : α → Value} {as : List α}
    (h : ∀ a ∈ as, ∀ label, parser (toValue a) label = .ok a) (label : String) :
    arrayOf (.array (as.map toValue)) label parser = .ok as := by
  have hall : ∀ n, ((as.map toValue).zipIdx n).mapM
    (fun entry => parser entry.1 s!"{label}[{entry.2}]") = .ok as := by
    induction as with
    | nil => exact fun _ => rfl
    | cons a as ih =>
      intro n
      rw [List.map_cons, List.zipIdx_cons, List.mapM_cons]
      refine bind_eq_ok.mpr ⟨a, h a List.mem_cons_self _, bind_eq_ok.mpr ⟨as, ?_, rfl⟩⟩
      exact ih (fun a ha => h a (List.mem_cons_of_mem _ ha)) (n + 1)
  exact hall 0

lemma parseTenant_again {tenant : TenantConfig} (h : parseTenant input = .ok tenant) :
    parseTenant tenant.toValue = .ok tenant := by
  obtain ⟨fields, -, h⟩ := bind_eq_ok.mp h
  obtain ⟨tenantId, hid, h⟩ := bind_eq_ok.mp h
  obtain ⟨displayName, hname, h⟩ := bind_eq_ok.mp h
  rw [← pure_eq_ok.mp h]
  refine bind_eq_ok.mpr ⟨_, rfl, bind_eq_ok.mpr ⟨_, publicToken_again hid _, ?_⟩⟩
  exact bind_eq_ok.mpr ⟨_, displayText_again hname _, rfl⟩

lemma parseSite_again {site : SiteConfig} (h : parseSite web input = .ok site) (agentRef : Id) :
    parseSite web (site.toValue agentRef) = .ok site := by
  obtain ⟨fields, -, h⟩ := bind_eq_ok.mp h
  obtain ⟨allowedOrigins, horigins, h⟩ := bind_eq_ok.mp h
  obtain ⟨u, hlength, h⟩ := bind_eq_ok.mp h
  obtain ⟨siteId, hid, h⟩ := bind_eq_ok.mp h
  obtain ⟨siteKey, hkey, h⟩ := bind_eq_ok.mp h
  obtain ⟨displayName, hname, h⟩ := bind_eq_ok.mp h
  rw [← pure_eq_ok.mp h]
  have hagain : ∀ origin ∈ allowedOrigins, ∀ label, exactHttpsOrigin web (.ofString origin) label =
    .ok origin := by
    intro origin ho label
    obtain ⟨value, _, hp⟩ := arrayOf_ok horigins origin ho
    exact exactHttpsOrigin_again hp label
  refine bind_eq_ok.mpr ⟨_, rfl, bind_eq_ok.mpr ⟨_, arrayOf_again hagain _, bind_eq_ok.mpr ⟨u, hlength, ?_⟩⟩⟩
  refine bind_eq_ok.mpr ⟨_, publicToken_again hid _, bind_eq_ok.mpr ⟨_, publicToken_again hkey _, ?_⟩⟩
  exact bind_eq_ok.mpr ⟨_, displayText_again hname _, rfl⟩

lemma parseAgentAlias_again {a : SiteWidgetAgentAlias} (h : parseAgentAlias input label = .ok a)
    (label' : String) :
    parseAgentAlias a.toValue label' = .ok a := by
  obtain ⟨fields, -, h⟩ := bind_eq_ok.mp h
  obtain ⟨agentAlias, halias, h⟩ := bind_eq_ok.mp h
  obtain ⟨name, hname, h⟩ := bind_eq_ok.mp h
  obtain ⟨agentRef, href, h⟩ := bind_eq_ok.mp h
  have ha := pure_eq_ok.mp h
  obtain rfl : agentAlias = a.agentAlias := congrArg SiteWidgetAgentAlias.agentAlias ha
  obtain rfl : name = a.label := congrArg SiteWidgetAgentAlias.label ha
  obtain rfl : agentRef = a.agentRef := congrArg SiteWidgetAgentAlias.agentRef ha
  refine bind_eq_ok.mpr ⟨_, rfl, bind_eq_ok.mpr ⟨_, publicToken_again halias _, ?_⟩⟩
  refine bind_eq_ok.mpr ⟨_, displayText_again hname _, bind_eq_ok.mpr ⟨_, publicToken_again href _, ?_⟩⟩
  obtain ⟨_, _, _, emailHandoff⟩ := a
  cases emailHandoff <;> rfl

lemma parseWidget_again {widget : WidgetConfig} (h : parseWidget input = .ok widget) :
    parseWidget widget.toValue = .ok widget := by
  obtain ⟨fields, -, h⟩ := bind_eq_ok.mp h
  obtain ⟨agentAliases, haliases, h⟩ := bind_eq_ok.mp h
  obtain ⟨u, hlength, h⟩ := bind_eq_ok.mp h
  obtain ⟨v, hunique, h⟩ := bind_eq_ok.mp h
  obtain ⟨widgetId, hid, h⟩ := bind_eq_ok.mp h
  obtain ⟨widgetKey, hkey, h⟩ := bind_eq_ok.mp h
  obtain ⟨displayName, hname, h⟩ := bind_eq_ok.mp h
  obtain ⟨version, hversion, h⟩ := bind_eq_ok.mp h
  obtain ⟨theme, htheme, h⟩ := bind_eq_ok.mp h
  obtain ⟨launcher, hlauncher, h⟩ := bind_eq_ok.mp h
  obtain ⟨placement, hplacement, h⟩ := bind_eq_ok.mp h
  obtain ⟨defaultAgentAlias, hdefault, h⟩ := bind_eq_ok.mp h
  rw [← pure_eq_ok.mp h]
  have hagain : ∀ a ∈ agentAliases, ∀ label, parseAgentAlias a.toValue label = .ok a := by
    intro a ha label
    obtain ⟨value, _, hp⟩ := arrayOf_ok haliases a ha
    exact parseAgentAlias_again hp label
  refine bind_eq_ok.mpr ⟨_, rfl, bind_eq_ok.mpr ⟨_, arrayOf_again hagain _, ?_⟩⟩
  refine bind_eq_ok.mpr ⟨u, hlength, bind_eq_ok.mpr ⟨v, hunique, ?_⟩⟩
  refine bind_eq_ok.mpr ⟨_, publicToken_again hid _, bind_eq_ok.mpr ⟨_, publicToken_again hkey _, ?_⟩⟩
  refine bind_eq_ok.mpr ⟨_, displayText_again hname _, bind_eq_ok.mpr ⟨_, publicToken_again hversion _, ?_⟩⟩
  refine bind_eq_ok.mpr ⟨_, publicToken_again htheme _, bind_eq_ok.mpr ⟨_, publicToken_again hlauncher _, ?_⟩⟩
  refine bind_eq_ok.mpr ⟨_, publicToken_again hplacement _, bind_eq_ok.mpr ⟨_, publicToken_again hdefault _, rfl⟩⟩

lemma not_private_toValue (config : WidgetProvisioningConfig) : ¬ HasPrivateField config.toValue := by
  have halias : ∀ a : SiteWidgetAgentAlias, ¬ HasPrivateField a.toValue := by
    rintro ⟨_, _, _, emailHandoff⟩
    cases emailHandoff <;>
      simp [SiteWidgetAgentAlias.toValue, Value.ofString, hasPrivateField_record, not_hasPrivateField_string,
      not_hasPrivateField_bool, privateFieldNames]
  simp [WidgetProvisioningConfig.toValue, TenantConfig.toValue, SiteConfig.toValue, WidgetConfig.toValue,
    Value.ofString, hasPrivateField_record, hasPrivateField_array, not_hasPrivateField_string, halias,
      privateFieldNames]

lemma aliasNamed_eq_some {name : Id} {agentAliases : List SiteWidgetAgentAlias} {a : SiteWidgetAgentAlias}
    (h : aliasNamed name agentAliases = some a) : a ∈ agentAliases ∧ a.agentAlias = name := by
  rw [aliasNamed] at h
  exact ⟨List.mem_of_find?_eq_some h, by simpa using List.find?_some h⟩

lemma parse_again {config : WidgetProvisioningConfig} (h : parseWidgetProvisioningConfig web input = .ok config) :
    parseWidgetProvisioningConfig web config.toValue = .ok config := by
  have hreject := (rejectPrivateFields_ok "config" _).mpr (not_private_toValue config)
  obtain ⟨_, -, h⟩ := bind_eq_ok.mp h
  obtain ⟨fields, -, h⟩ := bind_eq_ok.mp h
  obtain ⟨tenant, htenant, h⟩ := bind_eq_ok.mp h
  obtain ⟨site, hsite, h⟩ := bind_eq_ok.mp h
  obtain ⟨widget, hwidget, h⟩ := bind_eq_ok.mp h
  split at h
  · cases h
  · rename_i defaultAlias hdefault
    rw [← pure_eq_ok.mp h] at hreject ⊢
    refine bind_eq_ok.mpr ⟨_, hreject, bind_eq_ok.mpr ⟨_, rfl, bind_eq_ok.mpr ⟨_, parseTenant_again htenant, ?_⟩⟩⟩
    refine bind_eq_ok.mpr ⟨_, parseSite_again hsite _, bind_eq_ok.mpr ⟨_, parseWidget_again hwidget, ?_⟩⟩
    rw [hdefault]
    rfl

/-- What the parser accepts is public and canonical, and it accepts nothing private. -/
theorem config_parsing (web : Web) (input : Value) :
    (∀ config, parseWidgetProvisioningConfig web input = .ok config →
      ¬ HasPrivateField input ∧ (config.widget.agentAliases.map SiteWidgetAgentAlias.agentAlias).Nodup ∧
      (∃ a ∈ config.widget.agentAliases, a.agentAlias = config.widget.defaultAgentAlias ∧
        a.agentRef = config.agentRef) ∧
      (∀ origin ∈ config.site.allowedOrigins, web.newURL origin = some ⟨"https:", origin⟩) ∧
      parseWidgetProvisioningConfig web config.toValue = .ok config) ∧
    (HasPrivateField input → ∃ e, parseWidgetProvisioningConfig web input = .error e) := by
  have hpublic : ∀ config, parseWidgetProvisioningConfig web input = .ok config → ¬ HasPrivateField input := by
    intro config h
    obtain ⟨u, hreject, -⟩ := bind_eq_ok.mp h
    exact (rejectPrivateFields_ok "config" input).mp hreject
  constructor
  · intro config h
    have haccepted := accepted_of_parsed h
    obtain ⟨a, ha, href⟩ := Option.map_eq_some_iff.mp haccepted.default
    obtain ⟨hmem, hname⟩ := aliasNamed_eq_some ha
    exact ⟨hpublic config h, haccepted.unique, ⟨a, hmem, hname, href⟩, haccepted.origins, parse_again h⟩
  · intro hprivate
    cases h : parseWidgetProvisioningConfig web input with
    | error e => exact ⟨e, rfl⟩
    | ok config => exact absurd hprivate (hpublic config h)

end Results

section Scenario

def leaky : Value := .record [("tenant", .record []), ("notes", .array [.record [("apiKey", .ofString "secret")]])]

lemma leaky_private : HasPrivateField leaky := by
  simp [leaky, hasPrivateField_record, hasPrivateField_array, privateFieldNames]

theorem shop_config_parsing : parseWidgetProvisioningConfig web (configFor (Connectors.text "Buyer")) =
    .ok (configOf (Connectors.text "Buyer")) ∧
    parseWidgetProvisioningConfig web (configOf (Connectors.text "Buyer")).toValue =
      .ok (configOf (Connectors.text "Buyer")) ∧
      ∃ e, parseWidgetProvisioningConfig web leaky = .error e := by
  have hparse : parseWidgetProvisioningConfig web (configFor (Connectors.text "Buyer")) =
    .ok (configOf (Connectors.text "Buyer")) := by rfl
  obtain ⟨-, -, -, -, hagain⟩ := (config_parsing web (configFor (Connectors.text "Buyer"))).1 _ hparse
  exact ⟨hparse, hagain, (config_parsing web leaky).2 leaky_private⟩

end Scenario

end ChatCore.Provisioning
