import ChatCore.Protocol.Cursors
import ChatCore.Provisioning.Resolution
import Mathlib.Data.List.Nodup
import Mathlib.Data.String.Basic

namespace ChatCore.Provisioning

open Protocol Relational Database Services

abbrev Object (α : Type) := List (String × α)

def objectPrototype : List String :=
  ["constructor", "__defineGetter__", "__defineSetter__", "hasOwnProperty", "__lookupGetter__", "__lookupSetter__",
    "isPrototypeOf", "propertyIsEnumerable", "toString", "valueOf", "__proto__", "toLocaleString"]

section Objects

variable {α : Type}

def names (object : Object α) : List String := object.map Prod.fst

/-- `object[name]` is truthy; all own values are objects. -/
def has (object : Object α) (name : String) : Bool := decide (name ∈ names object) || objectPrototype.contains name

def assign (object : Object α) (name : String) (value : α) : Object α :=
  if name ∈ names object then object.map fun p => if p.1 = name then (name, value) else p else object ++
    [(name, value)]

variable {object : Object α} {name : String} {value : α}

lemma has_iff : has object name = true ↔ name ∈ names object ∨ name ∈ objectPrototype := by
  simp [has]

lemma assign_new (h : name ∉ names object) : assign object name value = object ++ [(name, value)] := if_neg h

lemma names_append (other : Object α) : names (object ++ other) = names object ++ names other := List.map_append

lemma foldl_assign {β : Type} {key : β → String} {toValue : β → α} {items : List β}
    (h : (names object ++ items.map key).Nodup) :
    items.foldl (fun o b => assign o (key b) (toValue b)) object = object ++ items.map fun b =>
      (key b, toValue b) := by
  induction items generalizing object with
  | nil => simp
  | cons b items ih =>
    rw [List.map_cons, List.append_cons] at h
    have hnew : key b ∉ names object := by
      have hfront := h.of_append_left
      rw [List.nodup_append] at hfront
      exact fun hin => hfront.2.2 _ hin _ (List.mem_singleton_self _) rfl
    rw [List.foldl_cons, assign_new hnew, ih (by rw [names_append]; exact h), List.append_assoc]
    rfl

end Objects

structure WorkerAlias where
  siteKey : Id
  label : Connectors.Text
  emailHandoff : Bool
  deriving DecidableEq, Repr

structure WorkerWidget where
  widgetKey : Id
  version : Id
  defaultAgent : Id
  theme : Id
  launcher : Id
  placement : Id
  agentAliases : Object WorkerAlias
  deriving DecidableEq, Repr

structure WorkerChatSite where
  siteKey : Id
  allowedOrigins : List String
  widget : WorkerWidget
  deriving DecidableEq, Repr

abbrev WorkerChatSites := Object WorkerChatSite

section Export

variable (collation : Collation) (web : Web) (hostname : URL → String)

def hostnameForOrigin (origin : String) : Except ServerError String :=
  match web.newURL origin with
  | some url =>
      if url.protocol = "https:" ∧ url.origin = origin then .ok (hostname url).toLower
      else .error (.error s!"Invalid origin {origin}.")
  | none => .error (.error s!"Invalid origin {origin}.")

/-- The join of `site_widgets` with `sites`, whose primary key is `site_id`. -/
def joined (db : Registry) : List (Site × SiteWidget) :=
  db.siteWidgets.rows.filterMap fun w =>
    (db.sites.rows.find? fun s => decide (s.tenantId = w.tenantId) && decide (s.siteId = w.siteId)).map
      fun s => (s, w)

def siteFirst (left right : Site × SiteWidget) : Bool :=
  decide (collation.sortKey left.1.siteId < collation.sortKey right.1.siteId) ||
    (decide (left.1.siteId = right.1.siteId) &&
      decide (collation.sortKey left.2.widgetId ≤ collation.sortKey right.2.widgetId))

def workerAlias (site : Site) (a : SiteWidgetAgentAlias) : WorkerAlias := ⟨site.siteKey, a.label, a.emailHandoff⟩

/-- No alias is `__proto__`: a public token starts with a letter or a digit. -/
def workerAliases (site : Site) (widget : SiteWidget) : Object WorkerAlias :=
  widget.agentAliases.foldl (fun aliases a => assign aliases a.agentAlias (workerAlias site a)) []

def workerSite (site : Site) (widget : SiteWidget) : WorkerChatSite :=
  ⟨site.siteKey, site.allowedOrigins, widget.widgetKey, widget.version, widget.defaultAgentAlias, widget.theme,
    widget.launcher, widget.placement, workerAliases site widget⟩

def exportOrigin (row : Site × SiteWidget) (sites : WorkerChatSites) (origin : String) :
    Except ServerError WorkerChatSites := do
  let hostname ← hostnameForOrigin web hostname origin
  if has sites hostname then .error (.error s!"Multiple widgets target hostname {hostname}.")
  else .ok (assign sites hostname (workerSite row.1 row.2))

def exportWidget (sites : WorkerChatSites) (row : Site × SiteWidget) : Except ServerError WorkerChatSites :=
  if has (workerAliases row.1 row.2) row.2.defaultAgentAlias then
    row.1.allowedOrigins.foldlM (exportOrigin web hostname row) sites
  else .error (.error s!"Widget {row.2.widgetKey} default alias is not configured.")

def exportWorkerChatSites (db : Registry) : Except ServerError WorkerChatSites :=
  ((joined db).mergeSort (siteFirst collation)).foldlM (exportWidget web hostname) []

end Export

section Rows

variable {web : Web} {hostname : URL → String} {row : Site × SiteWidget} {sites after : WorkerChatSites}
  {origin : String}

def hostOf (hostname : URL → String) (origin : String) : String := (hostname ⟨"https:", origin⟩).toLower

def hostNames (hostname : URL → String) (site : Site) : List String := site.allowedOrigins.map (hostOf hostname)

def targets (hostname : URL → String) (row : Site × SiteWidget) : WorkerChatSites :=
  row.1.allowedOrigins.map fun origin => (hostOf hostname origin, workerSite row.1 row.2)

structure Registered (web : Web) (row : Site × SiteWidget) : Prop where
  origins : ∀ origin ∈ row.1.allowedOrigins, web.newURL origin = some ⟨"https:", origin⟩
  unique : (row.2.agentAliases.map SiteWidgetAgentAlias.agentAlias).Nodup
  default : row.2.defaultAgentAlias ∈ row.2.agentAliases.map SiteWidgetAgentAlias.agentAlias

lemma names_targets : names (targets hostname row) = hostNames hostname row.1 := by
  rw [names, targets, List.map_map]
  rfl

lemma workerAliases_eq (h : Registered web row) : workerAliases row.1 row.2 =
    row.2.agentAliases.map fun a => (a.agentAlias, workerAlias row.1 a) := foldl_assign h.unique

lemma default_configured (h : Registered web row) :
    has (workerAliases row.1 row.2) row.2.defaultAgentAlias = true := by
  refine has_iff.mpr (Or.inl ?_)
  rw [workerAliases_eq h, names, List.map_map]
  exact h.default

lemma exportOrigin_ok (h : web.newURL origin = some ⟨"https:", origin⟩) :
    exportOrigin web hostname row sites origin = .ok after ↔ hostOf hostname origin ∉ names sites ∧
      hostOf hostname origin ∉ objectPrototype ∧
      after = sites ++ [(hostOf hostname origin, workerSite row.1 row.2)] := by
  have hhost : hostnameForOrigin web hostname origin = .ok (hostOf hostname origin) := by
    simp only [hostnameForOrigin, h, and_self, if_true]
    rfl
  have hstep : exportOrigin web hostname row sites origin = if has sites (hostOf hostname origin) then
      .error (.error s!"Multiple widgets target hostname {hostOf hostname origin}.")
        else .ok (assign sites (hostOf hostname origin) (workerSite row.1 row.2)) := by
    rw [exportOrigin, hhost]
    rfl
  rw [hstep]
  by_cases htaken : has sites (hostOf hostname origin) = true
  · rw [if_pos htaken]
    refine iff_of_false (fun he => nomatch he) ?_
    rintro ⟨hnames, hproto, -⟩
    exact (has_iff.mp htaken).elim hnames hproto
  · rw [if_neg htaken]
    rw [has_iff, not_or] at htaken
    rw [assign_new htaken.1]
    constructor
    · intro he
      exact ⟨htaken.1, htaken.2, (Except.ok.inj he).symm⟩
    · rintro ⟨-, -, rfl⟩
      rfl

/-- New names, each once and none inherited. -/
structure Fresh (taken new : List String) : Prop where
  nodup : new.Nodup
  absent : ∀ name ∈ new, name ∉ taken
  own : ∀ name ∈ new, name ∉ objectPrototype

lemma fresh_nil (taken : List String) : Fresh taken [] :=
  ⟨List.nodup_nil, fun _ h => absurd h List.not_mem_nil, fun _ h => absurd h List.not_mem_nil⟩

lemma fresh_append {taken new more : List String} :
    Fresh taken (new ++ more) ↔ Fresh taken new ∧ Fresh (taken ++ new) more := by
  constructor
  · rintro ⟨hn, ha, ho⟩
    rw [List.forall_mem_append] at ha ho
    rw [List.nodup_append] at hn
    refine ⟨⟨hn.1, ha.1, ho.1⟩, hn.2.1, fun name hm hin => ?_, ho.2⟩
    rcases List.mem_append.mp hin with hin | hin
    · exact ha.2 name hm hin
    · exact hn.2.2 name hin name hm rfl
  · rintro ⟨hnew, hmore⟩
    refine ⟨List.nodup_append.mpr ⟨hnew.nodup, hmore.nodup, ?_⟩, List.forall_mem_append.mpr ⟨hnew.absent, ?_⟩,
      List.forall_mem_append.mpr ⟨hnew.own, hmore.own⟩⟩
    · rintro name hm _ hm' rfl
      exact hmore.absent name hm' (List.mem_append_right _ hm)
    · exact fun name hm hin => hmore.absent name hm (List.mem_append_left _ hin)

lemma fresh_singleton {taken : List String} {name : String} :
    Fresh taken [name] ↔ name ∉ taken ∧ name ∉ objectPrototype := by
  constructor
  · exact fun h => ⟨h.absent name (List.mem_singleton_self _), h.own name (List.mem_singleton_self _)⟩
  · rintro ⟨ha, ho⟩
    exact ⟨List.nodup_singleton _, List.forall_mem_singleton.mpr ha, List.forall_mem_singleton.mpr ho⟩

lemma foldlM_fresh {α : Type} {step : WorkerChatSites → α → Except ServerError WorkerChatSites}
    (given : α → WorkerChatSites) {items : List α}
    (h : ∀ a ∈ items, ∀ sites after, step sites a = .ok after ↔
      Fresh (names sites) (names (given a)) ∧ after = sites ++ given a) (sites after : WorkerChatSites) :
    items.foldlM step sites = .ok after ↔
      Fresh (names sites) (names (items.flatMap given)) ∧ after = sites ++ items.flatMap given := by
  induction items generalizing sites with
  | nil =>
    rw [List.foldlM_nil, pure_eq_ok, List.flatMap_nil, List.append_nil]
    exact ⟨fun he => ⟨fresh_nil _, he.symm⟩, fun he => he.2.symm⟩
  | cons a items ih =>
    have ih := ih (fun b hb => h b (List.mem_cons_of_mem _ hb))
    rw [List.foldlM_cons, bind_eq_ok, List.flatMap_cons, names_append, fresh_append]
    constructor
    · rintro ⟨next, hstep, hrest⟩
      obtain ⟨hfresh, rfl⟩ := (h a List.mem_cons_self sites next).mp hstep
      obtain ⟨hmore, rfl⟩ := (ih _).mp hrest
      rw [names_append] at hmore
      exact ⟨⟨hfresh, hmore⟩, List.append_assoc _ _ _⟩
    · rintro ⟨⟨hfresh, hmore⟩, rfl⟩
      refine ⟨sites ++ given a, (h a List.mem_cons_self sites _).mpr ⟨hfresh, rfl⟩, (ih _).mpr ⟨?_, ?_⟩⟩
      · rwa [names_append]
      · rw [List.append_assoc]

lemma exportWidget_ok (h : Registered web row) (sites after : WorkerChatSites) :
    exportWidget web hostname sites row = .ok after ↔
      Fresh (names sites) (names (targets hostname row)) ∧ after = sites ++ targets hostname row := by
  rw [exportWidget, if_pos (default_configured h)]
  have hall : targets hostname row = row.1.allowedOrigins.flatMap fun origin =>
      [(hostOf hostname origin, workerSite row.1 row.2)] := List.map_eq_flatMap
  rw [hall]
  refine foldlM_fresh _ (fun origin ho sites after => ?_) sites after
  rw [exportOrigin_ok (h.origins origin ho), ← and_assoc]
  exact and_congr_left' fresh_singleton.symm

end Rows

section Built

def unprovisioned : Registry where
  toTables := unused ∅ ∅ ∅
  tenants := ∅
  sites := ∅
  siteWidgets := ∅
  auditEvents := ∅

/-- The registries that successful provisionings build. -/
inductive Built (web : Web) : Registry → Prop
  | unprovisioned : Built web unprovisioned
  | provision {before after : Registry} {input : Value} {config : WidgetProvisioningConfig}
      {now currentTimestamp : Timestamp}
      (h : Built web before)
      (hp : provisionWidgetRegistry web input now currentTimestamp before = (.ok config, after)) : Built web after

variable {web : Web} {hostname : URL → String} {db before after : Registry} {config : WidgetProvisioningConfig}

structure Sound (web : Web) (db : Registry) : Prop where
  origins : ∀ s ∈ db.sites, ∀ origin ∈ s.allowedOrigins, web.newURL origin = some ⟨"https:", origin⟩
  unique : ∀ w ∈ db.siteWidgets, (w.agentAliases.map SiteWidgetAgentAlias.agentAlias).Nodup
  default : ∀ w ∈ db.siteWidgets, w.defaultAgentAlias ∈ w.agentAliases.map SiteWidgetAgentAlias.agentAlias

lemma rehomed_aliases (w : SiteWidget) : (rehomed config before w).agentAliases = w.agentAliases ∧
    (rehomed config before w).defaultAgentAlias = w.defaultAgentAlias := by
  rw [rehomed]
  split <;> exact ⟨rfl, rfl⟩

lemma default_of_accepted (hc : Accepted web config) :
    config.widget.defaultAgentAlias ∈ config.widget.agentAliases.map SiteWidgetAgentAlias.agentAlias := by
  obtain ⟨a, ha, -⟩ := Option.map_eq_some_iff.mp hc.default
  rw [aliasNamed] at ha
  have hname : a.agentAlias = config.widget.defaultAgentAlias := by simpa using List.find?_some ha
  exact hname ▸ List.mem_map_of_mem (List.mem_of_find?_eq_some ha)

lemma Sound.provisioned (h : Sound web before) (hi : Immediate after) (hc : Accepted web config)
    (ho : Outcome config before after) : Sound web after := by
  obtain ⟨site, hsite, hkey, -, -, horigins, -⟩ := ho.site
  obtain ⟨widget, hwidget, hid, -, -, -, hdefault, haliases⟩ := ho.widget
  have hcase : ∀ w ∈ after.siteWidgets, (w.agentAliases = config.widget.agentAliases ∧
      w.defaultAgentAlias = config.widget.defaultAgentAlias) ∨
        ∃ q ∈ before.siteWidgets, w.agentAliases = q.agentAliases ∧ w.defaultAgentAlias = q.defaultAgentAlias := by
    intro w hw
    by_cases hsame : w.widgetId = config.widget.widgetId
    · rw [Table.key_injective hw hwidget (hsame.trans hid.symm)]
      exact Or.inl ⟨haliases, hdefault⟩
    · obtain ⟨q, hq, rfl⟩ := (ho.widgets w hsame).mp hw
      exact Or.inr ⟨q, hq, rehomed_aliases q⟩
  constructor
  · intro s hs
    by_cases hsame : s.siteKey = config.site.siteKey
    · rw [List.inj_on_of_nodup_map hi.siteKeys hs hsite (hsame.trans hkey.symm), horigins]
      exact hc.origins
    · exact h.origins s ((ho.sites s hsame).mp hs)
  · intro w hw
    rcases hcase w hw with ⟨ha, -⟩ | ⟨q, hq, ha, -⟩
    · rw [ha]
      exact hc.unique
    · rw [ha]
      exact h.unique q hq
  · intro w hw
    rcases hcase w hw with ⟨ha, hd⟩ | ⟨q, hq, ha, hd⟩
    · rw [ha, hd]
      exact default_of_accepted hc
    · rw [ha, hd]
      exact h.default q hq

lemma Built.sound (h : Built web db) : Consistent constraints db ∧ Sound web db := by
  induction h with
  | unprovisioned =>
    refine ⟨by decide +kernel, fun s hs => ?_, fun w hw => ?_, fun w hw => ?_⟩
    · exact absurd hs List.not_mem_nil
    · exact absurd hw List.not_mem_nil
    · exact absurd hw List.not_mem_nil
  | provision h hp ih =>
    obtain ⟨hparse, t, hprovision, rfl, hconsistent⟩ := provisionWidgetRegistry_ok hp
    obtain ⟨hi, -⟩ := consistent_iff.mp hconsistent
    exact ⟨hconsistent, ih.2.provisioned hi (accepted_of_parsed hparse) (provision_outcome ih.1 hprovision)⟩

lemma mem_joined {row : Site × SiteWidget} (h : row ∈ joined db) : row.1 ∈ db.sites ∧ row.2 ∈ db.siteWidgets := by
  obtain ⟨w, hw, h⟩ := List.mem_filterMap.mp h
  obtain ⟨s, hs, rfl⟩ := Option.map_eq_some_iff.mp h
  exact ⟨List.mem_of_find?_eq_some hs, hw⟩

lemma Built.registered (h : Built web db) {row : Site × SiteWidget} (hr : row ∈ joined db) :
    Registered web row := by
  obtain ⟨hs, hw⟩ := mem_joined hr
  have hsound := h.sound.2
  exact ⟨hsound.origins _ hs, hsound.unique _ hw, hsound.default _ hw⟩

lemma joined_pairwise (db : Registry) : (joined db).Pairwise fun r r' => r.2.widgetId ≠ r'.2.widgetId := by
  refine List.Pairwise.filterMap _ ?_ (List.pairwise_map.mp db.siteWidgets.keys_nodup)
  rintro w w' hne r hr r' hr'
  obtain ⟨s, -, rfl⟩ := Option.map_eq_some_iff.mp hr
  obtain ⟨s', -, rfl⟩ := Option.map_eq_some_iff.mp hr'
  exact hne

end Built

section Exported

variable (collation : Collation) {web : Web} {hostname : URL → String} {db : Registry} {sites : WorkerChatSites}

/-- The sites of two widgets have no host name in common. -/
def Separate (hostname : URL → String) (db : Registry) : Prop :=
  ∀ row ∈ joined db, ∀ other ∈ joined db, row.2.widgetId ≠ other.2.widgetId →
    List.Disjoint (hostNames hostname row.1) (hostNames hostname other.1)

def expected (site : Site) (widget : SiteWidget) : WorkerChatSite where
  siteKey := site.siteKey
  allowedOrigins := site.allowedOrigins
  widget := {
    widgetKey := widget.widgetKey
    version := widget.version
    defaultAgent := widget.defaultAgentAlias
    theme := widget.theme
    launcher := widget.launcher
    placement := widget.placement
    agentAliases := widget.agentAliases.map fun a => (a.agentAlias, ⟨site.siteKey, a.label, a.emailHandoff⟩) }

/-- One key for each host name, with the widget of the site that allows it. -/
structure Exported (hostname : URL → String) (db : Registry) (sites : WorkerChatSites) : Prop where
  once : (names sites).Nodup
  complete : ∀ name, name ∈ names sites ↔ ∃ row ∈ joined db, name ∈ hostNames hostname row.1
  entries : ∀ row ∈ joined db, ∀ origin ∈ row.1.allowedOrigins,
    (hostOf hostname origin, expected row.1 row.2) ∈ sites

lemma workerSite_eq {row : Site × SiteWidget} (h : Registered web row) :
    workerSite row.1 row.2 = expected row.1 row.2 := by
  rw [workerSite, workerAliases_eq h]
  rfl

lemma names_rows (rows : List (Site × SiteWidget)) :
    names (rows.flatMap (targets hostname)) = rows.flatMap fun row => hostNames hostname row.1 := by
  rw [names, List.map_flatMap]
  exact List.flatMap_congr fun row _ => names_targets

lemma export_ok (hb : Built web db) : exportWorkerChatSites collation web hostname db = .ok sites ↔
    Fresh [] (((joined db).mergeSort (siteFirst collation)).flatMap fun row => hostNames hostname row.1) ∧
      sites = ((joined db).mergeSort (siteFirst collation)).flatMap (targets hostname) := by
  rw [exportWorkerChatSites, foldlM_fresh (targets hostname), names_rows, List.nil_append]
  · rfl
  · intro row hr
    exact exportWidget_ok (hb.registered (List.mem_mergeSort.mp hr))

lemma fresh_iff (hs : Separate hostname db) :
    Fresh [] (((joined db).mergeSort (siteFirst collation)).flatMap fun row => hostNames hostname row.1) ↔
      ∀ row ∈ joined db, (hostNames hostname row.1).Nodup ∧ ∀ name ∈ hostNames hostname row.1,
      name ∉ objectPrototype := by
  have hperm := List.mergeSort_perm (joined db) (siteFirst collation)
  have hpairs : ((joined db).mergeSort (siteFirst collation)).Pairwise
      (Function.onFun List.Disjoint fun row => hostNames hostname row.1) := by
    have hdistinct : ((joined db).mergeSort (siteFirst collation)).Pairwise fun r r' =>
      r.2.widgetId ≠ r'.2.widgetId :=
      (hperm.pairwise_iff fun h => h.symm).mpr (joined_pairwise db)
    refine hdistinct.imp_of_mem fun hr hr' hne => ?_
    exact hs _ (hperm.mem_iff.mp hr) _ (hperm.mem_iff.mp hr') hne
  constructor
  · intro h row hr
    have hin := hperm.mem_iff.mpr hr
    refine ⟨(List.nodup_flatMap.mp h.nodup).1 row hin, fun name hn => h.own name ?_⟩
    exact List.mem_flatMap.mpr ⟨row, hin, hn⟩
  · intro h
    refine ⟨List.nodup_flatMap.mpr ⟨fun row hr => (h row (hperm.mem_iff.mp hr)).1, hpairs⟩, fun _ _ =>
      List.not_mem_nil, ?_⟩
    intro name hn
    obtain ⟨row, hr, hn⟩ := List.mem_flatMap.mp hn
    exact (h row (hperm.mem_iff.mp hr)).2 name hn

lemma exported_of_ok (hb : Built web db) (h : exportWorkerChatSites collation web hostname db = .ok sites) :
    Exported hostname db sites := by
  obtain ⟨hfresh, rfl⟩ := (export_ok collation hb).mp h
  have hperm := List.mergeSort_perm (joined db) (siteFirst collation)
  constructor
  · rw [names_rows]
    exact hfresh.nodup
  · intro name
    rw [names_rows, List.mem_flatMap]
    exact exists_congr fun row => and_congr_left' hperm.mem_iff
  · intro row hr origin ho
    rw [← workerSite_eq (hb.registered hr)]
    exact List.mem_flatMap.mpr ⟨row, hperm.mem_iff.mpr hr, List.mem_map_of_mem ho⟩

/-- A registry is exported just if no site repeats a host name or has one that every object inherits. -/
theorem registry_exported_iff (hb : Built web db) (hs : Separate hostname db) :
    (∃ sites, exportWorkerChatSites collation web hostname db = .ok sites ∧ Exported hostname db sites) ↔
      ∀ row ∈ joined db, (hostNames hostname row.1).Nodup ∧ ∀ name ∈ hostNames hostname row.1,
      name ∉ objectPrototype := by
  rw [← fresh_iff collation hs]
  constructor
  · rintro ⟨sites, h, -⟩
    exact ((export_ok collation hb).mp h).1
  · intro hfresh
    have hok := (export_ok collation hb).mpr ⟨hfresh, rfl⟩
    exact ⟨_, hok, exported_of_ok collation hb hok⟩

end Exported

section Ports

open Connectors (text)

def bytewise : Collation := ⟨String, inferInstance, fun text => text, Function.injective_id⟩

def portWeb : Web where
  newURL s := if s = "https://shop.test" ∨ s = "https://shop.test:8443" then some ⟨"https:", s⟩ else none
  newURL_empty := if_neg (by decide)

def portHost (url : URL) : String := String.ofList ((url.origin.toList.drop 8).takeWhile fun c => decide (c ≠ ':'))

def shopConfig (origins : List String) : Value := .record [
  ("tenant", .record [("tenantId", .string (text "seller")), ("displayName", .string (text "Seller"))]),
  ("site", .record
    [("siteId", .string (text "site")), ("siteKey", .string (text "shop")), ("displayName", .string (text "Shop")),
    ("allowedOrigins", .array (origins.map fun origin => .string (text origin)))]),
  ("widget", .record [("widgetId", .string (text "widget")), ("widgetKey", .string (text "main")),
    ("displayName", .string (text "Chat")),
    ("version", .string (text "1")), ("theme", .string (text "earth")), ("launcher", .string (text "agent")),
    ("placement", .string (text "right")), ("defaultAgentAlias", .string (text "support")),
      ("agentAliases", .array [.record [
      ("alias", .string (text "support")), ("label", .string (text "Support")),
        ("agentRef", .string (text "agent"))]])])]

def shopRegistry (origins : List String) : Registry :=
  (provisionWidgetRegistry portWeb (shopConfig origins) 0 0 unprovisioned).2

def shopResult (origins : List String) : WidgetProvisioningConfig where
  tenant := ⟨"seller", text "Seller"⟩
  site := ⟨"site", "shop", text "Shop", origins⟩
  agentRef := "agent"
  widget := ⟨"widget", "main", text "Chat", "1", "earth", "agent", "right", "support",
    [⟨"support", text "Support", "agent", false⟩]⟩

lemma two_ports_built : Built portWeb (shopRegistry ["https://shop.test", "https://shop.test:8443"]) :=
  have h : (provisionWidgetRegistry portWeb (shopConfig ["https://shop.test", "https://shop.test:8443"]) 0 0
      unprovisioned).1 = .ok (shopResult ["https://shop.test", "https://shop.test:8443"]) := by rfl
  .provision .unprovisioned (Prod.ext h rfl)

lemma one_port_built : Built portWeb (shopRegistry ["https://shop.test"]) :=
  have h : (provisionWidgetRegistry portWeb (shopConfig ["https://shop.test"]) 0 0 unprovisioned).1 =
      .ok (shopResult ["https://shop.test"]) := by rfl
  .provision .unprovisioned (Prod.ext h rfl)

lemma separate_of_one {hostname : URL → String} {db : Registry} {row : Site × SiteWidget} (h : joined db = [row]) :
    Separate hostname db := by
  intro r hr r' hr' hne
  rw [h, List.mem_singleton] at hr hr'
  rw [hr, hr'] at hne
  exact absurd rfl hne

/-- One widget on one site, whose two origins differ in their ports. -/
theorem two_ports_not_exported : Built portWeb (shopRegistry ["https://shop.test", "https://shop.test:8443"]) ∧
    Separate portHost (shopRegistry ["https://shop.test", "https://shop.test:8443"]) ∧
    exportWorkerChatSites bytewise portWeb portHost
      (shopRegistry ["https://shop.test", "https://shop.test:8443"]) =
      .error (.error "Multiple widgets target hostname shop.test.") :=
  ⟨two_ports_built, separate_of_one rfl, by decide +kernel⟩

theorem one_port_exported :
    ∃ sites, exportWorkerChatSites bytewise portWeb portHost (shopRegistry ["https://shop.test"]) =
    .ok sites ∧ Exported portHost (shopRegistry ["https://shop.test"]) sites :=
  (registry_exported_iff bytewise one_port_built (separate_of_one rfl)).mpr (by decide +kernel)

end Ports

end ChatCore.Provisioning
