import ClusterConsole.Proofs.Config.Steadiness
import ClusterConsole.Proofs.Config.Validation

/-!
# Key by key

Every field of a configuration is read off the document at its own path of keys,
and has its standard value where nothing stands there, whatever else the
document says and in whatever order.  The services and each wait are read as a
whole.
-/

namespace ClusterConsole

open Toml (Value Mismatch)

/-- The value at the end of a path of keys, which goes through tables. -/
def valueAt? : List String → List (String × Value) → Option Value
  | [], _ => none
  | [key], entries => entries.lookup key
  | key :: path, entries =>
    match entries.lookup key with
    | some (.table inner) => valueAt? path inner
    | _ => none

/-- A field that is a text, a path, a number or a list of texts: where it stands
in a document, and how it is spelled there. -/
structure Leaf (α : Type) where
  path : List String
  spell : α → Value

namespace Leaf

def under (key : String) (get : β → α) (leaf : Leaf α) : Leaf β :=
  ⟨key :: leaf.path, fun record => leaf.spell (get record)⟩

/-- What stands in the document is what the record has; otherwise the record has
what there was from the start. -/
def Follows (leaf : Leaf α) (entries : List (String × Value))
    (start record : α) : Prop :=
  leaf.spell record = (valueAt? leaf.path entries).getD (leaf.spell start)

end Leaf

/-! ## The leaves of a configuration -/

def ClusterSettings.leaves : List (Leaf ClusterSettings) :=
  [⟨["name"], fun settings => .string settings.name⟩,
    ⟨["config_file"], fun settings => .string settings.configFile.text⟩,
    ⟨["ingress_manifest"], fun settings => .string settings.ingressManifest⟩]

def Tools.leaves : List (Leaf Tools) :=
  [⟨["cluster"], fun tools => .string tools.cluster⟩,
    ⟨["control"], fun tools => .string tools.control⟩,
    ⟨["build"], fun tools => .string tools.build⟩]

def Layout.leaves : List (Leaf Layout) :=
  [⟨["namespace"], fun layout => .string layout.namespaceManifest.text⟩,
    ⟨["metrics_server"], fun layout => .string layout.metricsServer.text⟩,
    ⟨["common"], fun layout => .string layout.common.text⟩,
    ⟨["infrastructure"], fun layout => .string layout.infrastructure.text⟩,
    ⟨["services"], fun layout => .string layout.services.text⟩,
    ⟨["ingress"], fun layout => .string layout.ingress.text⟩,
    ⟨["secret"], fun layout => .string layout.secret.text⟩,
    ⟨["env_file"], fun layout => .string layout.environmentSource.text⟩]

def LogSettings.leaves : List (Leaf LogSettings) :=
  [⟨["level"], fun settings => .string settings.level⟩,
    ⟨["format"], fun settings => .string settings.format⟩]

/-- The leaves of a configuration apart from those of its services and waits. -/
def Config.leaves : List (Leaf Config) :=
  [⟨["root"], fun config => .string config.root.text⟩,
    ⟨["namespace"], fun config => .string config.namespaceName⟩,
    ⟨["registry_prefix"], fun config => .string config.registry⟩,
    ⟨["log_targets"], fun config => .array (config.logTargets.map .string)⟩,
    ⟨["readiness", "namespace_settle_ms"],
      fun config => .integer config.readiness.settleMs⟩] ++
  ClusterSettings.leaves.map (.under "cluster" cluster) ++
  Tools.leaves.map (.under "tools" tools) ++
  Layout.leaves.map (.under "paths" layout) ++
  LogSettings.leaves.map (.under "logging" logging)

/-! ## Leaves and fields -/

/-- A leaf is a field of a record. -/
structure Leaf.IsOf (leaf : Leaf α) (field : Field α) : Prop where
  path : leaf.path = [field.key]
  reads : ∀ value record, field.decode value = .ok (field.get record) →
    value = leaf.spell record
  same : ∀ first second, field.get first = field.get second →
    leaf.spell first = leaf.spell second

theorem Leaf.IsOf.follows {leaf : Leaf α} {field : Field α}
    (isOf : leaf.IsOf field) {entries : List (String × Value)}
    {start record : α} (holds : field.Holds entries start record) :
    leaf.Follows entries start record := by
  rw [Leaf.Follows, isOf.path, valueAt?]
  cases found : entries.lookup field.key with
  | none => exact isOf.same record start (holds.absent found)
  | some value => exact (isOf.reads value record (holds.present found)).symm

theorem eq_of_text {value : Value} {text : String}
    (decoded : Decode.text value = .ok text) :
    value = .string text := by
  cases value <;> cases decoded
  rfl

theorem eq_of_path {value : Value} {path : Path}
    (decoded : Decode.path value = .ok path) :
    value = .string path.text := by
  cases value <;> cases decoded
  rfl

theorem eq_of_natural {value : Value} {number : Nat}
    (decoded : Decode.natural value = .ok number) :
    value = .integer number := by
  cases value with
  | integer own =>
      rw [Decode.natural] at decoded
      split at decoded
      · cases decoded
        rw [Int.toNat_of_nonneg ‹_›]
      · cases decoded
  | _ => cases decoded

theorem eq_of_texts {value : Value} {texts : List String}
    (decoded : Decode.list Decode.text value = .ok texts) :
    value = .array (texts.map .string) := by
  cases value with
  | array items =>
      have each := (mapM_eq_ok_iff.mp decoded).imp fun _ _ => eq_of_text
      rw [← List.forall₂_map_right_iff, List.forall₂_eq_eq_eq] at each
      exact congrArg Value.array each
  | _ => cases decoded

section Leaves

variable {key : String}

theorem isOf_text (get : α → String) (put : α → String → α) :
    Leaf.IsOf ⟨[key], fun record => .string (get record)⟩
      (.text key get put) where
  path := rfl
  reads _ _ := eq_of_text
  same _ _ := congrArg Value.string

theorem isOf_path (get : α → Path) (put : α → Path → α) :
    Leaf.IsOf ⟨[key], fun record => .string (get record).text⟩
      (.path key get put) where
  path := rfl
  reads _ _ := eq_of_path
  same _ _ := congrArg fun path : Path => Value.string path.text

theorem isOf_natural (get : α → Nat) (put : α → Nat → α) :
    Leaf.IsOf ⟨[key], fun record => .integer (get record)⟩
      (.natural key get put) where
  path := rfl
  reads _ _ := eq_of_natural
  same _ _ := congrArg fun number : Nat => Value.integer number

theorem isOf_texts (get : α → List String) (put : α → List String → α) :
    Leaf.IsOf ⟨[key], fun record => .array ((get record).map .string)⟩
      (.texts key get put) where
  path := rfl
  reads _ _ := eq_of_texts
  same _ _ :=
    congrArg fun texts : List String => Value.array (texts.map .string)

end Leaves

theorem ClusterSettings.areFields : List.Forall₂ Leaf.IsOf leaves fields :=
  .cons (isOf_text _ _) (.cons (isOf_path _ _) (.cons (isOf_text _ _) .nil))

theorem Tools.areFields : List.Forall₂ Leaf.IsOf leaves fields :=
  .cons (isOf_text _ _) (.cons (isOf_text _ _) (.cons (isOf_text _ _) .nil))

theorem Layout.areFields : List.Forall₂ Leaf.IsOf leaves fields :=
  .cons (isOf_path _ _)
    (.cons (isOf_path _ _) (.cons (isOf_path _ _) (.cons (isOf_path _ _)
    (.cons (isOf_path _ _) (.cons (isOf_path _ _) (.cons (isOf_path _ _)
      (.cons (isOf_path _ _) .nil)))))))

theorem LogSettings.areFields : List.Forall₂ Leaf.IsOf leaves fields :=
  .cons (isOf_text _ _) (.cons (isOf_text _ _) .nil)

theorem exists_field {leaves : List (Leaf α)} {fields : List (Field α)}
    (areFields : List.Forall₂ Leaf.IsOf leaves fields) :
    ∀ leaf ∈ leaves, ∃ field ∈ fields, leaf.IsOf field := by
  induction areFields with
  | nil => nofun
  | cons isOf rest ih =>
      rw [List.forall_mem_cons]
      refine ⟨⟨_, List.mem_cons_self, isOf⟩, fun leaf member => ?_⟩
      obtain ⟨field, isField, isOf⟩ := ih leaf member
      exact ⟨field, List.mem_cons_of_mem _ isField, isOf⟩

/-! ## Sections -/

theorem valueAt?_cons {key : String} {path : List String} (isLonger : path ≠ [])
    (entries : List (String × Value)) :
    valueAt? (key :: path) entries =
      match entries.lookup key with
      | some (.table inner) => valueAt? path inner
      | _ => none := by
  cases path with
  | nil => contradiction
  | cons next path => rfl

/-- The leaves of a section follow the table that stands under its key. -/
theorem follows_under {key : String} {get : α → β} {leaf : Leaf β}
    (isLonger : leaf.path ≠ []) {entries : List (String × Value)}
    {start record : α} (isTable : ∀ value, entries.lookup key = some value →
      ∃ inner, value = .table inner)
    (absent : entries.lookup key = none → get record = get start)
    (present : ∀ inner, entries.lookup key = some (.table inner) →
      leaf.Follows inner (get start) (get record)) :
    (leaf.under key get).Follows entries start record := by
  rw [Leaf.Follows, Leaf.under, valueAt?_cons isLonger]
  cases found : entries.lookup key with
  | none =>
      exact congrArg leaf.spell (absent found)
  | some value =>
      obtain ⟨inner, rfl⟩ := isTable value found
      exact present inner found

theorem lookup_proper {entries : List (String × Value)} {key : String}
    {value : Value} (proper : (Value.table entries).Proper)
    (found : entries.lookup key = some value) :
    value.Proper :=
  proper.entries.each _ (mem_of_lookup found)

theorem follows_section {key : String}
    {decode : Value → Except Mismatch β} {get : α → β}
    {put : α → β → α} {set : β → String → Value → Except Mismatch β}
    {fields : List (Field β)} {leaves : List (Leaf β)}
    {entries : List (String × Value)} {start record : α}
    (holds : Field.Holds ⟨key, β, decode, get, put⟩ entries start record)
    (laws : SetsFields set fields true)
    (areFields : List.Forall₂ Leaf.IsOf leaves fields) (decodes : ∀ inner,
      decode (.table inner) = Decode.setAll set (get start) inner)
    (proper : (Value.table entries).Proper) (isTable : ∀ value,
      entries.lookup key = some value → ∃ inner, value = .table inner) :
    ∀ leaf ∈ leaves.map (Leaf.under key get),
    leaf.Follows entries start record := by
  rw [List.forall_mem_map]
  intro leaf member
  obtain ⟨field, isField, isOf⟩ := exists_field areFields leaf member
  apply follows_under (isOf.path ▸ List.cons_ne_nil _ _) isTable holds.absent
  · intro inner found
    have decoded : decode (.table inner) = .ok (get record) :=
      holds.present found
    have distinct := (lookup_proper proper found).entries.distinct
    rw [decodes, laws.setAll_eq_ok_iff distinct] at decoded
    exact isOf.follows (decoded.2 field isField)

/-- The paths at which a section may stand in a document. -/
def sectionPaths : List (List String) :=
  [["cluster"], ["tools"], ["paths"], ["readiness"], ["logging"],
    ["readiness", "ingress"], ["readiness", "datastore"]]

/-- Every section that stands in a document is a table. -/
def Structured (entries : List (String × Value)) : Prop :=
  ∀ path ∈ sectionPaths, ∀ value, valueAt? path entries = some value →
    ∃ inner, value = .table inner

/-- What the table of a wait says, and the wait that comes of it in a
configuration. -/
structure WaitRead (config : Config) (inner : List (String × Value))
    (settings : ProbeSettings) (probe : Probe) : Prop where
  selector : inner.lookup "selector" = some (.string settings.selector)
  time : inner.lookup "timeout_secs" = some (.integer settings.timeoutSeconds)
  namespaceName : inner.lookup "namespace" = settings.namespaceName?.map .string
  /-- Without a namespace of its own it is for the namespace of the
  configuration. -/
  waits : probe = ⟨settings.selector,
    settings.namespaceName?.getD config.namespaceName,
    settings.timeoutSeconds * 1000⟩

/-- Build arguments are the texts of the table that stands in the document,
whatever the order of its keys.  A date can stand for a table of one entry. -/
def ArgumentsFollow (value? : Option Value)
    (arguments? : Option BuildArguments) : Prop :=
  match value? with
  | none => arguments? = none
  | some (.table entries) => ∃ arguments, arguments? = some arguments ∧
      entries.Perm (arguments.entries.map fun entry =>
        (entry.1, .string entry.2))
  | some (.moment text) => ∃ arguments, arguments? = some arguments ∧
      arguments.entries = [("$__toml_private_datetime", text)]
  | some _ => False

/-- What the table of a service says. -/
structure ServiceRead (inner : List (String × Value)) (service : Service) :
    Prop where
  declared : ∀ key ∈ inner.map Prod.fst, key ∈ Service.fieldNames
  name : inner.lookup "name" = some (.string service.name)
  otherName : inner.lookup "alias" = service.alias?.map .string
  context : inner.lookup "context" = service.context?.map fun path =>
    .string path.text
  dockerfile : inner.lookup "dockerfile" = service.dockerfile?.map .string
  arguments :
    ArgumentsFollow (inner.lookup "build_args") service.buildArguments?

theorem lookup_of_optional {key : String} {decode : Value → Except Mismatch β}
    {get : α → Option β} {put : α → Option β → α}
    {entries : List (String × Value)} {start record : α}
    (holds : (Field.optional key decode get put).Holds entries start record)
    (isNone : get start = none) :
    (entries.lookup key).map decode = (get record).map .ok := by
  cases found : entries.lookup key with
  | none =>
      have same : get record = none := (holds.absent found).trans isNone
      rw [same]
      rfl
  | some value =>
      have present : (decode value).map some = .ok (get record) :=
        holds.present found
      cases decoded : decode value with
      | error mismatch => simp [decoded, Except.map] at present
      | ok content =>
          have same : some content = get record := by
            simpa [decoded, Except.map] using present
          simp [← same, decoded]

theorem lookup_of_spelled {key : String} {decode : Value → Except Mismatch β}
    {spell : β → Value} (spells : ∀ {value content},
      decode value = .ok content → value = spell content)
    {entries : List (String × Value)} {content? : Option β}
    (decoded : (entries.lookup key).map decode = content?.map .ok) :
    entries.lookup key = content?.map spell := by
  cases found : entries.lookup key with
  | none =>
      rw [found] at decoded
      cases content? with
      | none => rfl
      | some content => cases decoded
  | some value =>
      rw [found] at decoded
      cases content? with
      | none => cases decoded
      | some content => exact congrArg some (spells (Option.some.inj decoded))

theorem argumentsFollow_of_decode {value? : Option Value}
    {arguments? : Option BuildArguments}
    (proper : ∀ value, value? = some value → value.Proper)
    (decoded : value?.map Decode.arguments = arguments?.map .ok) :
    ArgumentsFollow value? arguments? := by
  cases value? with
  | none =>
      cases arguments? with
      | none => rfl
      | some arguments => cases decoded
  | some value =>
      cases arguments? with
      | none => cases decoded
      | some arguments =>
          have isDecoded : Decode.arguments value = .ok arguments :=
            Option.some.inj decoded
          cases value with
          | table entries =>
              have distinct := (proper _ rfl).entries.distinct
              exact ⟨arguments, rfl,
                (BuildArguments.decode_eq_ok_iff distinct).mp isDecoded⟩
          | moment text =>
              cases isDecoded
              exact ⟨_, rfl, rfl⟩
          | _ => cases isDecoded

theorem serviceRead_of_decode {inner : List (String × Value)}
    {service : Service} (proper : (Value.table inner).Proper)
    (decoded : Service.decode (.table inner) = .ok service) :
    ServiceRead inner service := by
  rw [decodeService_eq_ok_iff] at decoded
  obtain ⟨accepted, holds⟩ :=
    (Service.setsFields.setAll_eq_ok_iff proper.entries.distinct).mp decoded
  simp only [Service.fields, List.forall_mem_cons] at holds
  obtain ⟨name, otherName, context, dockerfile, arguments, -⟩ := holds
  have isName := lookup_of_optional name rfl
  have isAlias := lookup_of_optional otherName rfl
  have isContext := lookup_of_optional context rfl
  have isDockerfile := lookup_of_optional dockerfile rfl
  have areArguments := lookup_of_optional arguments rfl
  constructor
  · intro key member
    exact (accepted key member).resolve_left Bool.false_ne_true
  · exact lookup_of_spelled eq_of_text isName
  · exact lookup_of_spelled eq_of_text isAlias
  · exact lookup_of_spelled eq_of_path isContext
  · exact lookup_of_spelled eq_of_text isDockerfile
  · exact argumentsFollow_of_decode (fun _ found => lookup_proper proper found)
      areArguments

theorem waitRead_of_decode {config : Config} {inner : List (String × Value)}
    {settings : ProbeSettings} (distinct : (inner.map Prod.fst).Nodup)
    (decoded : ProbeSettings.decode (.table inner) = .ok settings) :
    WaitRead config inner settings (config.probe settings) := by
  rw [decodeProbe_eq_ok_iff] at decoded
  obtain ⟨-, holds⟩ :=
    (ProbeSettings.setsFields.setAll_eq_ok_iff distinct).mp decoded
  simp only [ProbeSettings.fields, List.forall_mem_cons] at holds
  obtain ⟨selector, namespaceName, time, -⟩ := holds
  have isSelector := lookup_of_optional selector rfl
  have isTime := lookup_of_optional time rfl
  have isNamespace := lookup_of_optional namespaceName rfl
  exact ⟨lookup_of_spelled eq_of_text isSelector,
    lookup_of_spelled eq_of_natural isTime,
    lookup_of_spelled eq_of_text isNamespace, rfl⟩

/-- A wait is that of the table which stands in the document, or is as it was
from the start. -/
def WaitFollows (config : Config) (value? : Option Value)
    (start settings : ProbeSettings) : Prop :=
  match value? with
  | none => settings = start
  | some value => ∃ inner, value = .table inner ∧
      WaitRead config inner settings (config.probe settings)

/-- The services are those of the array which stands in the document, in its
order, or are the standard ones. -/
def ServicesFollow (value? : Option Value) (roster : Roster) : Prop :=
  match value? with
  | none => roster = .standard
  | some value => ∃ items, value = .array items ∧
      List.Forall₂ (fun item service => Service.decode item = .ok service ∧
        ∀ inner, item = .table inner →
        ServiceRead inner service) items roster.services

/-- What an accepted document says about its configuration. -/
structure Reflects (entries : List (String × Value)) (config : Config) :
    Prop where
  leaves : ∀ leaf ∈ Config.leaves, leaf.Follows entries .standard config
  ingress : WaitFollows config (valueAt? ["readiness", "ingress"] entries)
    ReadinessSettings.standard.ingress config.readiness.ingress
  datastore : WaitFollows config (valueAt? ["readiness", "datastore"] entries)
    ReadinessSettings.standard.datastore config.readiness.datastore
  services : ServicesFollow (entries.lookup "services") config.roster

section Reading

variable {entries : List (String × Value)} {config : Config}

theorem waitFollows_of_holds {key : String}
    {get : ReadinessSettings → ProbeSettings}
    {put : ReadinessSettings → ProbeSettings → ReadinessSettings}
    {inner : List (String × Value)} {start settings : ReadinessSettings}
    (holds : Field.Holds ⟨key, ProbeSettings, ProbeSettings.decode, get,
        put⟩ inner start settings) (proper : (Value.table inner).Proper)
    (isTable : ∀ value, inner.lookup key = some value →
      ∃ own, value = .table own) :
    WaitFollows config (inner.lookup key) (get start) (get settings) := by
  cases found : inner.lookup key with
  | none => exact holds.absent found
  | some value =>
      obtain ⟨own, rfl⟩ := isTable value found
      have distinct := (lookup_proper proper found).entries.distinct
      exact ⟨own, rfl, waitRead_of_decode distinct (holds.present found)⟩

/-- What the table of the waits says, if there is one. -/
theorem readiness_of_holds {put : Config → ReadinessSettings → Config}
    (holds : Field.Holds ⟨"readiness", ReadinessSettings,
        ReadinessSettings.decode,
      Config.readiness, put⟩ entries .standard config)
    (proper : (Value.table entries).Proper) (structured : Structured entries) :
    Leaf.Follows ⟨["readiness", "namespace_settle_ms"],
        fun config => .integer config.readiness.settleMs⟩ entries .standard
          config ∧
      WaitFollows config (valueAt? ["readiness", "ingress"] entries)
        ReadinessSettings.standard.ingress config.readiness.ingress ∧
      WaitFollows config (valueAt? ["readiness", "datastore"] entries)
        ReadinessSettings.standard.datastore config.readiness.datastore := by
  -- The waits stand one level further down, where the table of the waits is
  -- read in turn.
  have ingressIsTable := structured ["readiness", "ingress"] (by decide)
  have datastoreIsTable := structured ["readiness", "datastore"] (by decide)
  simp only [Leaf.Follows, valueAt?] at ingressIsTable datastoreIsTable ⊢
  cases found : entries.lookup "readiness" with
  | none =>
      have same : config.readiness = .standard := holds.absent found
      rw [same]
      exact ⟨rfl, rfl, rfl⟩
  | some value =>
      obtain ⟨inner, rfl⟩ := structured ["readiness"] (by decide) value found
      rw [found] at ingressIsTable datastoreIsTable
      have decoded : Decode.setAll ReadinessSettings.setField .standard inner =
          .ok config.readiness := holds.present found
      have innerProper := lookup_proper proper found
      obtain ⟨-, holds⟩ := (ReadinessSettings.setsFields.setAll_eq_ok_iff
        innerProper.entries.distinct).mp decoded
      simp only [ReadinessSettings.fields, List.forall_mem_cons] at holds
      obtain ⟨ingress, datastore, settle, -⟩ := holds
      exact ⟨(isOf_natural _ _).follows settle,
        waitFollows_of_holds ingress innerProper ingressIsTable,
        waitFollows_of_holds datastore innerProper datastoreIsTable⟩

theorem services_of_holds {put : Config → Roster → Config}
    (holds : Field.Holds ⟨"services", Roster, Roster.decode, Config.roster,
        put⟩ entries
      .standard config)
    (proper : (Value.table entries).Proper) :
    ServicesFollow (entries.lookup "services") config.roster := by
  cases found : entries.lookup "services" with
  | none => exact holds.absent found
  | some value =>
      have decoded : Roster.decode value = .ok config.roster :=
        holds.present found
      rw [decodeRoster_eq_ok_iff] at decoded
      cases value with
      | array items =>
          have itemsProper := (lookup_proper proper found).items
          have each := (List.forall₂_and_left _ _).mpr ⟨itemsProper,
            mapM_eq_ok_iff.mp decoded⟩
          refine ⟨items, rfl, each.imp ?_⟩
          intro item service read
          refine ⟨read.2, ?_⟩
          rintro inner rfl
          exact serviceRead_of_decode read.1 read.2
      | _ => cases decoded

theorem reflects_of_ofEntries (proper : (Value.table entries).Proper)
    (structured : Structured entries)
    (decoded : Config.ofEntries entries = .ok config) :
    Reflects entries config := by
  obtain ⟨-, holds⟩ :=
    (Config.setsFields.setAll_eq_ok_iff proper.entries.distinct).mp decoded
  simp only [Config.fields, List.forall_mem_cons] at holds
  obtain ⟨root, namespaceName, registry, cluster, tools, layout, readiness,
    services, logTargets,
    logging, -⟩ := holds
  obtain ⟨settle, ingress, datastore⟩ :=
    readiness_of_holds readiness proper structured
  refine ⟨?_, ingress, datastore, services_of_holds services proper⟩
  simp only [Config.leaves, List.forall_mem_append, List.forall_mem_cons]
  refine
    ⟨⟨⟨⟨⟨(isOf_path _ _).follows root, (isOf_text _ _).follows namespaceName,
    (isOf_text _ _).follows registry,
    (isOf_texts _ _).follows logTargets, settle,
    List.forall_mem_nil _⟩, ?_⟩, ?_⟩, ?_⟩, ?_⟩
  · exact follows_section cluster ClusterSettings.setsFields
      ClusterSettings.areFields
      (fun _ => rfl) proper (structured ["cluster"] (by decide))
  · exact follows_section tools Tools.setsFields Tools.areFields
      (fun _ => rfl) proper (structured ["tools"] (by decide))
  · exact follows_section layout Layout.setsFields Layout.areFields
      (fun _ => rfl) proper (structured ["paths"] (by decide))
  · exact follows_section logging LogSettings.setsFields LogSettings.areFields
      (fun _ => rfl) proper (structured ["logging"] (by decide))

end Reading

namespace Config

theorem parse_eq_ok_iff {content : String} {entries : List (String × Value)}
    {config : Config} (isDocument : Toml.parse? content = some entries) :
    parse content = .ok config ↔
      ofEntries entries = .ok config ∧
      ∀ requirement, Requirement.IsMet config requirement := by
  cases decoded : ofEntries entries with
  | error mismatch =>
      rw [parse_of_mismatch isDocument decoded]
      exact iff_of_false nofun nofun
  | ok own =>
      rw [parse_of_entries isDocument decoded, checked_eq_ok_iff,
        Except.ok.injEq]
      constructor
      · intro accepted
        obtain ⟨rfl, meets⟩ := accepted
        exact ⟨rfl, meets⟩
      · intro accepted
        obtain ⟨rfl, meets⟩ := accepted
        exact ⟨rfl, meets⟩

/-- Documents that differ in the order of keys, or in keys that are not
declared, are accepted alike and stand for the same configuration.  What an
accepted document stands for follows it key by key. -/
theorem parse_keyByKey :
    (∀ content other entries others, Toml.parse? content = some entries →
      Toml.parse? other = some others → Alike entries others →
      ∀ config, parse content = .ok config ↔ parse other = .ok config) ∧
    ∀ content entries config, Toml.parse? content = some entries →
      Structured entries →
      parse content = .ok config → Reflects entries config := by
  constructor
  · intro content other entries others isDocument isOther alike config
    have same :=
      (ofEntries_iff_of_alike alike).2 (Toml.proper_parse isDocument) config
    rw [parse_eq_ok_iff isDocument, parse_eq_ok_iff isOther, same]
  · intro content entries config isDocument structured accepted
    exact reflects_of_ofEntries (Toml.proper_parse isDocument) structured
      ((parse_eq_ok_iff isDocument).mp accepted).1

/-- A document with its keys in another order and one more key, which is passed
over, stands for the same configuration. -/
theorem parse_keyByKey_reordered :
    ∃ config, config.namespaceName = "shop" ∧
      config.tools = ⟨"c", "kubectl", "b"⟩ ∧
      parse "namespace = \"shop\"\n[tools]\nbuild = \"b\"\ncluster = \"c\"\n" =
        .ok config ∧
      parse ("owner = \"o\"\nnamespace = \"shop\"\n" ++
        "[tools]\ncluster = \"c\"\nbuild = \"b\"\n") = .ok config ∧
      Reflects [("namespace", .string "shop"),
        ("tools", .table [("build", .string "b"), ("cluster", .string "c")])]
          config := by
  obtain ⟨same, reflects⟩ := parse_keyByKey
  have isDocument : Toml.parse?
      "namespace = \"shop\"\n[tools]\nbuild = \"b\"\ncluster = \"c\"\n" =
        some [("namespace", .string "shop"),
          ("tools", .table [("build", .string "b"),
              ("cluster", .string "c")])] := by cbv
  have isOther : Toml.parse?
      ("owner = \"o\"\nnamespace = \"shop\"\n" ++
        "[tools]\ncluster = \"c\"\nbuild = \"b\"\n") =
        some [("owner", .string "o"), ("namespace", .string "shop"),
          ("tools", .table [("cluster", .string "c"),
              ("build", .string "b")])] := by cbv
  have swapped : Edit (.record .tools)
      (.table [("build", .string "b"), ("cluster", .string "c")])
      (.table [("cluster", .string "c"), ("build", .string "b")]) :=
    .permute _ (.swap _ _ _)
  have inDocument : Alike
      ([("namespace", .string "shop")] ++
        [("tools", .table [("build", .string "b"), ("cluster", .string "c")])])
      ([("namespace", .string "shop")] ++
        [("tools", .table [("cluster", .string "c"),
              ("build", .string "b")])]) :=
    .rel _ _ (.entry swapped)
  have added : Edit (.record .config)
      (.table [("namespace", .string "shop"),
        ("tools", .table [("cluster", .string "c"), ("build", .string "b")])])
      (.table [("owner", .string "o"), ("namespace", .string "shop"),
        ("tools", .table [("cluster", .string "c"),
            ("build", .string "b")])]) :=
    .add (show "owner" ∉ Section.config.keys by decide) (by simp) (.string "o")
  have alike := Relation.EqvGen.trans _ _ _ inDocument (.rel _ _ added)
  have structured : Structured [("namespace", .string "shop"),
      ("tools", .table [("build", .string "b"),
          ("cluster", .string "c")])] := by
    simp [Structured, sectionPaths, valueAt?, List.lookup]
  have accepted :
      parse "namespace = \"shop\"\n[tools]\nbuild = \"b\"\ncluster = \"c\"\n" =
      .ok { standard with
        namespaceName := "shop"
        tools := { standard.tools with build := "b", cluster := "c" } } := by
    refine (parse_eq_ok_iff isDocument).mpr ⟨rfl, fun requirement => ?_⟩
    cases requirement <;> decide +kernel
  exact ⟨_, rfl, rfl, accepted,
    (same _ _ _ _ isDocument isOther alike _).mp accepted,
    reflects _ _ _ isDocument structured accepted⟩

end Config

end ClusterConsole
