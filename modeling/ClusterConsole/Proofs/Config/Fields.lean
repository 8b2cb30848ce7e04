import ClusterConsole.Proofs.Config.Records

/-!
# The fields of a configuration

The records that a document is decoded into, with their fields, and that these
are set by their keys.
-/

namespace ClusterConsole

namespace Field

@[simp] def text (key : String) (get : α → String) (put : α → String → α) :
    Field α :=
  ⟨key, String, Decode.text, get, put⟩

@[simp] def path (key : String) (get : α → Path) (put : α → Path → α) :
    Field α :=
  ⟨key, Path, Decode.path, get, put⟩

@[simp] def natural (key : String) (get : α → Nat) (put : α → Nat → α) :
    Field α :=
  ⟨key, Nat, Decode.natural, get, put⟩

@[simp] def texts (key : String) (get : α → List String)
    (put : α → List String → α) : Field α :=
  ⟨key, List String, Decode.list Decode.text, get, put⟩

/-- A field that a record need not have. -/
@[simp] def optional (key : String)
    (decode : Toml.Value → Except Toml.Mismatch β) (get : α → Option β)
    (put : α → Option β → α) : Field α :=
  ⟨key, Option β, fun value => (decode value).map some, get, put⟩

end Field

@[simp] theorem map_map_some (first : Except ε α) (next : Option α → β) :
    (first.map some).map next = first.map fun found => next (some found) := by
  cases first with
  | error cause => rfl
  | ok found => rfl

namespace ClusterSettings

def fields : List (Field ClusterSettings) :=
  [.text "name" name fun settings found => { settings with name := found },
    .path "config_file" configFile
      fun settings found => { settings with configFile := found },
    .text "ingress_manifest" ingressManifest
      fun settings found => { settings with ingressManifest := found }]

theorem setsFields : SetsFields setField fields true where
  sets := by simp [fields, setField]
  others := by
    intro key isOther settings value next
    unfold setField
    split <;> simp_all [fields, eq_comm]
  get_put := by simp [fields]
  get_put_of_ne := by simp [fields]
  ext := by
    intro first second same
    cases first
    cases second
    simpa [fields] using same

end ClusterSettings

namespace Tools

def fields : List (Field Tools) :=
  [.text "cluster" cluster fun tools found => { tools with cluster := found },
    .text "control" control fun tools found => { tools with control := found },
    .text "build" build fun tools found => { tools with build := found }]

theorem setsFields : SetsFields setField fields true where
  sets := by simp [fields, setField]
  others := by
    intro key isOther tools value next
    unfold setField
    split <;> simp_all [fields, eq_comm]
  get_put := by simp [fields]
  get_put_of_ne := by simp [fields]
  ext := by
    intro first second same
    cases first
    cases second
    simpa [fields] using same

end Tools

namespace Layout

def fields : List (Field Layout) :=
  [.path "namespace" namespaceManifest
      fun layout found => { layout with namespaceManifest := found },
    .path "metrics_server" metricsServer
      fun layout found => { layout with metricsServer := found },
    .path "common" common fun layout found => { layout with common := found },
    .path "infrastructure" infrastructure
      fun layout found => { layout with infrastructure := found },
    .path "services" services
      fun layout found => { layout with services := found },
    .path "ingress" ingress
      fun layout found => { layout with ingress := found },
    .path "secret" secret fun layout found => { layout with secret := found },
    .path "env_file" environmentSource
      fun layout found => { layout with environmentSource := found }]

theorem setsFields : SetsFields setField fields true where
  sets := by simp [fields, setField]
  others := by
    intro key isOther layout value next
    unfold setField
    split <;> simp_all [fields, eq_comm]
  get_put := by simp [fields]
  get_put_of_ne := by simp [fields]
  ext := by
    intro first second same
    cases first
    cases second
    simpa [fields] using same

end Layout

namespace LogSettings

def fields : List (Field LogSettings) :=
  [.text "level" level fun settings found => { settings with level := found },
    .text "format" format
      fun settings found => { settings with format := found }]

theorem setsFields : SetsFields setField fields true where
  sets := by simp [fields, setField]
  others := by
    intro key isOther settings value next
    unfold setField
    split <;> simp_all [fields, eq_comm]
  get_put := by simp [fields]
  get_put_of_ne := by simp [fields]
  ext := by
    intro first second same
    cases first
    cases second
    simpa [fields] using same

end LogSettings

namespace ProbeSettings

def fields : List (Field Partial) :=
  [.optional "selector" Decode.text Partial.selector?
      fun settings found => { settings with selector? := found },
    .optional "namespace" Decode.text Partial.namespaceName?
      fun settings found => { settings with namespaceName? := found },
    .optional "timeout_secs" Decode.natural Partial.timeoutSeconds?
      fun settings found => { settings with timeoutSeconds? := found }]

theorem setsFields : SetsFields Partial.setField fields true where
  sets := by simp [fields, Partial.setField]
  others := by
    intro key isOther settings value next
    unfold Partial.setField
    split <;> simp_all [fields, eq_comm]
  get_put := by simp [fields]
  get_put_of_ne := by simp [fields]
  ext := by
    intro first second same
    cases first
    cases second
    simpa [fields] using same

end ProbeSettings

namespace ReadinessSettings

def fields : List (Field ReadinessSettings) :=
  [⟨"ingress", ProbeSettings, ProbeSettings.decode, ingress,
      fun settings found => { settings with ingress := found }⟩,
    ⟨"datastore", ProbeSettings, ProbeSettings.decode, datastore,
      fun settings found => { settings with datastore := found }⟩,
    .natural "namespace_settle_ms" settleMs
      fun settings found => { settings with settleMs := found }]

theorem setsFields : SetsFields setField fields true where
  sets := by simp [fields, setField]
  others := by
    intro key isOther settings value next
    unfold setField
    split <;> simp_all [fields, eq_comm]
  get_put := by simp [fields]
  get_put_of_ne := by simp [fields]
  ext := by
    intro first second same
    cases first
    cases second
    simpa [fields] using same

end ReadinessSettings

namespace Service

def fields : List (Field Partial) :=
  [.optional "name" Decode.text Partial.name?
      fun service found => { service with name? := found },
    .optional "alias" Decode.text Partial.alias?
      fun service found => { service with alias? := found },
    .optional "context" Decode.path Partial.context?
      fun service found => { service with context? := found },
    .optional "dockerfile" Decode.text Partial.dockerfile?
      fun service found => { service with dockerfile? := found },
    .optional "build_args" Decode.arguments Partial.buildArguments?
      fun service found => { service with buildArguments? := found }]

/-- A service has no other fields. -/
theorem setsFields : SetsFields Partial.setField fields false where
  sets := by simp [fields, Partial.setField]
  others := by
    intro key isOther service value next
    unfold Partial.setField
    split <;> simp_all [fields]
  get_put := by simp [fields]
  get_put_of_ne := by simp [fields]
  ext := by
    intro first second same
    cases first
    cases second
    simpa [fields] using same

end Service

namespace Config

def fields : List (Field Config) :=
  [.path "root" root fun config found => { config with root := found },
    .text "namespace" namespaceName
      fun config found => { config with namespaceName := found },
    .text "registry_prefix" registry
      fun config found => { config with registry := found },
    ⟨"cluster", ClusterSettings, ClusterSettings.decode, cluster,
      fun config found => { config with cluster := found }⟩,
    ⟨"tools", Tools, Tools.decode, tools,
      fun config found => { config with tools := found }⟩,
    ⟨"paths", Layout, Layout.decode, layout,
      fun config found => { config with layout := found }⟩,
    ⟨"readiness", ReadinessSettings, ReadinessSettings.decode, readiness,
      fun config found => { config with readiness := found }⟩,
    ⟨"services", Roster, Roster.decode, roster,
      fun config found => { config with roster := found }⟩,
    .texts "log_targets" logTargets
      fun config found => { config with logTargets := found },
    ⟨"logging", LogSettings, LogSettings.decode, logging,
      fun config found => { config with logging := found }⟩]

theorem setsFields : SetsFields setField fields true where
  sets := by simp [fields, setField]
  others := by
    intro key isOther config value next
    unfold setField
    split <;> simp_all [fields, eq_comm]
  get_put := by simp [fields]
  get_put_of_ne := by simp [fields]
  ext := by
    intro first second same
    cases first
    cases second
    simpa [fields] using same

end Config

end ClusterConsole
