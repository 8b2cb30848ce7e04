import ClusterConsole.Config.Basic
import ClusterConsole.Toml.Document

/-!
# Decoding a configuration

A table of a document sets the fields it has keys for, and every other field
keeps its standard value.  An array can stand for a table and sets the fields in
their order.  The first value in the order of the document that does not fit is
the one reported.
-/

namespace ClusterConsole

open Toml (Value Mismatch)

namespace Decode

def text : Value → Except Mismatch String
  | .string found => .ok found
  | other => .error (.invalidType other.found "a string")

def path : Value → Except Mismatch Path
  | .string found => .ok ⟨found⟩
  | other => .error (.invalidType other.found "path string")

/-- A number without sign. -/
def natural : Value → Except Mismatch Nat
  | .integer number =>
    if 0 ≤ number then .ok number.toNat
    else .error (.invalidValue (.integer number) "u64")
  | other => .error (.invalidType other.found "u64")

def list (item : Value → Except Mismatch α) : Value → Except Mismatch (List α)
  | .array items => items.mapM item
  | other => .error (.invalidType other.found "a sequence")

def arguments (value : Value) : Except Mismatch BuildArguments :=
  match value.entries? with
  | none => .error (.invalidType value.found "a map")
  | some entries => do
    let found ← entries.mapM fun entry => do
      let content ← text entry.2
      return (entry.1, content)
    return .ofList found

/-- Sets the fields of a record, one after the other. -/
def setAll (set : α → String → Value → Except Mismatch α) (start : α)
    (fields : List (String × Value)) : Except Mismatch α :=
  fields.foldlM (fun record field => set record field.1 field.2) start

/-- A record with fields in the given order, decoded from a table or an
array. -/
def record (expected : String) (names : List String)
    (set : α → String → Value → Except Mismatch α) (start : α) :
    Value → Except Mismatch α
  | .array items => setAll set start (names.zip items)
  | value =>
    match value.entries? with
    | some entries => setAll set start entries
    | none => .error (.invalidType value.found expected)

/-- A field that a record cannot do without.  Where an array is too short for
the field, the length reported is that of the fields in front of it. -/
def required (expected name : String) (names : List String) (value : Value)
    (found? : Option α) : Except Mismatch α :=
  match found?, value with
  | some found, _ => .ok found
  | none, .array _ =>
    .error (.invalidLength (names.idxOf name)
      (expected ++ " with " ++ toString names.length ++ " elements"))
  | none, _ => .error (.missingField name)

end Decode

namespace ClusterSettings

def setField (settings : ClusterSettings) (key : String) (value : Value) :
    Except Mismatch ClusterSettings :=
  match key with
  | "name" =>
    (Decode.text value).map fun found => { settings with name := found }
  | "config_file" =>
    (Decode.path value).map fun found => { settings with configFile := found }
  | "ingress_manifest" =>
    (Decode.text value).map fun found =>
      { settings with ingressManifest := found }
  | _ => .ok settings

def decode : Value → Except Mismatch ClusterSettings :=
  Decode.record "struct ClusterConfig" ["name", "config_file",
    "ingress_manifest"]
    setField standard

end ClusterSettings

namespace Tools

def setField (tools : Tools) (key : String) (value : Value) :
    Except Mismatch Tools :=
  match key with
  | "cluster" =>
    (Decode.text value).map fun found => { tools with cluster := found }
  | "control" =>
    (Decode.text value).map fun found => { tools with control := found }
  | "build" =>
    (Decode.text value).map fun found => { tools with build := found }
  | _ => .ok tools

def decode : Value → Except Mismatch Tools :=
  Decode.record "struct ToolsConfig" ["cluster", "control", "build"] setField
    standard

end Tools

namespace Layout

def setField (layout : Layout) (key : String) (value : Value) :
    Except Mismatch Layout :=
  match key with
  | "namespace" =>
    (Decode.path value).map fun found =>
      { layout with namespaceManifest := found }
  | "metrics_server" =>
    (Decode.path value).map fun found => { layout with metricsServer := found }
  | "common" =>
    (Decode.path value).map fun found => { layout with common := found }
  | "infrastructure" =>
    (Decode.path value).map fun found => { layout with infrastructure := found }
  | "services" =>
    (Decode.path value).map fun found => { layout with services := found }
  | "ingress" =>
    (Decode.path value).map fun found => { layout with ingress := found }
  | "secret" =>
    (Decode.path value).map fun found => { layout with secret := found }
  | "env_file" =>
    (Decode.path value).map fun found =>
      { layout with environmentSource := found }
  | _ => .ok layout

def decode : Value → Except Mismatch Layout :=
  Decode.record "struct PathsConfig"
    ["namespace", "metrics_server", "common", "infrastructure", "services",
      "ingress", "secret", "env_file"]
    setField standard

end Layout

namespace ProbeSettings

/-- A wait of which not all fields need be known. -/
structure Partial where
  selector? : Option String
  namespaceName? : Option String
  timeoutSeconds? : Option Nat

def Partial.setField (settings : Partial) (key : String) (value : Value) :
    Except Mismatch Partial :=
  match key with
  | "selector" =>
    (Decode.text value).map fun found =>
      { settings with selector? := some found }
  | "namespace" =>
    (Decode.text value).map fun found =>
      { settings with namespaceName? := some found }
  | "timeout_secs" =>
    (Decode.natural value).map fun found =>
      { settings with timeoutSeconds? := some found }
  | _ => .ok settings

/-- The fields of a wait in their order. -/
def fieldNames : List String := ["selector", "namespace", "timeout_secs"]

def decode (value : Value) : Except Mismatch ProbeSettings := do
  let expected := "struct ProbeConfig"
  let known ← Decode.record expected fieldNames Partial.setField ⟨none, none,
    none⟩ value
  let selector ← Decode.required expected "selector" fieldNames value
    known.selector?
  let timeoutSeconds ←
    Decode.required expected "timeout_secs" fieldNames value
      known.timeoutSeconds?
  return ⟨selector, known.namespaceName?, timeoutSeconds⟩

end ProbeSettings

namespace ReadinessSettings

def setField (settings : ReadinessSettings) (key : String) (value : Value) :
    Except Mismatch ReadinessSettings :=
  match key with
  | "ingress" =>
    (ProbeSettings.decode value).map fun found =>
      { settings with ingress := found }
  | "datastore" =>
    (ProbeSettings.decode value).map fun found =>
      { settings with datastore := found }
  | "namespace_settle_ms" =>
    (Decode.natural value).map fun found => { settings with settleMs := found }
  | _ => .ok settings

def decode : Value → Except Mismatch ReadinessSettings :=
  Decode.record "struct ReadinessConfig" ["ingress", "datastore",
    "namespace_settle_ms"]
    setField standard

end ReadinessSettings

namespace LogSettings

def setField (settings : LogSettings) (key : String) (value : Value) :
    Except Mismatch LogSettings :=
  match key with
  | "level" =>
    (Decode.text value).map fun found => { settings with level := found }
  | "format" =>
    (Decode.text value).map fun found => { settings with format := found }
  | _ => .ok settings

def decode : Value → Except Mismatch LogSettings :=
  Decode.record "struct LoggingConfig" ["level", "format"] setField standard

end LogSettings

namespace Service

/-- A service of which the name need not be known. -/
structure Partial where
  name? : Option String
  alias? : Option String
  context? : Option Path
  dockerfile? : Option String
  buildArguments? : Option BuildArguments

/-- The fields of a service in their order. -/
def fieldNames :
    List String := ["name", "alias", "context", "dockerfile", "build_args"]

/-- Sets the field that a key stands for; there must be one. -/
def Partial.setField (service : Partial) (key : String) (value : Value) :
    Except Mismatch Partial :=
  match key with
  | "name" =>
    (Decode.text value).map fun found => { service with name? := some found }
  | "alias" =>
    (Decode.text value).map fun found => { service with alias? := some found }
  | "context" =>
    (Decode.path value).map fun found => { service with context? := some found }
  | "dockerfile" =>
    (Decode.text value).map fun found =>
      { service with dockerfile? := some found }
  | "build_args" =>
    (Decode.arguments value).map fun found =>
      { service with buildArguments? := some found }
  | other => .error (.unknownField other fieldNames)

def decode (value : Value) : Except Mismatch Service := do
  let expected := "struct ServiceDescriptor"
  let known ←
    Decode.record expected fieldNames Partial.setField ⟨none, none, none, none,
      none⟩ value
  let name ← Decode.required expected "name" fieldNames value known.name?
  return ⟨name, known.alias?, known.context?, known.dockerfile?,
    known.buildArguments?⟩

end Service

namespace Roster

def Fault.message (fault : Fault) : String :=
  (ConfigFault.invalidValue "services" fault.reason).message

def decode (value : Value) : Except Mismatch Roster := do
  let services ← Decode.list Service.decode value
  match ofServices services with
  | .ok roster => return roster
  | .error fault => throw (.rejected fault.message)

end Roster

namespace Config

def setField (config : Config) (key : String) (value : Value) :
    Except Mismatch Config :=
  match key with
  | "root" => (Decode.path value).map fun found => { config with root := found }
  | "namespace" =>
    (Decode.text value).map fun found => { config with namespaceName := found }
  | "registry_prefix" =>
    (Decode.text value).map fun found => { config with registry := found }
  | "cluster" =>
    (ClusterSettings.decode value).map fun found =>
      { config with cluster := found }
  | "tools" =>
    (Tools.decode value).map fun found => { config with tools := found }
  | "paths" =>
    (Layout.decode value).map fun found => { config with layout := found }
  | "readiness" =>
    (ReadinessSettings.decode value).map fun found =>
      { config with readiness := found }
  | "services" =>
    (Roster.decode value).map fun found => { config with roster := found }
  | "log_targets" =>
    (Decode.list Decode.text value).map fun found =>
      { config with logTargets := found }
  | "logging" =>
    (LogSettings.decode value).map fun found => { config with logging := found }
  | _ => .ok config

/-- The configuration that the entries of a document stand for. -/
def ofEntries (entries : List (String × Value)) : Except Mismatch Config :=
  Decode.setAll setField standard entries

def parse (content : String) : Except ConfigFault Config :=
  match Toml.parse? content with
  | none => .error .malformed
  | some entries =>
    match ofEntries entries with
    | .error mismatch => .error (.mismatch mismatch)
    | .ok config => config.checked

end Config

end ClusterConsole
