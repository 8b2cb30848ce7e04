import ClusterConsole.Failure
import ClusterConsole.Path
import ClusterConsole.Readiness
import ClusterConsole.Roster

/-!
# Configuration

A configuration names the cluster, the tools, the layout of the manifests and
the roster.  Every part has a standard value, so that a document need only say
what differs from it.
-/

namespace ClusterConsole

/-- The cluster, and the manifest of its ingress controller. -/
structure ClusterSettings where
  name : String
  configFile : Path
  ingressManifest : String
deriving DecidableEq, Repr

/-- The external tools. -/
structure Tools where
  /-- Creates and deletes clusters and loads images into them. -/
  cluster : String
  /-- The client of the control plane. -/
  control : String
  /-- Builds images; also tells whether the container runtime is up. -/
  build : String
deriving DecidableEq, Repr

def Tools.required (tools : Tools) : List String :=
  [tools.cluster, tools.control, tools.build]

/-- Where the manifests and the environment source are, below the root. -/
structure Layout where
  namespaceManifest : Path
  metricsServer : Path
  common : Path
  infrastructure : Path
  services : Path
  ingress : Path
  secret : Path
  environmentSource : Path
deriving DecidableEq, Repr

/-- A wait; without a namespace of its own it is for the application
namespace. -/
structure ProbeSettings where
  selector : String
  namespaceName? : Option String
  timeoutSeconds : Nat
deriving DecidableEq, Repr

/-- The waits, and the pause after the namespace manifest. -/
structure ReadinessSettings where
  ingress : ProbeSettings
  datastore : ProbeSettings
  settleMs : Nat
deriving DecidableEq, Repr

/-- What is logged, and how. -/
structure LogSettings where
  level : String
  format : String
deriving DecidableEq, Repr

/-- The settings after a number of requests for more detail: one asks for
information, two or more ask for everything. -/
def LogSettings.withVerbosity (settings : LogSettings) : Nat → LogSettings
  | 0 => settings
  | 1 => { settings with level := "info" }
  | _ => { settings with level := "debug" }

/-- Everything that an operation needs to know. -/
structure Config where
  root : Path
  namespaceName : String
  registry : String
  cluster : ClusterSettings
  tools : Tools
  layout : Layout
  readiness : ReadinessSettings
  roster : Roster
  logTargets : List String
  logging : LogSettings
deriving DecidableEq

def ClusterSettings.standard : ClusterSettings where
  name := "limitedcart"
  configFile := ⟨"kind-config.yaml"⟩
  ingressManifest :=
    "https://raw.githubusercontent.com/kubernetes/ingress-nginx/main/" ++
      "deploy/static/provider/kind/deploy.yaml"

def Tools.standard : Tools := ⟨"kind", "kubectl", "docker"⟩

def Layout.standard : Layout where
  namespaceManifest := ⟨"k8s/namespace.yaml"⟩
  metricsServer := ⟨"k8s/infrastructure/metrics-server.yaml"⟩
  common := ⟨"k8s/common/"⟩
  infrastructure := ⟨"k8s/infrastructure/"⟩
  services := ⟨"k8s/services/"⟩
  ingress := ⟨"k8s/ingress.yaml"⟩
  secret := ⟨"k8s/common/secret.yaml"⟩
  environmentSource := ⟨".env"⟩

def ReadinessSettings.standard : ReadinessSettings where
  ingress :=
    ⟨"app.kubernetes.io/component=controller", some "ingress-nginx", 180⟩
  datastore := ⟨"app=postgres", none, 120⟩
  settleMs := 2000

def LogSettings.standard : LogSettings := ⟨"warn", "pretty"⟩

namespace Config

/-- The configuration without any document. -/
def standard : Config where
  root := ⟨"."⟩
  namespaceName := "limitedcart"
  registry := "limitedcart"
  cluster := .standard
  tools := .standard
  layout := .standard
  readiness := .standard
  roster := .standard
  logTargets := ["postgres", "kafka", "redis"]
  logging := .standard

/-- A path below the root of the project. -/
def resolve (config : Config) (path : Path) : Path :=
  config.root.join path

def probe (config : Config) (settings : ProbeSettings) : Probe where
  selector := settings.selector
  namespaceName := settings.namespaceName?.getD config.namespaceName
  timeoutMs := settings.timeoutSeconds * 1000

def ingressProbe (config : Config) : Probe :=
  config.probe config.readiness.ingress

def datastoreProbe (config : Config) : Probe :=
  config.probe config.readiness.datastore

/-- Everything whose logs can be asked for: the services, then the other
workloads. -/
def allLogTargets (config : Config) : List String :=
  config.roster.services.map Service.name ++ config.logTargets

/-- The first value without which nothing can be done, if it is missing.  A
missing tool name comes before a wait without time, and an empty roster comes
last. -/
def fault? (config : Config) : Option ConfigFault :=
  if Text.isAllBlank config.namespaceName then some (.missingField "namespace")
  else if Text.isAllBlank config.registry then
    some (.missingField "registry_prefix")
  else if Text.isAllBlank config.cluster.name then
    some (.missingField "cluster.name")
  else if config.tools.required.any Text.isAllBlank then
    some (.invalidValue "tools" "tool names must not be empty")
  else if config.readiness.ingress.timeoutSeconds = 0 then
    some (.invalidValue "readiness.ingress"
        "timeout_secs must be greater than 0")
  else if config.readiness.datastore.timeoutSeconds = 0 then
    some (.invalidValue "readiness.datastore"
        "timeout_secs must be greater than 0")
  else if config.roster.services.isEmpty then
    some (.invalidValue "services" "at least one service is required")
  else none

/-- The configuration, unless something is missing from it. -/
def checked (config : Config) : Except ConfigFault Config :=
  match config.fault? with
  | some fault => .error fault
  | none => .ok config

end Config

end ClusterConsole
