import ClusterConsole.Operation.Images
import ClusterConsole.Operation.Secret
import ClusterConsole.Operation.Wait

/-!
# Deployment

Manifests are applied in a fixed order, and the first one that is refused stops
the operation.  The secret is written anew before every manifest that could use
it.
-/

namespace ClusterConsole

namespace Config

/-- The command that applies a manifest or a directory of manifests. -/
def applyCommand (config : Config) (manifest : Path) : Invocation :=
  config.controlCommand ["apply", "-f", manifest.text]

def restartCommand (config : Config) (target : String) : Invocation :=
  config.controlCommand ["rollout", "restart", target, "-n",
    config.namespaceName]

/-- The command that tells whether the application namespace exists. -/
def namespaceQuery (config : Config) : Invocation :=
  config.controlCommand ["get", "namespace", config.namespaceName]

/-- The command that creates the application namespace. -/
def namespaceCommand (config : Config) : Invocation :=
  config.controlCommand ["create", "namespace", config.namespaceName]

end Config

namespace Operation

/-- Creates the application namespace, unless it exists. -/
def ensureNamespace (config : Config) : Operation Unit := do
  let found ← invoke config.namespaceQuery .probe
  unless found.isSuccess do
    step .createNamespace config.namespaceName config.namespaceCommand

/-- Applies a manifest or a directory of manifests. -/
def applyManifest (config : Config) (manifest : Path) : Operation Unit :=
  step .apply manifest.text (config.applyCommand manifest)

def restart (config : Config) (target : String) : Operation Unit :=
  step .restart target (config.restartCommand target)

/-- Restarts every deployment and every stateful set. -/
def restartAll (config : Config) : Operation Unit := do
  restart config "deployment"
  restart config "statefulset"

/-- Gives the control plane time to take up the namespace. -/
def settle (config : Config) : Operation Unit := do
  unless config.readiness.settleMs = 0 do
    request (.settle config.readiness.settleMs)

/-- Deploys the namespace, the metrics server, the common configuration with the
secret, and the infrastructure, and waits for the primary data store. -/
def deployInfrastructure (config : Config) : Operation Outcome := do
  ensureNamespace config
  applyManifest config config.layout.namespaceManifest
  settle config
  applyManifest config config.layout.metricsServer
  let _ ← materializeSecret config
  applyManifest config config.layout.common
  applyManifest config config.layout.infrastructure
  awaitReady config config.datastoreProbe .completed

/-- Deploys every service, and the ingress. -/
def deployServices (config : Config) : Operation Outcome := do
  applyManifest config config.layout.services
  applyManifest config config.layout.ingress
  return .completed

/-- Deploys and restarts one service, if it has a manifest. -/
def deployService (config : Config) (service : Service) :
    Operation Outcome := do
  let manifest := service.manifest config.layout.services
  if ← request (.file (.isFile (config.resolve manifest))) then
    applyManifest config manifest
    restart config ("deployment/" ++ service.name)
    return .completed
  else degrade .completed (.noManifest manifest)

/-- Builds, loads and deploys the service that a name or an alias stands for. -/
def ship (config : Config) (query : String) : Operation Outcome := do
  match config.roster.resolve? query with
  | none => throw (.unknownService (Text.trim query))
  | some service =>
    let report ← buildAndLoad config [service]
    let deployed ← deployService config service
    return (Outcome.completed.recordImages report).absorb deployed

/-- Writes the secret and applies the common configuration again, and restarts
all workloads, with consent. -/
def applyConfig (config : Config) : Operation Outcome := do
  let _ ← materializeSecret config
  applyManifest config config.layout.common
  if ← consent "Restart all deployments to pick up the changes?" then
    restartAll config
  return .completed

end Operation

end ClusterConsole
