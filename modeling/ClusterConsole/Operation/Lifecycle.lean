import ClusterConsole.Cluster
import ClusterConsole.Operation.Wait

/-!
# The life of the cluster

A cluster is created, gets its baseline, and is deleted.  An existing cluster is
never deleted without the operator's consent, and whether it exists is asked
each time.
-/

namespace ClusterConsole

namespace Config

def listCommand (config : Config) : Invocation :=
  config.clusterCommand ["get", "clusters"]

def createCommand (config : Config) : Invocation :=
  config.clusterCommand
    ["create", "cluster", "--config", config.cluster.configFile.text,
      "--name", config.cluster.name]

def deleteCommand (config : Config) : Invocation :=
  config.clusterCommand ["delete", "cluster", "--name", config.cluster.name]

/-- The command that installs the ingress controller. -/
def ingressCommand (config : Config) : Invocation :=
  config.controlCommand ["apply", "-f", config.cluster.ingressManifest]

end Config

namespace Operation

def clusterState (config : Config) : Operation ClusterState := do
  let output ← invoke config.listCommand .captured
  return .ofListing config.cluster.name output.stdout

def createCluster (config : Config) : Operation Unit :=
  step .createCluster config.cluster.name config.createCommand

def deleteCluster (config : Config) : Operation Unit :=
  step .deleteCluster config.cluster.name config.deleteCommand

/-- Installs the ingress controller and waits for it.  The cluster can be used
without it, so every failure here is a warning. -/
def installBaseline (config : Config) (outcome : Outcome) :
    Operation Outcome := do
  announce (.started .installIngress config.cluster.ingressManifest)
  match ← result (invoke config.ingressCommand .checked) with
  | .error failure => degrade outcome (.setupIncomplete failure.message)
  | .ok _ =>
    announce (.finished .installIngress config.cluster.ingressManifest)
    awaitReady config config.ingressProbe outcome

def setUpCluster (config : Config) : Operation Outcome := do
  createCluster config
  installBaseline config .completed

/-- Creates the cluster; one that exists is deleted first, with consent. -/
def bootstrap (config : Config) : Operation Outcome := do
  match ← clusterState config with
  | .absent => setUpCluster config
  | .present =>
    let question :=
      "Cluster '" ++ config.cluster.name ++
        "' already exists. Delete it and recreate it?"
    if ← consent question then
      deleteCluster config
      setUpCluster config
    else return .declined

/-- Deletes the cluster, with consent. -/
def teardown (config : Config) : Operation Outcome := do
  if ← consent ("Delete cluster '" ++ config.cluster.name ++ "'?") then
    deleteCluster config
    return .completed
  else return .declined

end Operation

end ClusterConsole
