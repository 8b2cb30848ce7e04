import ClusterConsole.CommandLine.Basic
import ClusterConsole.Console.Display
import ClusterConsole.Console.Summary
import ClusterConsole.Operation.Deployment
import ClusterConsole.Operation.Lifecycle
import ClusterConsole.Operation.Prerequisites

/-!
# Performing a command

Each command carries out one operation and sums it up.  A failure is left to
whoever gave the command.
-/

namespace ClusterConsole

/-- How the console works: how it speaks, on which configuration, and how many
frames or rounds it goes through at most. -/
structure Console where
  voice : Voice
  config : Config
  horizon : Nat

namespace Console

open Operation

def say (console : Console) (messages : List Message) : Operation Unit :=
  Operation.say console.voice messages

def summarize (console : Console) (command done : String)
    (operation : Operation Outcome) :
    Operation Unit := do
  let outcome ← operation
  console.say (outcome.summary console.voice.isJson command done)

/-- What is known to help when a cluster does not come up. -/
def runtimeHint : Message :=
  .hint "check that the container runtime is running and healthy"

/-- Whether a warning is about a cluster that did not come up in full. -/
def isAboutSetup : Warning → Bool
  | .setupIncomplete _ => true
  | _ => false

def bootstrap (console : Console) : Operation Unit := do
  match ← result (Operation.bootstrap console.config) with
  | .error failure =>
    console.say [runtimeHint]
    throw failure
  | .ok outcome =>
    if outcome.warnings.any isAboutSetup then
      console.say [runtimeHint]
    console.say (outcome.summary console.voice.isJson "bootstrap"
        "Cluster ready")

/-- Builds all images.  A batch that failed is summed up as well. -/
def build (console : Console) : Operation Unit := do
  match ← result (buildAll console.config) with
  | .ok report => console.say (report.summary console.voice.isJson "build")
  | .error failure =>
    console.say (failedReport failure)
    throw failure
where
  /-- The summary of the batch that a failure is about. -/
  failedReport : Failure → List Message
    | .imageNotLoaded _ report _ => report.summary console.voice.isJson "build"
    | _ => []

def ship (console : Console) (service : String) : Operation Unit :=
  console.summarize "ship" (Text.trim service ++ " deployed")
    (Operation.ship console.config service)

def secrets (console : Console) : Operation Unit := do
  let written ← materializeSecret console.config
  console.say (written.summary console.voice.isJson)

def check (console : Console) : Operation Unit := do
  match ← result (checkPrerequisites console.config) with
  | .ok () => console.say [.searched true "All prerequisites met"]
  | .error failure =>
    console.say [.searched false "Prerequisites not met"]
    throw failure

/-- Shows something once or again and again. -/
def present (console : Console) (watches : Bool) (title : String)
    (fetch : Operation String) : Operation Unit :=
  if watches then Display.watch console.voice console.horizon title fetch
  else Display.once console.voice title fetch

def status (console : Console) (watches : Bool) : Operation Unit :=
  console.present watches "Cluster status" (Operation.status console.config)

def metricsTitle : MetricsScope → String
  | .nodes => "Node metrics"
  | .pods => "Pod metrics"

def top (console : Console) (scope : MetricsScope) (watches : Bool) :
    Operation Unit :=
  console.present watches (metricsTitle scope) (metrics console.config scope)

/-- Shows the logs of a workload, if it has a pod. -/
def logs (console : Console) (target : String) (follows : Bool) :
    Operation Unit := do
  match ← result (findPod console.config target) with
  | .error failure =>
    console.say [.searched false ("Cannot look up " ++ target)]
    throw failure
  | .ok none =>
    console.say [.searched false ("No running pod found for " ++ target)]
  | .ok (some pod) =>
    console.say [.searched true pod]
    if follows then interruptible (streamLogs console.config pod true)
    else streamLogs console.config pod false

def perform (console : Console) : Command → Operation Unit
  | .bootstrap => console.bootstrap
  | .build => console.build
  | .deployInfra =>
    console.summarize "deploy-infra" "Infrastructure deployed"
      (deployInfrastructure console.config)
  | .deploy =>
    console.summarize "deploy" "All services deployed"
      (deployServices console.config)
  | .ship service => console.ship service
  | .applyConfig _ =>
    console.summarize "apply-config" "Configuration applied"
      (applyConfig console.config)
  | .status watches => console.status watches
  | .logs target follows => console.logs target follows
  | .top scope watches => console.top scope watches
  | .teardown =>
    console.summarize "teardown" "Cluster deleted" (teardown console.config)
  | .services =>
    console.say (console.config.roster.summary console.voice.isJson)
  | .secrets => console.secrets
  | .check => console.check

end Console

end ClusterConsole
