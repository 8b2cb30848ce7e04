import ClusterConsole.Operation.Basic

/-!
# Observation

Observing runs one query of the control plane and changes nothing.
-/

namespace ClusterConsole

/-- Whose use of resources is measured. -/
inductive MetricsScope where
  | nodes
  | pods
deriving DecidableEq, Repr

namespace Config

/-- The command that shows what runs in the application namespace. -/
def statusCommand (config : Config) : Invocation :=
  config.controlCommand ["get", "pods,svc,ingress,hpa", "-n",
    config.namespaceName]

def metricsCommand (config : Config) : MetricsScope → Invocation
  | .nodes => config.controlCommand ["top", "nodes"]
  | .pods => config.controlCommand ["top", "pods", "-n", config.namespaceName]

/-- The command that names the first pod of a workload. -/
def podCommand (config : Config) (workload : String) : Invocation :=
  config.controlCommand
    ["get", "pods", "-l", "app=" ++ workload, "-n", config.namespaceName, "-o",
      "jsonpath=\x7b.items[0].metadata.name\x7d"]

def logsCommand (config : Config) (pod : String) (follow : Bool) : Invocation :=
  config.controlCommand
    (["logs", pod, "-n", config.namespaceName] ++ if follow then ["-f"] else [])

/-- The workload whose logs a query asks for: that of a service, or another one
that the configuration lists. -/
def logTarget? (config : Config) (query : String) : Option String :=
  match config.roster.resolve? query with
  | some service => some service.name
  | none => if query ∈ config.logTargets then some query else none

end Config

namespace CommandOutput

/-- What a query has to show: its output, and for one that failed also its
errors. -/
def display (output : CommandOutput) : String :=
  if output.isSuccess then output.stdout
  else output.stdout ++ output.stderr?.getD ""

def name? (output : CommandOutput) : Option String :=
  let name := Text.trim output.stdout
  if output.isSuccess && name ≠ "" then some name else none

end CommandOutput

namespace Operation

def snapshot (query : Invocation) : Operation String := do
  let output ← invoke query .probe
  return output.display

def status (config : Config) : Operation String :=
  snapshot config.statusCommand

def metrics (config : Config) (scope : MetricsScope) : Operation String :=
  snapshot (config.metricsCommand scope)

/-- The first pod of the workload that a query asks for, if one runs. -/
def findPod (config : Config) (query : String) : Operation (Option String) := do
  let target := Text.trim query
  match config.logTarget? target with
  | none => throw (.unknownService target)
  | some workload =>
    let output ← invoke (config.podCommand workload) .probe
    return output.name?

def streamLogs (config : Config) (pod : String) (follow : Bool) :
    Operation Unit := do
  let _ ← invoke (config.logsCommand pod follow) .unchecked

end Operation

end ClusterConsole
