import ClusterConsole.Operation.Basic

/-!
# Waiting

A wait ends when the pods are ready or the time is over.  That the time is over
is no failure: the operation goes on, with a warning.
-/

namespace ClusterConsole

def Config.waitCommand (config : Config) (probe : Probe) : Invocation :=
  config.controlCommand
    ["wait", "--for=condition=ready", "pod", "-l", probe.selector, "-n",
      probe.namespaceName, probe.timeoutFlag]

namespace Operation

/-- Waits for pods, as long as the probe allows. -/
def wait (config : Config) (probe : Probe) : Operation Readiness := do
  announce (.started .waitReady probe.selector)
  match ← result (invoke (config.waitCommand probe) .unchecked) with
  | .ok output =>
    if output.isSuccess then
      announce (.finished .waitReady probe.selector)
      return .ready
    else timedOut
  | .error _ => timedOut
where
  /-- Announces that the pods are not ready. -/
  timedOut : Operation Readiness := do
    announce (.degraded (.notReady probe))
    return .timedOut

/-- Waits for pods, and adds a warning to an outcome if they do not become
ready. -/
def awaitReady (config : Config) (probe : Probe) (outcome : Outcome) :
    Operation Outcome := do
  match ← wait config probe with
  | .ready => return outcome
  | .timedOut => return outcome.warn (.notReady probe)

end Operation

end ClusterConsole
