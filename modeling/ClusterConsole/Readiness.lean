/-!
# Readiness

After some steps the console waits for pods to become ready, but never longer
than a probe allows.
-/

namespace ClusterConsole

/-- A bounded wait for the pods that a selector matches in a namespace. -/
structure Probe where
  selector : String
  namespaceName : String
  timeoutMs : Nat
deriving DecidableEq, Repr

namespace Probe

def timeoutSeconds (probe : Probe) : Nat :=
  probe.timeoutMs / 1000

/-- The bound as an argument of the control plane client. -/
def timeoutFlag (probe : Probe) : String :=
  "--timeout=" ++ toString probe.timeoutSeconds ++ "s"

end Probe

/-- How a wait ended; that the time ran out is no failure. -/
inductive Readiness where
  | ready
  | timedOut
deriving DecidableEq, Repr

end ClusterConsole
