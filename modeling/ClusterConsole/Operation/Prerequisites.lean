import ClusterConsole.Operation.Basic

/-!
# Prerequisites

No operation can do anything without the tools and the container runtime.  All
missing tools are told together, and the runtime is only asked for once no tool
is missing.
-/

namespace ClusterConsole.Operation

def missingTools : List String → Operation (List String)
  | [] => return []
  | tool :: rest => do
    let isFound ← request (.find tool)
    let missing ← missingTools rest
    return if isFound then missing else tool :: missing

/-- Checks that the tools are there and that the container runtime is up. -/
def checkPrerequisites (config : Config) : Operation Unit := do
  let missing ← missingTools config.tools.required
  unless missing.isEmpty do
    throw (.missingTools missing)
  match ← result (invoke (config.buildCommand ["info"]) .probe) with
  | .ok output =>
    unless output.isSuccess do
      throw (.runtimeUnavailable config.tools.build)
  | .error _ => throw (.runtimeUnavailable config.tools.build)

end ClusterConsole.Operation
