import ClusterConsole.Config.Decode
import ClusterConsole.Operation.Basic

/-!
# Where a configuration comes from

A configuration comes from the file that the operator names, from the file with
the customary name, or from nowhere: then it is the standard one.
-/

namespace ClusterConsole

namespace Config

/-- The name that a configuration file has without the operator's saying so. -/
def customaryPath : Path := ⟨"kindops.toml"⟩

def load (path : Path) : Operation Config := do
  match ← Operation.request (.file (.readText path)) with
  | .error cause => throw (.config (.unreadable cause))
  | .ok text =>
    match parse text with
    | .error fault => throw (.config fault)
    | .ok config => return config

/-- The configuration in the file that was named, or else in the one with the
customary name if there is one, or else the standard one. -/
def discover : Option Path → Operation Config
  | some path => load path
  | none => do
    if ← Operation.request (.file (.isFile customaryPath)) then
      load customaryPath
    else return standard

end Config

end ClusterConsole
