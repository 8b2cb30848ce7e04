import ClusterConsole.Image
import ClusterConsole.Path
import ClusterConsole.SystemError
import ClusterConsole.Toml.Mismatch

/-!
# Failures

A failure stops the operation that meets it.  Two kinds also stop the program:
without the tools, or without the container runtime, no operation can do
anything.
-/

namespace ClusterConsole

/-- Why a configuration cannot be used. -/
inductive ConfigFault where
  | missingField (field : String)
  | invalidValue (field reason : String)
  | unreadable (cause : SystemError)
  | malformed
  | mismatch (detail : Toml.Mismatch)
deriving DecidableEq, Repr

namespace ConfigFault

def message : ConfigFault → String
  | .missingField field => "missing required field: " ++ field
  | .invalidValue field reason =>
    "invalid value for " ++ field ++ ": " ++ reason
  | .unreadable cause => "failed to read config file: " ++ cause.message
  | .malformed => "failed to parse config"
  | .mismatch detail => "failed to parse config: " ++ detail.message

end ConfigFault

/-- Why an operation stopped. -/
inductive Failure where
  | missingTools (tools : List String)
  | runtimeUnavailable (runtime : String)
  | commandFailed (command : String) (exitCode : Int) (stderr? : Option String)
  | notStarted (program : String) (cause : SystemError)
  | noManifest (path : Path)
  | unknownService (name : String)
  | imageNotLoaded (service : String) (report : ImageReport) (cause : Failure)
  | config (fault : ConfigFault)
  | system (cause : SystemError)
  | prompt (reason : String)
deriving DecidableEq, Repr, Inhabited

namespace Failure

def message : Failure → String
  | .missingTools tools => "missing required tools: " ++ ", ".intercalate tools
  | .runtimeUnavailable runtime =>
    "container runtime '" ++ runtime ++ "' is not running"
  | .commandFailed command exitCode _ =>
    "command `" ++ command ++ "` exited with status " ++ toString exitCode
  | .notStarted program cause =>
    "failed to launch `" ++ program ++ "`: " ++ cause.message
  | .noManifest path => "manifest not found at " ++ path.text
  | .unknownService name => "unknown service '" ++ name ++ "'"
  | .imageNotLoaded service _ _ =>
    "failed to load image for " ++ service ++ " into the cluster"
  | .config fault => fault.message
  | .system cause => "IO error: " ++ cause.message
  | .prompt reason => "prompt failed: " ++ reason

def isFatal : Failure → Bool
  | .missingTools _ => true
  | .runtimeUnavailable _ => true
  | _ => false

/-- The texts of the causes behind a failure, the nearest one first. -/
def causes : Failure → List String
  | .notStarted _ cause => [cause.message]
  | .imageNotLoaded _ _ cause => cause.message :: cause.causes
  | .config (.unreadable cause) => [cause.message]
  | .config (.mismatch detail) => [detail.message]
  | .system cause => [cause.message]
  | _ => []

/-- What to do about a failure, where that is known. -/
def help? : Failure → Option String
  | .missingTools _ =>
    some "install the missing tools and make sure they are on PATH"
  | .runtimeUnavailable runtime =>
    some ("start the " ++ runtime ++
      " daemon (or Docker Desktop) and try again")
  | .unknownService _ => some "run `kindops services` to list names and aliases"
  | .imageNotLoaded _ _ _ =>
    some "check that the cluster exists and the container runtime is healthy"
  | .config (.unreadable _) =>
    some "pass --config with an existing file, or omit it to use defaults"
  | _ => none

def exitCode? : Failure → Option Int
  | .commandFailed _ exitCode _ => some exitCode
  | _ => none

end Failure

end ClusterConsole
