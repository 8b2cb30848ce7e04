import ClusterConsole.Config.Source

/-!
# Diagnostics

A failure that ends the program is shown as a diagnostic.  For a configuration
that cannot be decoded it shows the document, if the file can be read again.
-/

namespace ClusterConsole

/-- What a diagnostic is about. -/
inductive Diagnostic where
  /-- A document that is no configuration; without a detail it is malformed. -/
  | config (detail? : Option Toml.Mismatch) (document : String)
  | fatal (failure : Failure)
deriving DecidableEq

namespace Diagnostic

def code : Diagnostic → String
  | .config _ _ => "kindops::config"
  | .fatal _ => "kindops::fatal"

/-- What to do about it, where that is known. -/
def help? : Diagnostic → Option String
  | .config _ _ => some "see kindops.toml.example for every supported key"
  | .fatal failure => failure.help?

/-- The message of a diagnostic, except for what depends on the place in a
malformed document. -/
def message? : Diagnostic → Option String
  | .config detail? _ =>
    detail?.map fun detail => "invalid configuration: " ++ detail.message
  | .fatal (.config .malformed) => none
  | .fatal (.config (.mismatch _)) => none
  | .fatal failure => some failure.message

/-- Whether the diagnostic shows a place in a document. -/
def hasDocument : Diagnostic → Bool
  | .config _ _ => true
  | .fatal _ => false

/-- What is wrong with a document, for the failures that are about one. -/
def detail? : Failure → Option (Option Toml.Mismatch)
  | .config .malformed => some none
  | .config (.mismatch detail) => some (some detail)
  | _ => none

/-- The diagnostic of a failure to start with a configuration file. -/
def atStart (failure : Failure) (path : Path) : Procedure Diagnostic := do
  match detail? failure with
  | none => return .fatal failure
  | some found =>
    match ← Procedure.request (.file (.readText path)) with
    | .ok document => return .config found document
    | .error _ => return .fatal failure

end Diagnostic

end ClusterConsole
