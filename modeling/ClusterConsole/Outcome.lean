import ClusterConsole.Image
import ClusterConsole.Path
import ClusterConsole.Readiness

/-!
# Outcomes

An operation that gets to its end has an outcome, which tells a clean run from
one that was declined or that left something undone.  Outcomes of parts are
folded into the outcome of the whole.
-/

namespace ClusterConsole

/-- A step that did not succeed and did not stop the operation. -/
inductive Warning where
  | notReady (probe : Probe)
  | noManifest (path : Path)
  | imageFailed (service : String)
  | setupIncomplete (reason : String)
deriving DecidableEq, Repr

def Warning.text : Warning → String
  | .notReady probe =>
    probe.selector ++ " in " ++ probe.namespaceName ++ " not ready after " ++
      toString probe.timeoutSeconds ++ "s"
  | .noManifest path => "manifest not found at " ++ path.text
  | .imageFailed service => "image build failed for " ++ service
  | .setupIncomplete reason =>
    "cluster created but setup did not finish: " ++ reason

/-- Whether an operation was carried out. -/
inductive OutcomeStatus where
  | completed
  | declined
deriving DecidableEq, Repr

/-- What an operation did. -/
structure Outcome where
  status : OutcomeStatus
  warnings : List Warning
  images : ImageReport
deriving DecidableEq, Repr

namespace Outcome

/-- Carried out, with nothing to warn of. -/
def completed : Outcome := ⟨.completed, [], .empty⟩

/-- Declined when asked, so that nothing was changed. -/
def declined : Outcome := ⟨.declined, [], .empty⟩

def warn (outcome : Outcome) (warning : Warning) : Outcome :=
  { outcome with warnings := outcome.warnings ++ [warning] }

/-- Folds the outcome of a later part into this one. -/
def absorb (outcome part : Outcome) : Outcome where
  status := if part.status = .declined then .declined else outcome.status
  warnings := outcome.warnings ++ part.warnings
  images := outcome.images ++ part.images

/-- Adds the results of a batch, and a warning for each failed image. -/
def recordImages (outcome : Outcome) (report : ImageReport) : Outcome where
  status := outcome.status
  warnings :=
    outcome.warnings ++ report.failures.map fun result =>
      .imageFailed result.service
  images := outcome.images ++ report

def isDeclined (outcome : Outcome) : Bool :=
  outcome.status == .declined

/-- Whether the operation was carried out with nothing to warn of. -/
def isClean (outcome : Outcome) : Bool :=
  outcome.status == .completed && outcome.warnings.isEmpty

end Outcome

end ClusterConsole
