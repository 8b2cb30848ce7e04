/-!
# Image batches

A batch builds the image of each service and loads it into the cluster.  A
report has one result for each service of the batch, in the order of the batch.
-/

namespace ClusterConsole

/-- What became of one image.  There is no exit code where the command could not
be started. -/
inductive ImageOutcome where
  | builtAndLoaded
  | buildFailed (exitCode? : Option Int)
  | loadFailed (exitCode? : Option Int)
  | skipped
deriving DecidableEq, Repr

namespace ImageOutcome

def exitNote : Option Int → String
  | some code => " (exit " ++ toString code ++ ")"
  | none => ""

def text : ImageOutcome → String
  | .builtAndLoaded => "built and loaded"
  | .buildFailed exitCode? => "build failed" ++ exitNote exitCode?
  | .loadFailed exitCode? => "load failed" ++ exitNote exitCode?
  | .skipped => "skipped"

/-- The exit code of a failed command. -/
def exitCode? : ImageOutcome → Option Int
  | .buildFailed code? => code?
  | .loadFailed code? => code?
  | _ => none

/-- Whether a command of the batch failed for this image. -/
def isFailure : ImageOutcome → Bool
  | .buildFailed _ => true
  | .loadFailed _ => true
  | _ => false

end ImageOutcome

/-- What became of the image of one service. -/
structure ImageResult where
  service : String
  image : String
  outcome : ImageOutcome
deriving DecidableEq, Repr

def ImageResult.isSuccess (result : ImageResult) : Bool :=
  result.outcome == .builtAndLoaded

/-- The results of a batch. -/
structure ImageReport where
  results : List ImageResult
deriving DecidableEq, Repr

namespace ImageReport

/-- The report of no service at all. -/
def empty : ImageReport := ⟨[]⟩

instance : Append ImageReport where
  append first second := ⟨first.results ++ second.results⟩

def push (report : ImageReport) (result : ImageResult) : ImageReport :=
  ⟨report.results ++ [result]⟩

def size (report : ImageReport) : Nat :=
  report.results.length

/-- Whether the batch had no service. -/
def isEmpty (report : ImageReport) : Bool :=
  report.results.isEmpty

/-- The number of images that were built and loaded. -/
def successes (report : ImageReport) : Nat :=
  (report.results.filter ImageResult.isSuccess).length

/-- The results that stand for a failed command. -/
def failures (report : ImageReport) : List ImageResult :=
  report.results.filter fun result => result.outcome.isFailure

def isClean (report : ImageReport) : Bool :=
  report.results.all ImageResult.isSuccess

end ImageReport

end ClusterConsole
