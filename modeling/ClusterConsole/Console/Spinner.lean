import ClusterConsole.Console.Message

/-!
# Spinners

A spinner is shown while something is searched for, and is left with a last
message.  It is not shown to other programs or in quiet.
-/

namespace ClusterConsole

/-- A spinner, by its message. -/
structure Spinner where
  message : String
deriving DecidableEq, Repr

namespace Spinner

def tabulator : List Char := List.replicate 8 ' '

def shown (spinner : Spinner) : String :=
  String.ofList (spinner.message.toList.flatMap fun char =>
    if char = '\t' then tabulator else [char])

/-- A spinner after a search that found something. -/
def succeed (settings : Settings) (spinner : Spinner) (text : String) :
    Spinner :=
  if settings.isJson || settings.isQuiet then spinner
  else ⟨Paint.green.on settings.isColored "✓" ++ " " ++ text⟩

/-- A spinner after a search that failed. -/
def fail (settings : Settings) (spinner : Spinner) (text : String) : Spinner :=
  if settings.isJson then spinner
  else ⟨Paint.red.on settings.isColored "×" ++ " " ++ text⟩

end Spinner

end ClusterConsole
