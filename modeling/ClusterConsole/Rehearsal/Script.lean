import ClusterConsole.Invocation
import ClusterConsole.SystemError

/-!
# Scripts

A script says how the tools behave when nothing real is run: which commands end
how, which do not start, and which tools are not there.
-/

namespace ClusterConsole

/-- Which commands a cue is for. -/
inductive Pattern where
  /-- Commands that start with some words. -/
  | start (words : List String)
  /-- Commands with an argument. -/
  | argument (text : String)
deriving DecidableEq, Repr

def Pattern.fits (invocation : Invocation) : Pattern → Bool
  | .start words => invocation.startsWith words
  | .argument text => invocation.hasArgument text

/-- How the commands that fit a pattern end. -/
structure Cue where
  pattern : Pattern
  output : CommandOutput
deriving DecidableEq, Repr

/-- How the tools behave. -/
structure Script where
  /-- The cues, the latest one first. -/
  cues : List Cue
  /-- The tools that cannot be found. -/
  missing : List String
  /-- The first words of the commands that do not start. -/
  refused : List (List String)
deriving DecidableEq, Repr

namespace Script

/-- Every tool is there, and every command succeeds in silence. -/
def empty : Script := ⟨[], [], []⟩

/-- A script with one more cue, which goes before the others. -/
def cue (script : Script) (cue : Cue) : Script :=
  { script with cues := cue :: script.cues }

/-- A script without a tool. -/
def without (script : Script) (tool : String) : Script :=
  { script with missing := tool :: script.missing }

/-- A script in which the commands that start with some words do not start. -/
def refuse (script : Script) (words : List String) : Script :=
  { script with refused := words :: script.refused }

def starts (script : Script) (invocation : Invocation) : Bool :=
  !script.refused.any invocation.startsWith

/-- How a command ends. -/
def output (script : Script) (invocation : Invocation) : CommandOutput :=
  ((script.cues.find? fun cue => cue.pattern.fits invocation).map
      Cue.output).getD .success

/-- What the script replies to a command; output that is not collected is
gone. -/
def reply (script : Script) (invocation : Invocation) (options : RunOptions) :
    Except SystemError CommandOutput :=
  if script.starts invocation then
    let output := script.output invocation
    .ok (if options.capture then output else output.uncollected)
  else .error .notFound

def finds (script : Script) (tool : String) : Bool :=
  !script.missing.contains tool

end Script

end ClusterConsole
