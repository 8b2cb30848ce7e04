import ClusterConsole.CommandLine.Parse
import ClusterConsole.Console.Menu
import ClusterConsole.Diagnostic

/-!
# Running the console

The prerequisites come before every command that depends on the tools, and
before the menu.  The exit code is zero when everything asked for was done, and
one otherwise.
-/

namespace ClusterConsole

namespace Console

open Operation

def needsPrerequisites : Option Command → Bool
  | some command => command.needsPrerequisites
  | none => true

/-- Carries out a command, or shows the menu. -/
def attempt (console : Console) (command? : Option Command) :
    Operation Unit := do
  if needsPrerequisites command? then
    checkPrerequisites console.config
  match command? with
  | some command => console.perform command
  | none => console.menu

/-- Carries out a command or shows the menu, reports a failure, and ends with
the exit code. -/
def execute (console : Console) (command? : Option Command) :
    Procedure Nat := do
  match ← (console.attempt command?).toProcedure with
  | .ok () => return 0
  | .error failure =>
    Procedure.writing ((Message.ofFailure failure).flatMap console.voice.speak)
      (.done 1)

end Console

namespace CommandLine

/-- How the console speaks when its output is not on a terminal. -/
def settings (line : CommandLine) : Settings :=
  ⟨line.isJson, line.isQuiet, line.color.isColored false⟩

/-- Carries out what a command line asks for, in a voice. -/
def executeIn (voice : Voice) (line : CommandLine) (config : Config)
    (horizon : Nat) : Procedure Nat :=
  let told :=
    ((⟨voice, config, horizon⟩ : Console).execute line.command?).narrated voice
  if line.consents then told.accepting else told

/-- Carries out what a command line asks for, on a configuration. -/
def execute (line : CommandLine) (config : Config) (horizon : Nat) :
    Procedure Nat :=
  line.executeIn line.settings.voice config horizon

end CommandLine

/-- How a run of the program ends. -/
inductive Ending where
  | usage (reason : Usage)
  | misconfigured (diagnostic : Diagnostic)
  | finished (code : Nat)
deriving DecidableEq

def Ending.exitCode : Ending → Nat
  | .usage reason => reason.exitCode
  | .misconfigured _ => 1
  | .finished code => code

/-- Runs the program on the words of a command line. -/
def runConsole (horizon : Nat) (words : List String) : Procedure Ending :=
  match CommandLine.parse words with
  | .error usage => return .usage usage
  | .ok line => do
    match ← (Config.discover line.config?).toProcedure with
    | .error failure =>
      let path := line.config?.getD Config.customaryPath
      return .misconfigured (← Diagnostic.atStart failure path)
    | .ok config => return .finished (← line.execute config horizon)

end ClusterConsole
