import ClusterConsole.Operation.Observation

/-!
# Command lines

A command line gives options that hold for every command, and at most one
command.
-/

namespace ClusterConsole

/-- When text is painted. -/
inductive ColorChoice where
  | auto
  | always
  | never
deriving DecidableEq, Repr

namespace ColorChoice

def text : ColorChoice → String
  | .auto => "auto"
  | .always => "always"
  | .never => "never"

def ofText? (word : String) : Option ColorChoice :=
  [auto, always, never].find? fun choice => choice.text = word

/-- Whether text is painted, on a terminal or elsewhere. -/
def isColored (choice : ColorChoice) (isTerminal : Bool) : Bool :=
  match choice with
  | .auto => isTerminal
  | .always => true
  | .never => false

end ColorChoice

namespace MetricsScope

def text : MetricsScope → String
  | .nodes => "nodes"
  | .pods => "pods"

def ofText? (word : String) : Option MetricsScope :=
  [nodes, pods].find? fun scope => scope.text = word

end MetricsScope

/-- What the console is told to do. -/
inductive Command where
  | bootstrap
  | build
  | deployInfra
  | deploy
  | ship (service : String)
  | applyConfig (restarts : Bool)
  | status (watches : Bool)
  | logs (target : String) (follows : Bool)
  | top (scope : MetricsScope) (watches : Bool)
  | teardown
  | services
  | secrets
  | check
deriving DecidableEq, Repr

def Command.needsPrerequisites : Command → Bool
  | .services => false
  | .secrets => false
  | .check => false
  | _ => true

/-- What a command line asks for. -/
structure CommandLine where
  config? : Option Path
  color : ColorChoice
  isJson : Bool
  isQuiet : Bool
  /-- How often more detail is asked for. -/
  verbosity : Nat
  isYes : Bool
  /-- Without a command the menu is shown. -/
  command? : Option Command
deriving DecidableEq, Repr

namespace CommandLine

/-- Whether every question about consent is answered in advance. -/
def consents (line : CommandLine) : Bool :=
  line.isYes || line.command? == some (.applyConfig true)

end CommandLine

/-- Why no command line is carried out: there is something wrong with it, or it
asks for help or for the version. -/
inductive Usage where
  | unknownArgument
  | invalidValue
  | invalidSubcommand
  | argumentConflict
  | tooManyValues
  | missingRequiredArgument
  | help
  | version
deriving DecidableEq, Repr

/-- The exit code of the program for a command line that is not carried out. -/
def Usage.exitCode : Usage → Nat
  | .help => 0
  | .version => 0
  | _ => 2

end ClusterConsole
