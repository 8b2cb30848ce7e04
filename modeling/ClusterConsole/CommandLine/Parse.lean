import ClusterConsole.CommandLine.Level

/-!
# Reading a command line

The words after the command are read before the last option in front of the
command is settled.  An option given on both levels has the value of the second
one.
-/

namespace ClusterConsole.CommandLine

/-- A level with nothing but the common options. -/
def bareForm : Form := ⟨[], none, []⟩

/-- The level after each command that has one of its own. -/
def commandForms : List (String × Form) :=
  [ ("bootstrap", bareForm),
    ("build", bareForm),
    ("deploy-infra", bareForm),
    ("deploy", bareForm),
    ("ship", ⟨[], some fun _ => true, []⟩),
    ("apply-config", ⟨[("restart", none, .restart)], none, []⟩),
    ("status", ⟨[("watch", some 'w', .watch)], none, []⟩),
    ("logs", ⟨[("follow", some 'f', .follow)], some fun _ => true, []⟩),
    ("top", ⟨[("watch", some 'w', .watch)],
      some fun word => (MetricsScope.ofText? word).isSome, []⟩),
    ("teardown", bareForm),
    ("services", bareForm),
    ("secrets", bareForm),
    ("check", bareForm) ]

def helpCommand : String := "help"

def commandNames : List String :=
  commandForms.map Prod.fst ++ [helpCommand]

/-- The level in front of the command. -/
def topForm : Form := ⟨[("version", some 'V', .version)], none, commandNames⟩

/-- The command with a name, given what stands after it; there is none where the
operand is missing. -/
def commandOf? (name : String) (given : Given) : Option Command :=
  match name with
  | "bootstrap" => some .bootstrap
  | "build" => some .build
  | "deploy-infra" => some .deployInfra
  | "deploy" => some .deploy
  | "ship" => given.operand?.map .ship
  | "apply-config" => some (.applyConfig (given.switches.contains .restart))
  | "status" => some (.status (given.switches.contains .watch))
  | "logs" =>
    given.operand?.map fun target =>
      .logs target (given.switches.contains .follow)
  | "top" =>
    (given.operand?.bind MetricsScope.ofText?).map fun scope =>
      .top scope (given.switches.contains .watch)
  | "teardown" => some .teardown
  | "services" => some .services
  | "secrets" => some .secrets
  | "check" => some .check
  | _ => none

/-- What is asked for, given what stands in front of the command and after
it. -/
def assemble (first second : Given) (command? : Option Command) :
    CommandLine where
  config? := second.config? <|> first.config?
  color := (second.color? <|> first.color?).getD .auto
  isJson := first.switches.contains .json || second.switches.contains .json
  isQuiet := first.switches.contains .quiet || second.switches.contains .quiet
  verbosity :=
    if second.verbosity = 0 then first.verbosity else second.verbosity
  isYes := first.switches.contains .yes || second.switches.contains .yes
  command? := command?

/-- Why a request for help on some words is refused, or that it is granted. -/
def helpUsage : List String → Usage
  | [] => .help
  | [word] => if commandNames.contains word then .help else .invalidSubcommand
  | _ => .invalidSubcommand

/-- Reads the level after a command. -/
def parseCommand (name : String) (words : List String) :
    Except Usage (Given × Command) := do
  let form := (commandForms.lookup name).getD bareForm
  let (reading, _) ← readLevel form .start words
  let reading ← reading.settle form
  match commandOf? name reading.given with
  | some command => .ok (reading.given, command)
  | none => .error .missingRequiredArgument

def parse (words : List String) : Except Usage CommandLine := do
  match ← readLevel topForm .start words with
  | (reading, none) =>
    let reading ← reading.settle topForm
    return assemble reading.given .nothing none
  | (reading, some (name, rest)) =>
    if name = helpCommand then .error (helpUsage rest)
    else
      let (given, command) ← parseCommand name rest
      let reading ← reading.settle topForm
      return assemble reading.given given (some command)

end ClusterConsole.CommandLine
