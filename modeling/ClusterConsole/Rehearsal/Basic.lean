import ClusterConsole.Console.Key
import ClusterConsole.Procedure.Surroundings
import ClusterConsole.Rehearsal.Answers
import ClusterConsole.Rehearsal.Script

/-!
# Rehearsals

In a rehearsal nothing real is run.  A script stands in for the tools, answers
or keys for the operator, and a file tree for the disk; commands and printed
texts are kept.
-/

namespace ClusterConsole

/-- When an interrupt arrives. -/
inductive Moment where
  /-- While a command runs. -/
  | during
  /-- In the first pause after a command. -/
  | afterwards
deriving DecidableEq, Repr

/-- An interrupt at the next command that starts with some words. -/
structure Interrupt where
  words : List String
  moment : Moment
deriving DecidableEq, Repr

/-- What stands in for the tools and the operator, and what was kept so far. -/
structure Rehearsal where
  script : Script
  /-- The answers given in advance, if there are any. -/
  answers? : Option Answers
  /-- The keys typed ahead, if there is a terminal. -/
  keys? : Option (List Key)
  interrupts : List Interrupt
  /-- An interrupt is to arrive in the next pause. -/
  isDue : Bool
  /-- The commands that were started. -/
  commands : List Invocation
  output : String
  errors : String

namespace Rehearsal

def ofScript (script : Script) : Rehearsal :=
  ⟨script, none, none, [], false, [], "", ""⟩

def nextInterrupt? (rehearsal : Rehearsal) (invocation : Invocation) :
    Option Interrupt :=
  rehearsal.interrupts.head?.filter fun interrupt =>
    invocation.startsWith interrupt.words

/-- A rehearsal in which a command has used up the interrupt that was for it. -/
def pastInterrupt (rehearsal : Rehearsal) (invocation : Invocation) :
    Rehearsal :=
  match rehearsal.nextInterrupt? invocation with
  | none => rehearsal
  | some interrupt =>
    { rehearsal with
      interrupts := rehearsal.interrupts.drop 1
      isDue := rehearsal.isDue || interrupt.moment == .afterwards }

/-- Runs a command by the script. -/
def run (rehearsal : Rehearsal) (invocation : Invocation)
    (options : RunOptions) :
    Except SystemError CommandOutput × Rehearsal :=
  let rehearsal := rehearsal.pastInterrupt invocation
  let reply := rehearsal.script.reply invocation options
  match reply with
  | .ok _ =>
    (reply, { rehearsal with commands := rehearsal.commands ++ [invocation] })
  | .error _ => (reply, rehearsal)

def lines (rehearsal : Rehearsal) : List String :=
  rehearsal.commands.map Invocation.text

/-- The place of the first command with a text. -/
def position? (rehearsal : Rehearsal) (line : String) : Option Nat :=
  rehearsal.lines.idxOf? line

def count (rehearsal : Rehearsal) (words : List String) : Nat :=
  rehearsal.commands.countP (·.startsWith words)

/-- The operator's consent: an answer given in advance, or a typed one. -/
def confirm (rehearsal : Rehearsal) (preset : Bool) :
    Except String Bool × Rehearsal :=
  match rehearsal.answers?, rehearsal.keys? with
  | some answers, _ =>
    let (answer, answers) := answers.next preset
    (answer, { rehearsal with answers? := some answers })
  | none, some keys =>
    let (answer, keys) := Key.answer preset keys
    (answer, { rehearsal with keys? := some keys })
  | none, none => (.error Key.noTerminal, rehearsal)

def inquire (rehearsal : Rehearsal) (preset : Bool) :
    Except String Bool × Rehearsal :=
  match rehearsal.keys? with
  | some keys =>
    let (answer, keys) := Key.answer preset keys
    (answer, { rehearsal with keys? := some keys })
  | none => (.error Key.noTerminal, rehearsal)

def choose (rehearsal : Rehearsal) (size preset : Nat) (isOptional : Bool) :
    Except String (Option Nat) × Rehearsal :=
  match rehearsal.keys? with
  | some keys =>
    let (choice, keys) := Key.choose size isOptional preset keys
    (choice, { rehearsal with keys? := some keys })
  | none => (.error Key.noTerminal, rehearsal)

def write (rehearsal : Rehearsal) (text : String) : Channel → Rehearsal
  | .output => { rehearsal with output := rehearsal.output ++ text }
  | .errors => { rehearsal with errors := rehearsal.errors ++ text }

def performers : Surroundings Rehearsal where
  reply
    | .run invocation options, rehearsal => rehearsal.run invocation options
    | .find tool, rehearsal => (rehearsal.script.finds tool, rehearsal)
    | .confirm _ preset, rehearsal => rehearsal.confirm preset
    | .announce _, rehearsal => ((), rehearsal)
    | .settle _, rehearsal => ((), rehearsal)
    | .file request, rehearsal =>
      ((FileTree.reply request (.empty [])).1, rehearsal)
    | .display (.pause nanoseconds), rehearsal =>
      ((Interruption.reply (.pause nanoseconds) .idle).1,
        { rehearsal with isDue := false })
    | .display request, rehearsal =>
      ((Interruption.reply request .idle).1, rehearsal)
    | .write channel text, rehearsal => ((), rehearsal.write text channel)
    | .choose _ items preset isOptional, rehearsal =>
      rehearsal.choose items.length preset isOptional
    | .inquire _ preset, rehearsal => rehearsal.inquire preset

def arrives (request : Request) (before _after : Rehearsal) : Bool :=
  match request with
  | .run invocation _ =>
    (before.nextInterrupt? invocation).any fun interrupt =>
      interrupt.moment == .during
  | .display (.pause _) => before.isDue
  | _ => false

end Rehearsal

/-- A rehearsal with its files and the state of its display loop. -/
structure Stage where
  files : FileTree
  flags : Interruption
  rehearsal : Rehearsal

namespace Stage

def surroundings : Surroundings (FileTree × Interruption × Rehearsal) :=
  (Rehearsal.performers.withInterrupts Rehearsal.arrives).withFiles

def perform (stage : Stage) (procedure : Procedure α) : Run Stage α :=
  let run :=
    procedure.run surroundings (stage.files, stage.flags, stage.rehearsal)
  ⟨run.value, run.trace, ⟨run.state.1, run.state.2.1, run.state.2.2⟩⟩

end Stage

end ClusterConsole
