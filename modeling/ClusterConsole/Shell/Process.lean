import ClusterConsole.Shell.Command
import ClusterConsole.Shell.System

/-!
# What a process has for itself

A shell has parameters, functions, options and traps, the streams that its
numbers stand for, and the directory that it is in.  A shell that begins for
another one starts with what that one has, and changes nothing there.
-/

namespace ClusterConsole.Shell

/-- A variable.  It may be known without having a value. -/
structure Binding where
  name : String
  value? : Option String
  /-- Programs that the shell runs have the variable too. -/
  isExported : Bool := false
  /-- The variable keeps its value. -/
  isFixed : Bool := false
deriving DecidableEq, Repr

/-- The place that options are read from next: the number of an argument, and
the letters in it that are left. -/
structure OptionPlace where
  argument : Nat
  letters : List Char
deriving DecidableEq, Repr

/-- What a process has for itself. -/
structure Process where
  number : Nat
  /-- The number that the first shell of the script has. -/
  root : Nat
  parent : Nat
  /-- The name that the script runs under. -/
  script : String
  arguments : List String
  bindings : List Binding
  functions : List (String × Command)
  aliases : List (String × String)
  /-- The letters of the options that are on. -/
  options : List Char
  status : Nat
  /-- How the last command ended whose output became part of a word. -/
  substituted : Nat
  /-- The line of the script that messages tell. -/
  line : Nat
  /-- The command of the shell that is carried out. -/
  builtin? : Option String
  /-- The loops around the command that is carried out. -/
  loops : Nat
  /-- The functions that are carried out within one another. -/
  calls : Nat
  /-- What local variables hide, for each function that is carried out. -/
  frames : List (List (String × Option Binding))
  /-- What is done about signals; no signal at all stands for the end of the
  script. -/
  traps : List (Nat × String)
  /-- Signals that came and are still to be dealt with. -/
  raised : List Nat
  /-- The status that a trap goes back to. -/
  savedStatus? : Option Nat
  optionPlace : OptionPlace
  working : Location
  /-- The open streams that numbers stand for. -/
  descriptors : List (Nat × Nat)
  /-- The processes that run beside this one, the last one first. -/
  jobs : List Nat
  /-- Those of them whose end is known. -/
  reaped : List Nat
  /-- The programs that were found by their names. -/
  hashed : List String
  lastJob? : Option Nat
  /-- The mode bits that new files do not get. -/
  mask : Nat
  /-- A command is being traced. -/
  isTracing : Bool
  /-- Something that was to be printed could not be. -/
  hasLostOutput : Bool
  /-- The documents that the script holds. -/
  documents : Array Word

/-! ## Variables -/

def locationText (location : Location) : String :=
  "/" ++ "/".intercalate (location.map Raw.ofText)

namespace Process

def binding? (process : Process) (name : String) : Option Binding :=
  process.bindings.find? fun binding => binding.name = name

def lookup? (process : Process) (name : String) : Option String :=
  (process.binding? name).bind Binding.value?

/-- A process with a variable changed, which is made if there is none. -/
def withBinding (process : Process)
    (name : String) (change : Binding → Binding) : Process :=
  if (process.binding? name).isSome then
    { process with
      bindings := process.bindings.map fun binding =>
        if binding.name = name then change binding else binding }
  else
    { process with bindings :=
      process.bindings ++ [change ⟨name, none, false, false⟩] }

/-- A process without a variable. -/
def withoutBinding (process : Process) (name : String) : Process :=
  { process with bindings :=
    process.bindings.filter fun binding => binding.name ≠ name }

/-- The letter of the option that lets programs have all variables. -/
def exportAll : Char := 'a'

def has (process : Process) (option : Char) :
    Bool := process.options.contains option

def assign (process : Process) (name value : String) : Process :=
  let process :=
    if name = "OPTIND" then
      { process with optionPlace := ⟨(value.toNat?.getD 1), []⟩ }
    else if name = "PATH" then { process with hashed := [] }
    else process
  process.withBinding name fun binding =>
    { binding with
      value? := some value
      isExported := binding.isExported || process.has exportAll }

/-- The characters that take values apart, if they are set. -/
def separators? (process : Process) : Option (List Char) :=
  (process.lookup? "IFS").map String.toList

/-- The separators where none are set. -/
def standardSeparators : List Char := [' ', '\t', '\n']

def separators (process : Process) : List Char :=
  process.separators?.getD standardSeparators

/-- The variables with their values, in the order of their names. -/
def sorted (process : Process) : List Binding :=
  process.bindings.mergeSort fun left right => left.name ≤ right.name

def exported (process : Process) : List Binding :=
  process.bindings.filterMap fun binding =>
    if binding.isExported && binding.value?.isSome then
      some { binding with isFixed := false }
    else none

/-! ## Options -/

/-- The options with a letter: its name, and the letter. -/
def optionNames : List (String × Char) :=
  [("errexit", 'e'), ("noglob", 'f'), ("ignoreeof", 'I'), ("interactive", 'i'),
    ("monitor", 'm'), ("noexec", 'n'), ("stdin", 's'), ("xtrace", 'x'),
    ("verbose", 'v'), ("vi", 'V'), ("emacs", 'E'), ("noclobber", 'C'),
    ("allexport", 'a'), ("notify", 'b'), ("nounset", 'u'), ("privileged", 'p'),
    ("nolog", '0'), ("debug", '1')]

def isOption (letter : Char) : Bool :=
  optionNames.any fun entry => entry.2 = letter && !letter.isDigit

def withOption (process : Process) (letter : Char) (isOn : Bool) : Process :=
  let others := process.options.filter (· ≠ letter)
  { process with options := if isOn then letter :: others else others }

def optionLetters (process : Process) : String :=
  String.ofList ((optionNames.reverse.map Prod.snd).filter fun letter =>
    process.has letter && !letter.isDigit)

/-! ## Streams -/

/-- The place of the stream that a number stands for. -/
def descriptor? (process : Process) (number : Nat) : Option Nat :=
  process.descriptors.lookup number

/-- A process where a number stands for a stream, or for none. -/
def withDescriptor (process : Process) (number : Nat) (index? : Option Nat) :
    Process :=
  let others := process.descriptors.filter fun entry => entry.1 ≠ number
  { process with
    descriptors := match index? with
      | some index => (number, index) :: others
      | none => others }

/-! ## Signals -/

def trap? (process : Process) (signal : Nat) :
    Option String := process.traps.lookup signal

/-- The end of a script, in place of a signal. -/
def endOfScript : Nat := 0

/-- The traps of a shell that begins for another one: signals that are ignored
stay so. -/
def inheritedTraps (process : Process) : List (Nat × String) :=
  process.traps.filter fun entry => entry.2 = "" && entry.1 ≠ endOfScript

end Process

end ClusterConsole.Shell
