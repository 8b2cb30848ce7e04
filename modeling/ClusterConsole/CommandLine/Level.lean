import ClusterConsole.CommandLine.Basic

/-!
# Levels of a command line

The words before the command and the words after it are two levels.  Each level
has options of its own next to the common ones, and may have one operand.  An
option that takes a value is only settled once something follows that cannot
belong to it.
-/

namespace ClusterConsole.CommandLine

/-- An option without a value. -/
inductive Switch where
  | json
  | quiet
  | verbose
  | yes
  | restart
  | watch
  | follow
  | help
  | version
deriving DecidableEq, Repr

/-- What takes a value. -/
inductive Slot where
  | config
  | color
  | operand
deriving DecidableEq, Repr

/-- What the name of an option stands for. -/
inductive OptionName where
  | switch (switch : Switch)
  | valued (slot : Slot)
deriving DecidableEq, Repr

/-- What may stand on a level. -/
structure Form where
  /-- The options that only this level has, by long name and letter. -/
  switches : List (String × Option Char × Switch)
  /-- Whether a value is fit for the operand, if there is one. -/
  operand? : Option (String → Bool)
  /-- The names of the commands that can follow. -/
  commands : List String

namespace Form

def commonSwitches : List (String × Option Char × Switch) :=
  [ ("json", none, .json), ("quiet", some 'q', .quiet),
    ("verbose", some 'v', .verbose),
    ("yes", some 'y', .yes), ("help", some 'h', .help) ]

/-- The options with a value, which every level has. -/
def valuedOptions : List (String × Option Char × Slot) :=
  [("config", some 'c', .config), ("color", none, .color)]

def allSwitches (form : Form) : List (String × Option Char × Switch) :=
  commonSwitches ++ form.switches

def long? (form : Form) (name : String) : Option OptionName :=
  ((form.allSwitches.find? fun entry => entry.1 = name).map fun entry =>
    .switch entry.2.2) <|>
    ((valuedOptions.find? fun entry => entry.1 = name).map fun entry =>
      .valued entry.2.2)

def short? (form : Form) (letter : Char) : Option OptionName :=
  ((form.allSwitches.find? fun entry => entry.2.1 = some letter).map
      fun entry => .switch entry.2.2) <|>
    ((valuedOptions.find? fun entry => entry.2.1 = some letter).map
      fun entry => .valued entry.2.2)

end Form

/-- What a level has given so far. -/
structure Given where
  config? : Option Path
  color? : Option ColorChoice
  operand? : Option String
  switches : List Switch
  verbosity : Nat
deriving DecidableEq, Repr

namespace Given

/-- Nothing is given. -/
def nothing : Given := ⟨none, none, none, [], 0⟩

/-- The most that detail is counted up to. -/
def verbosityLimit : Nat := 255

/-- Adds a switch.  Only the one for more detail can come twice. -/
def turnOn (given : Given) (switch : Switch) : Except Usage Given :=
  match switch with
  | .help => .error .help
  | .version => .error .version
  | .verbose =>
    .ok { given with verbosity := min (given.verbosity + 1) verbosityLimit }
  | switch =>
    if switch ∈ given.switches then .error .argumentConflict
    else .ok { given with switches := switch :: given.switches }

/-- Adds a value, which must be fit for its place and come only once. -/
def fill (form : Form) (given : Given) (slot : Slot) (value : String) :
    Except Usage Given :=
  match slot with
  | .config =>
    if given.config?.isSome then .error .argumentConflict
    else if value = "" then .error .invalidValue
    else .ok { given with config? := some ⟨value⟩ }
  | .color =>
    if given.color?.isSome then .error .argumentConflict
    else
      match ColorChoice.ofText? value with
      | some choice => .ok { given with color? := some choice }
      | none => .error .invalidValue
  | .operand =>
    if form.operand?.any fun fits => fits value then
      .ok { given with operand? := some value }
    else .error .invalidValue

end Given

/-- How far a level has been read. -/
structure Reading where
  given : Given
  /-- What is not settled, with its value once it has one. -/
  pending? : Option (Slot × Option String)
  /-- After two dashes nothing is an option. -/
  isPlain : Bool
deriving DecidableEq, Repr

namespace Reading

/-- Nothing has been read. -/
def start : Reading := ⟨.nothing, none, false⟩

/-- Settles what is pending; an option without its value is refused. -/
def settle (form : Form) (reading : Reading) : Except Usage Reading :=
  match reading.pending? with
  | none => .ok reading
  | some (_, none) => .error .invalidValue
  | some (slot, some value) => do
    return { reading with given :=
      ← reading.given.fill form slot value, pending? := none }

def isWaiting (reading : Reading) : Bool :=
  match reading.pending? with
  | some (_, none) => true
  | _ => false

def turnOn (form : Form) (reading : Reading) (switch : Switch) :
    Except Usage Reading := do
  let reading ← reading.settle form
  return { reading with given := ← reading.given.turnOn switch }

def fill (form : Form) (reading : Reading) (slot : Slot) (value : String) :
    Except Usage Reading := do
  let reading ← reading.settle form
  return { reading with given := ← reading.given.fill form slot value }

/-- Reads an option whose value is to follow, or the operand. -/
def await (form : Form) (reading : Reading) (slot : Slot)
    (value? : Option String) :
    Except Usage Reading := do
  let reading ← reading.settle form
  return { reading with pending? := some (slot, value?) }

/-- Reads a long option, given the text between its dashes and the equals sign,
and the text after that. -/
def readLong (form : Form) (reading : Reading) (name : String)
    (value? : Option String) :
    Except Usage Reading :=
  match form.long? name, value? with
  | none, _ => .error .unknownArgument
  | some (.switch _), some _ => .error .tooManyValues
  | some (.switch switch), none => reading.turnOn form switch
  | some (.valued slot), some value => reading.fill form slot value
  | some (.valued slot), none => reading.await form slot none

/-- Reads the letters after one dash.  What follows the letter of an option with
a value is its value, after an equals sign or without one. -/
def readShort (form : Form) (reading : Reading) :
    List Char → Except Usage Reading
  | [] => .ok reading
  | letter :: rest =>
    match form.short? letter with
    | none => .error .unknownArgument
    | some (.switch switch) =>
      match reading.turnOn form switch with
      | .error usage => .error usage
      | .ok reading => readShort form reading rest
    | some (.valued slot) =>
      match rest with
      | [] => reading.await form slot none
      | '=' :: value => reading.fill form slot (String.ofList value)
      | value => reading.fill form slot (String.ofList value)

/-- Reads a word that is no option.  There is one operand at most. -/
def readPlain (form : Form) (reading : Reading) (word : String) :
    Except Usage Reading :=
  match reading.pending?, reading.isPlain with
  | some (slot, none), false =>
    .ok { reading with pending? := some (slot, some word) }
  | _, _ =>
    if form.operand?.isSome && !hasOperand then
      reading.await form .operand (some word)
    else if form.commands.isEmpty ||
      (reading.isPlain && form.commands.contains word) then
      .error .unknownArgument
    else .error .invalidSubcommand
where
  /-- Whether the operand has been read. -/
  hasOperand : Bool :=
    reading.given.operand?.isSome ||
      reading.pending?.any fun pending => pending.1 == .operand

/-- Reads a word that is not the name of a command. -/
def readWord (form : Form) (reading : Reading) (word : String) :
    Except Usage Reading :=
  if reading.isPlain then reading.readPlain form word
  else
    match word.toList with
    | ['-', '-'] => .ok { reading with isPlain := true }
    | '-' :: '-' :: text =>
      match text.dropWhile (· ≠ '=') with
      | [] => reading.readLong form (String.ofList text) none
      | _ :: value =>
        reading.readLong form (String.ofList (text.takeWhile (· ≠ '=')))
          (some (String.ofList value))
    | '-' :: letter :: rest => reading.readShort form (letter :: rest)
    | _ => reading.readPlain form word

end Reading

/-- Reads the words of a level up to the name of a command, if one comes, and
tells the words after it. -/
def readLevel (form : Form) (reading : Reading) :
    List String → Except Usage (Reading × Option (String × List String))
  | [] => .ok (reading, none)
  | word :: rest =>
    if !reading.isPlain && !reading.isWaiting &&
      form.commands.contains word then
      .ok (reading, some (word, rest))
    else
      match reading.readWord form word with
      | .error usage => .error usage
      | .ok reading => readLevel form reading rest

end ClusterConsole.CommandLine
