import ClusterConsole.Shell.Builtin.Output
import ClusterConsole.Shell.Line

/-!
# Commands of a shell for variables

These commands declare variables, read values for them, and set the options and
arguments of the shell.
-/

namespace ClusterConsole.Shell

namespace Builtin

/-- A text that stands for itself when a shell reads it.  Quotes in it are put
between quotes of the other kind. -/
def quotedText (text : String) : String :=
  String.ofList (go text.length text.toList)
where
  /-- The text for what is left. -/
  go : (fuel : Nat) → List Char → List Char
    | 0, _ => ['\'', '\'']
    | fuel + 1, chars =>
      let plain := chars.takeWhile (· ≠ '\'')
      let rest := chars.drop plain.length
      let quotes := rest.takeWhile (· = '\'')
      let rest := rest.drop quotes.length
      let front := '\'' :: plain ++ ['\'']
      let front :=
        if quotes.isEmpty then front else front ++ '"' :: quotes ++ ['"']
      if rest.isEmpty then front else front ++ go fuel rest

/-- Gives a variable a value or none, if it has none yet, and changes it. -/
def declareOne (argument : String) (change : Binding → Binding) :
    Action Unit := do
  let (name, value?) := Argument.assignment argument
  let isKnown := ((← Action.process).binding? name).isSome
  match value? with
  | some value => Action.assign name value
  | none =>
    unless isKnown || isName name.toList do
      Action.fault (name ++ ": bad variable name")
  Action.modifyProcess fun process => process.withBinding name change

/-- Prints variables as commands that declare them. -/
def listVariables (command : String) (test : Binding → Bool) : Action Unit := do
  let process ← Action.process
  (process.sorted.filter test).forM fun binding =>
    let front := if command = "" then "" else command ++ " "
    Action.printLine (match binding.value? with
      | some value => front ++ binding.name ++ "=" ++ quotedText value
      | none => front ++ binding.name)

/-- Declares variables in one way, or tells those that are so declared. -/
def declare (command : String) (test : Binding → Bool)
    (change : Binding → Binding) :
    Builtin := fun arguments => do
  let (options, words) ← Action.demand (Argument.options ['p'] [] arguments)
  if options.isEmpty && !words.isEmpty then words.forM (declareOne · change)
  else listVariables command test
  return 0

def exportAll : Builtin :=
  declare "export" Binding.isExported fun binding =>
    { binding with isExported := true }

def readonly : Builtin :=
  declare "readonly" Binding.isFixed fun binding =>
    { binding with isFixed := true }

/-- Makes variables of their own for a function; one without a value goes on
with the one that it had. -/
def localize : Builtin := fun arguments => do
  if (← Action.process).frames.isEmpty then Action.fault "not in a function"
  arguments.forM fun argument => do
    let (name, value?) := Argument.assignment argument
    if name = "-" then return ()
    Action.hide name
    match value? with
    | some value => Action.assign name value
    | none => declareOne name id
  return 0

def unset : Builtin := fun arguments => do
  let (options, words) ← Action.demand
    (Argument.options ['v', 'f'] [] arguments)
  let isFunction := (options.getLast?.map Prod.fst) = some 'f'
  words.forM fun name =>
    if isFunction then
      Action.modifyProcess fun process =>
        { process with functions :=
          process.functions.filter fun entry => entry.1 ≠ name }
    else Action.unassign name
  return 0

def shift : Builtin := fun arguments => do
  let count ←
    match arguments with
    | [] => pure 1
    | first :: _ => Action.count first
  if (← Action.process).arguments.length < count then
    Action.fault "can't shift that many"
  Action.modifyProcess fun process =>
    { process with
      arguments := process.arguments.drop count
      optionPlace := ⟨1, []⟩ }
  return 0

/-! ## Options -/

/-- Turns an option on or off by its letter. -/
def setOption (isOn : Bool) (letter : Char) : Action Unit :=
  if Process.isOption letter then
    Action.modifyProcess fun process => process.withOption letter isOn
  else Action.fault ("Illegal option -" ++ String.singleton letter)

def listOptions (isOn : Bool) (isSet : Char → Bool) : Action Unit := do
  if isOn then Action.printLine "Current option settings"
  Process.optionNames.forM fun (name, letter) =>
    if isOn then
      let blanks := String.ofList (List.replicate (16 - name.length) ' ')
      Action.printLine (name ++ blanks ++ if isSet letter then "on" else "off")
    else
      Action.printLine ("set " ++
        (if isSet letter then "-o " else "+o ") ++ name)

/-- Turns an option on or off by its name, or lists all of them if there is
none. -/
def setNamedOption (isOn : Bool) : Option String → Action Unit
  | none => do listOptions isOn (← Action.process).has
  | some name =>
    match Process.optionNames.lookup name with
    | some letter =>
      Action.modifyProcess fun process => process.withOption letter isOn
    | none => Action.fault ("Illegal option -o " ++ name)

/-- Turns the options of one argument on or off; the letter o takes a name from
those that follow. -/
def setLetters (isOn : Bool) : List Char → List String → Action (List String)
  | [], rest => return rest
  | 'o' :: letters, rest => do
    setNamedOption isOn rest.head?
    setLetters isOn letters (rest.drop 1)
  | letter :: letters, rest => do
    setOption isOn letter
    setLetters isOn letters rest

def setArguments (arguments : List String) : Action Unit :=
  Action.modifyProcess fun process =>
    { process with arguments, optionPlace := ⟨1, []⟩ }

/-- Sets options from the front of so many arguments, and then the arguments. -/
def setAll : (fuel : Nat) → List String → Action Unit
  | 0, _ => return ()
  | _, [] => return ()
  | fuel + 1, first :: rest => do
    match first.toList with
    | ['-'] =>
      Action.modifyProcess fun process =>
        (process.withOption 'x' false).withOption 'v' false
      unless rest.isEmpty do setArguments rest
    | ['-', '-'] => setArguments rest
    | '-' :: letters => setAll fuel (← setLetters true letters rest)
    | '+' :: letters => setAll fuel (← setLetters false letters rest)
    | _ => setArguments (first :: rest)

/-- Sets options and arguments, or tells all variables. -/
def set : Builtin := fun arguments => do
  if arguments.isEmpty then
    listVariables "" fun binding => binding.value?.isSome
  else
    setAll (arguments.length + 1) arguments
    Action.refuseControl
  return 0

/-! ## Reading -/

def read : Builtin := fun arguments => do
  let (options, names) ← Action.demand (Argument.options ['r'] ['p'] arguments)
  if names.isEmpty then Action.fault "arg count"
  let isRaw := options.any fun option => option.1 = 'r'
  let bytes ← Action.lineContents 0 fun bytes =>
    (Line.ofBytes isRaw false 0 bytes).2.2
  let (line, taken, isEnded) := Line.ofBytes isRaw false 0 bytes
  Action.advance 0 taken
  let parts := Line.parts (← Action.process).separators names.length line
  (names.zip (parts ++ List.replicate names.length "")).forM
    fun (name, value) =>
    Action.assign name value
  return if isEnded then 0 else 1

/-- What is read of the options in some arguments. -/
structure OptionRead where
  place : OptionPlace
  /-- The letter that the variable gets, which is a question mark at the end and
  for a letter that is not known. -/
  letter : Char
  /-- The value that there is for the letter. -/
  value? : Option String
  complaint? : Option String
  isOver : Bool
deriving DecidableEq, Repr

def readOption (known : List Char) (arguments : List String)
    (place : OptionPlace) :
    OptionRead :=
  if !place.letters.isEmpty then letterAt place.letters place.argument
  else
    match (arguments[place.argument - 1]?).map String.toList with
    | some ['-', '-'] => ⟨⟨place.argument + 1, []⟩, '?', none, none, true⟩
    | some ('-' :: letter :: rest) =>
      letterAt (letter :: rest) (place.argument + 1)
    | _ => ⟨⟨place.argument, []⟩, '?', none, none, true⟩
where
  /-- What the first of some letters is, with the number of the next
  argument. -/
  letterAt (letters : List Char) (next : Nat) : OptionRead :=
    let isQuiet := known.head? = some ':'
    let letter := letters.headD '?'
    let rest := letters.drop 1
    match if letter = ':' then [] else known.dropWhile (· ≠ letter) with
    | [] =>
      if isQuiet then
        ⟨⟨next, rest⟩, '?', some (String.singleton letter), none, false⟩
      else
        ⟨⟨next, rest⟩, '?', none,
          some ("Illegal option -" ++ String.singleton letter), false⟩
    | _ :: ':' :: _ =>
      if rest.isEmpty then
        match arguments[next - 1]? with
        | some value => ⟨⟨next + 1, []⟩, letter, some value, none, false⟩
        | none =>
          if isQuiet then
            ⟨⟨next, []⟩, ':', some (String.singleton letter), none, false⟩
          else
            ⟨⟨next, []⟩, '?', none,
              some ("No arg for -" ++ String.singleton letter ++ " option"),
              false⟩
      else ⟨⟨next, []⟩, letter, some (String.ofList rest), none, false⟩
    | _ => ⟨⟨next, rest⟩, letter, some "", none, false⟩

/-- Reads one more option of the arguments into a variable. -/
def getopts : Builtin := fun arguments => do
  let (_, words) ← Action.demand (Argument.options [] [] arguments)
  match words with
  | known :: name :: given =>
    let process ← Action.process
    let arguments := if given.isEmpty then process.arguments else given
    let place :=
      if process.optionPlace.argument > arguments.length + 1 then ⟨1, []⟩
      else process.optionPlace
    let result := readOption known.toList arguments
      { place with argument := max 1 place.argument }
    match result.complaint? with
    | some complaint => Action.tell (complaint ++ "\n")
    | none => pure ()
    unless result.isOver do
      match result.value? with
      | some value => Action.assign "OPTARG" value
      | none => Action.unassign "OPTARG"
    Action.assign "OPTIND" (toString result.place.argument)
    Action.assign name (String.singleton result.letter)
    Action.modifyProcess fun process =>
      { process with optionPlace := result.place }
    return if result.isOver then 1 else 0
  | _ => Action.fault "Usage: getopts optstring var [arg...]"

end Builtin

end ClusterConsole.Shell
