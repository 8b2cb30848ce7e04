import ClusterConsole.Shell.Argument
import ClusterConsole.Shell.Condition
import ClusterConsole.Shell.Format
import ClusterConsole.Shell.State

/-!
# Commands of a shell that print

These commands print their arguments, or tell something about the shell.
-/

namespace ClusterConsole.Shell

/-- What a command of a shell does with its arguments; it gives a status. -/
abbrev Builtin := List String → Action Nat

namespace Builtin

/-- Prints texts, with their escapes carried out. -/
def echo : Builtin := fun arguments => do
  let isOpen := arguments.head? = some "-n"
  let words := if isOpen then arguments.drop 1 else arguments
  let (chars, isOver) := Format.ofText (" ".intercalate words)
  Action.print (String.ofList (if isOpen ||
      isOver then chars else chars ++ ['\n']))
  return 0

/-- Prints texts by a format. -/
def printf : Builtin := fun arguments => do
  let (_, words) ← Action.demand (Argument.options [] [] arguments)
  match words with
  | [] => Action.fault "usage: printf format [arg ...]"
  | format :: arguments =>
    let progress := Format.apply format arguments
    progress.complaints.reverse.forM Action.complain
    match progress.fault? with
    | some message =>
      Action.complain message
      Action.print (String.ofList progress.output.toList)
      Action.setStatus 2
      throw .fault
    | none =>
      Action.print (String.ofList progress.output.toList)
      return if progress.complaints.isEmpty then 0 else 1

def test : Builtin := fun arguments => do
  let holds ← Action.demand (Condition.holds (← Action.files) false arguments)
  return if holds then 0 else 1

def bracket : Builtin := fun arguments =>
  if arguments.getLast? = some "]" then test arguments.dropLast
  else Action.fault "missing ]"

/-- Prints how long the shell and its programs have been running, which is no
time. -/
def times : Builtin := fun _ => do
  let line := "0m0.000000s 0m0.000000s"
  Action.printLine line
  Action.printLine line
  return 0

/-! ## Places -/

def pwd : Builtin := fun arguments => do
  let _ ← Action.demand (Argument.options ['L', 'P'] [] arguments)
  Action.printLine (locationText (← Action.process).working)
  return 0

/-- The names that lead to a place from a location, taken as they are
written. -/
def walk (location : Location) (name : String) : Location :=
  let steps :=
    (name.toList.splitOn '/').map fun step => Raw.toText (String.ofList step)
  steps.foldl (fun location step =>
    if step = "" || step = "." then location
    else if step = ".." then location.dropLast
    else location ++ [step]) (if name.startsWith "/" then [] else location)

/-- Enters a directory, and tells whether that is possible. -/
def enter (name : String) : Action Bool := do
  let files ← Action.files
  let before := (← Action.process).working
  let location := walk before name
  if (files.node? location).any Node.isDirectory then
    Action.modifyProcess fun process =>
      let note (name : String) (location : Location) (process : Process) :
          Process :=
        process.withBinding name fun binding =>
          { binding with
            value? := some (locationText location)
            isExported := true }
      note "PWD" location
        (note "OLDPWD" before { process with working := location })
    return true
  else return false

/-- Whether a path is not looked for elsewhere: it begins at the root, or with
dots. -/
def isAnchored (name : String) : Bool :=
  name.startsWith "/" ||
    match (name.toList.splitOn '/').head? with
    | some step => step = ['.'] || step = ['.', '.']
    | none => false

/-- The directories among the places that a search path gives a name. -/
def searched (search name : String) : Action (Option (String × Bool)) := do
  let files ← Action.files
  let places := (search.toList.splitOn ':').map fun directory =>
    (String.ofList (if directory.isEmpty then
        name.toList else directory ++ '/' :: name.toList),
      !directory.isEmpty)
  return places.find? fun place => files.isDirectory ⟨Raw.toText place.1⟩

def cd : Builtin := fun arguments => do
  let (_, words) ← Action.demand (Argument.options ['L', 'P'] [] arguments)
  let process ← Action.process
  let isBack := words.head? = some "-"
  let name :=
    match words with
    | [] => (process.lookup? "HOME").getD ""
    | "-" :: _ => (process.lookup? "OLDPWD").getD ""
    | name :: _ => name
  let found ←
    if isAnchored name then pure none
    else
      searched ((process.lookup? "CDPATH").getD "")
        (if name = "" then "." else name)
  let (place, isShown) := found.getD (name, false)
  if ← enter place then
    if isBack || isShown then
      Action.printLine (locationText (← Action.process).working)
    return 0
  else Action.fault ("can't cd to " ++ name)

/-! ## Modes -/

/-- The classes of users, with the place of their bits. -/
def userClasses : List (Char × Nat) := [('u', 6), ('g', 3), ('o', 0)]

/-- The bits of a mode, by their letters. -/
def modeBits : List (Char × Nat) := [('r', 4), ('w', 2), ('x', 1)]

/-- What a mask leaves to each class of users. -/
def maskText (mask : Nat) : String :=
  ",".intercalate (userClasses.map fun (name, place) =>
    let letters :=
      (modeBits.filter fun bit => (mask >>> place) &&& bit.2 = 0).map Prod.fst
    String.ofList (name :: '=' :: letters))

def octalText (mask : Nat) : String :=
  let digits := Nat.toDigits 8 mask
  String.ofList (List.replicate (4 - digits.length) '0' ++ digits)

/-- The mode after one clause, if that is well formed. -/
def clause? (mode : Nat) (clause : List Char) : Option Nat :=
  let names := clause.takeWhile ['u', 'g', 'o', 'a'].contains
  let names :=
    if names.isEmpty || names.contains 'a' then ['u', 'g', 'o'] else names
  match clause.dropWhile ['u', 'g', 'o', 'a'].contains with
  | sign :: letters =>
    if sign ∈ ['=', '+', '-'] &&
      letters.all fun letter => (modeBits.lookup letter).isSome then
      let bits := letters.foldl
        (fun bits letter => bits ||| (modeBits.lookup letter).getD 0) 0
      some (names.foldl (fun mode name =>
        let place := (userClasses.lookup name).getD 0
        let before := (mode >>> place) &&& 7
        let after :=
          if sign = '=' then bits
          else if sign = '+' then before ||| bits
          else before &&& (7 - bits)
        mode - (before <<< place) + (after <<< place)) mode)
    else none
  | [] => none

/-- The mode after all clauses of a text. -/
def mode? (mode : Nat) (text : String) : Option Nat :=
  (text.toList.splitOn ',').foldlM clause? mode

/-- Prints or sets the mode bits that new files do not get. -/
def umask : Builtin := fun arguments => do
  let (options, words) ← Action.demand (Argument.options ['S'] [] arguments)
  let mask := (← Action.process).mask
  match words with
  | [] =>
    Action.printLine (if options.isEmpty then octalText mask else maskText mask)
    return 0
  | text :: _ =>
    let chars := text.toList
    let mask ←
      if chars.head?.any Char.isDigit then
        if chars.all fun char => '0' ≤ char && char ≤ '7' then
          pure (Leading.ofDigits 8 chars % 512)
        else Action.badNumber text
      else
        match mode? (511 - mask) text with
        | some mode => pure (511 - mode)
        | none => Action.fault ("Illegal mode: " ++ text)
    Action.modifyProcess fun process => { process with mask }
    return 0

def limitLetters : List Char :=
  ['H', 'S', 'a', 't', 'f', 'd', 's', 'c', 'm', 'l', 'p', 'n', 'v', 'w', 'r']

def limitText : Char → String
  | 'c' => "0"
  | 's' => "8192"
  | 'n' => "1024"
  | _ => "unlimited"

/-- Tells a limit of the shell; limits that are set have no effect. -/
def ulimit : Builtin := fun arguments => do
  let (options, words) ← Action.demand
    (Argument.options limitLetters [] arguments)
  let letter :=
    ((options.map Prod.fst).filter fun letter => letter ∉ ['H', 'S']).getLast?
  match words with
  | [] =>
    Action.printLine (limitText (letter.getD 'f'))
    return 0
  | text :: _ =>
    if text = "unlimited" || text.toList.all Char.isDigit then return 0
    else Action.fault "bad number"

end Builtin

end ClusterConsole.Shell
