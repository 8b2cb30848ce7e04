import ClusterConsole.Shell.Utility.Message

/-!
# Showing contents of files

The contents of files are printed one after the other, as they are or with
marks.
-/

namespace ClusterConsole.Shell

namespace Utility

/-- The place in a file that a stream is at, if it leads to one. -/
def placeOf (number : Nat) : Action (Option (Location × Nat)) := do
  let state ← get
  return match (state.process.descriptor? number).bind state.system.stream? with
    | some ⟨.file location position _, _, _⟩ => some (location, position)
    | _ => none

/-- How the contents of files are shown. -/
structure Display where
  numbersLines : Bool
  /-- Only lines with something in them have numbers. -/
  skipsEmpty : Bool
  marksEnds : Bool
  marksTabs : Bool
  /-- Other characters that cannot be seen are shown by ones that can. -/
  marksControls : Bool
  joinsEmpty : Bool
deriving DecidableEq, Repr

namespace Display

/-- Whether contents are shown as they are. -/
def isPlain (display : Display) : Bool :=
  !(display.numbersLines || display.marksEnds || display.marksTabs ||
    display.marksControls ||
    display.joinsEmpty)

def ofLetters (letters : List Char) : Display where
  numbersLines := letters.contains 'n' || letters.contains 'b'
  skipsEmpty := letters.contains 'b'
  marksEnds := letters.any ['e', 'E', 'A'].contains
  marksTabs := letters.any ['t', 'T', 'A'].contains
  marksControls := letters.any ['v', 'e', 't', 'A'].contains
  joinsEmpty := letters.contains 's'

/-- A character of seven bits as one that can be seen. -/
def mark (code : Nat) : List Char :=
  if code < 0x20 then ['^', Char.ofNat (code + 0x40)]
  else if code = 0x7F then ['^', '?']
  else [Char.ofNat code]

def char (display : Display) (char : Char) : List Char :=
  let code := char.toNat
  if char = '\t' then if display.marksTabs then mark code else [char]
  else if !display.marksControls then [char]
  else if code < 0x80 then mark code
  else 'M' :: '-' :: mark (code - 0x80)

/-- The text of a line by its number, without its end. -/
def line (display : Display) (number : Nat)
    (isEnded : Bool) (text : List Char) : List Char :=
  let digits := (toString number).toList
  let front :=
    if display.numbersLines && !(display.skipsEmpty && text.isEmpty) then
      List.replicate (6 - digits.length) ' ' ++ digits ++ ['\t']
    else []
  front ++ text.flatMap display.char ++ if display.marksEnds &&
    isEnded then ['$'] else []

/-- The text of all lines from one with some number on. -/
def lines (display : Display) :
    (number : Nat) → (isAfterEmpty : Bool) → List (List Char) →
    List Char
  | _, _, [] => []
  | number, _, [last] =>
    if last.isEmpty then [] else display.line number false last
  | number, isAfterEmpty, text :: rest =>
    if text.isEmpty && isAfterEmpty && display.joinsEmpty then
      display.lines number true rest
    else
      let next :=
        if display.skipsEmpty && text.isEmpty then number else number + 1
      display.line number true text ++
        '\n' :: display.lines next text.isEmpty rest

def text (display : Display) (contents : String) : String :=
  if display.isPlain then contents
  else String.ofList (display.lines 1 false (contents.toList.splitOn '\n'))

end Display

/-- The contents of a file, which may not be the one that is being written, or
of what is read if the name is a stroke. -/
def contentsOf (name : String) : Action (Except String String) := do
  let output ← placeOf 1
  if name = "-" then
    match ← Action.contents 0 with
    | .error cause => return .error (Action.reason cause)
    | .ok bytes =>
      let input ← placeOf 0
      if (input.map Prod.fst) = (output.map Prod.fst) && input.isSome &&
        !bytes.isEmpty then
        return .error "input file is output file"
      else
        Action.advance 0 bytes.length
        return .ok (Raw.ofBytes bytes)
  else
    let files ← Action.files
    match ← Action.openPath name .read with
    | .error cause => return .error (Action.reason cause)
    | .ok index =>
      let location? := (files.locate ⟨Raw.toText name⟩).toOption
      match (← get).system.contents index with
      | .error cause => return .error (Action.reason cause)
      | .ok bytes =>
        if location? = output.map Prod.fst && location?.isSome &&
          !bytes.isEmpty then
          return .error "input file is output file"
        else return .ok (Raw.ofBytes bytes)

/-- The contents of all files that can be read, and whether all of them
could. -/
def concatenated (program : String) : List String → Action (String × Bool)
  | [] => return ("", true)
  | name :: rest => do
    let (front, isRead) ←
      match ← contentsOf name with
      | .ok contents => pure (contents, true)
      | .error message => do
        complain program (shown name ++ ": " ++ message)
        pure ("", false)
    let (others, areRead) ← concatenated program rest
    return (front ++ others, isRead && areRead)

/-- Prints the contents of files, one after the other. -/
def cat (program : String) : Builtin := fun arguments =>
  reading program ['A', 'b', 'e', 'E', 'n', 's', 't', 'T', 'u', 'v'] arguments
    fun options names => do
      let display := Display.ofLetters options
      let names := if names.isEmpty then ["-"] else names
      if display.isPlain then
        let status ← forAll names fun name => do
          let (contents, isRead) ← concatenated program [name]
          Action.print contents
          return isRead
        finish names (status = 0)
      else
        let (contents, areRead) ← concatenated program names
        Action.print (display.text contents)
        finish names areRead
where
  /-- The status of the program; what it reads has to be open when it ends. -/
  finish (names : List String) (isDone : Bool) : Action Nat := do
    if names.contains "-" && ((← Action.process).descriptor? 0).isNone then
      complain program "closing standard input: Bad file descriptor"
      return 1
    else return if isDone then 0 else 1

end Utility

end ClusterConsole.Shell
