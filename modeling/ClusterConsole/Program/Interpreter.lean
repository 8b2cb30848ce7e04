import ClusterConsole.Files.Standard
import ClusterConsole.Text.Raw

/-!
# What is run for a file

A program of the system is run as it is.  A script names in its first line the
program that is run for it, and an argument that comes before the name of the
script; that program may be a script again, but not for ever.  All texts here
are raw.
-/

namespace ClusterConsole

/-- The program that a script names in its first line, and the argument for
it. -/
structure Interpreter where
  name : String
  argument? : Option String
deriving DecidableEq, Repr

namespace Interpreter

def window : Nat := 256

/-- Whether a character stands between words. -/
def isBlank (char : Char) : Bool := char = ' ' || char = '\t'

/-- Whether a character ends a name. -/
def endsName (char : Char) : Bool := isBlank char || char = '\x00'

/-- Characters without the blanks at their end. -/
def trimEnd (chars : List Char) :
    List Char := (chars.reverse.dropWhile isBlank).reverse

/-- The interpreter in a line that has an end. -/
def ofLine? (line : List Char) : Option Interpreter :=
  let line := (trimEnd line).dropWhile isBlank
  let argument := (line.dropWhile (!isBlank ·)).dropWhile isBlank
  if line.isEmpty then none
  else some ⟨String.ofList (line.takeWhile (!isBlank ·)),
    if argument.isEmpty then none else some (String.ofList argument)⟩

/-- The interpreter in a line of which only the start is seen, so that its name
has to end there; what is cut off of its argument is lost.  The last character
that is seen is only good for that end. -/
def ofStart? (start : List Char) : Option Interpreter :=
  let line := (trimEnd start.dropLast).dropWhile isBlank
  if line.isEmpty ||
    ((start.dropWhile isBlank).dropWhile (!endsName ·)).isEmpty then none
  else
    let name := String.ofList (line.takeWhile (!endsName ·))
    match line.dropWhile (!endsName ·) with
    | [] => some ⟨name, none⟩
    | '\x00' :: _ => some ⟨name, none⟩
    | rest =>
      let argument := (rest.dropWhile isBlank).takeWhile (· ≠ '\x00')
      some ⟨name, some (String.ofList argument)⟩

/-- The interpreter that the start of a file names.  Past the end of a file
there is nothing but the character that ends a name. -/
def of? (contents : ByteArray) : Option Interpreter :=
  let seen := (contents.extract 0 window).toList.map Raw.charOf
  match seen ++ List.replicate (window - seen.length) '\x00' with
  | '#' :: '!' :: start =>
    let line := start.takeWhile fun char => char ≠ '\n' && char ≠ '\x00'
    if start[line.length]? = some '\n' then ofLine? line else ofStart? start
  | _ => none

/-- The arguments in front of a script. -/
def words (interpreter : Interpreter) : List String :=
  interpreter.name :: interpreter.argument?.toList

end Interpreter

/-- A program of the system, with the words that it is run with, its own name
first. -/
structure Started where
  program : String
  words : List String
deriving DecidableEq, Repr

namespace FileTree

def scriptLimit : Nat := 5

/-- The length that an argument stays below. -/
def argumentLimit : Nat := 131072

/-- The file that a path leads to, if it can be run with some words: its place
and what it holds. -/
def runnable (files : FileTree) (path : String) (words : List String) :
    Except SystemError (Location × ByteArray) := do
  let location ← files.locate ⟨Raw.toText path⟩
  match files.node? location with
  | none => .error .notFound
  | some .directory => .error .permissionDenied
  | some .device => .error .permissionDenied
  | some (.file contents mode) =>
    if mode &&& 0o111 = 0 then .error .permissionDenied
    else if words.any fun word => argumentLimit ≤ word.length then
      .error .argumentsTooLong
    else .ok (location, contents)

/-- What is run for the file that a path leads to, with some words, of which the
first one is a name for it.  A script may lead further. -/
def resolveBy (files : FileTree)
    (further? : Option (String → List String → Except SystemError Started))
    (path : String) (words : List String) : Except SystemError Started := do
  let (location, contents) ← files.runnable path words
  match standardProgram? location with
  | some program => .ok ⟨program, words⟩
  | none =>
    match Interpreter.of? contents, further? with
    | none, _ => .error .notAProgram
    | some _, none => .error .tooManyLinks
    | some interpreter, some further =>
      if interpreter.name = "" then .error .permissionDenied
      else further interpreter.name (interpreter.words ++ path :: words.drop 1)

/-- What is run for the file that a path leads to, through at most so many
scripts. -/
def resolve (files : FileTree) :
    (levels : Nat) → (path : String) → (words : List String) →
    Except SystemError Started
  | 0 => files.resolveBy none
  | levels + 1 => files.resolveBy (some (files.resolve levels))

/-- What is run for a path, with some words. -/
def started (files : FileTree) (path : String) (words : List String) :
    Except SystemError Started :=
  files.resolve scriptLimit path words

/-! ## Search paths -/

/-- The places in the directories of a search path where a program can be. -/
def candidates (search name : String) : List String :=
  (search.toList.splitOn ':').map fun directory =>
    String.ofList (if directory.isEmpty then
      name.toList else directory ++ '/' :: name.toList)

end FileTree

end ClusterConsole
