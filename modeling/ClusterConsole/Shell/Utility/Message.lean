import ClusterConsole.Shell.Builtin.Output

/-!
# Messages of programs

The messages of a program begin with the name that it is run by, and show names
in quotes where these could be misread.
-/

namespace ClusterConsole.Shell

namespace Utility

/-- Whether a character makes a name one that is shown in quotes, wherever it
is. -/
def needsQuotes (char : Char) : Bool :=
  char.toNat < 0x20 || char.toNat = 0x7F ||
    char ∈ [' ', '!', '"', '$', '&', '\'', '(', ')', '*', ';', '<', '=', '>',
      '[', '\\', '^', '\x60', '|', '?']

/-- Whether a character makes a name one that is shown in quotes, if the name
begins with it. -/
def needsQuotesInFront (char : Char) : Bool := char = '#' || char = '~'

/-- A name as messages show it. -/
def shown (name : String) : String :=
  let chars := name.toList
  let isPlain := !chars.isEmpty && !chars.any needsQuotes &&
    !(chars.head?.any needsQuotesInFront) && chars ≠ ['\x7b'] &&
      chars ≠ ['\x7d']
  if isPlain then name
  else if chars.contains '\'' &&
    !chars.any fun char => char ∈ ['"', '$', '\\', '\x60', '!'] then
    "\"" ++ name ++ "\""
  else "'" ++ name ++ "'"

def complain (program message : String) : Action Unit :=
  Action.tell (program ++ ": " ++ message ++ "\n")

def suggestion (program : String) : String :=
  "Try '" ++ program ++ " --help' for more information.\n"

/-- Ends a program with a message about its arguments. -/
def misused (program message : String) : Action Nat := do
  complain program message
  Action.tell (suggestion program)
  return 1

/-- The letters of options and the names among arguments; names may stand in
front of options. -/
def read (letters : List Char) :
    List String → Except String (List Char × List String)
  | [] => .ok ([], [])
  | first :: rest =>
    match first.toList with
    | ['-', '-'] => .ok ([], rest)
    | '-' :: '-' :: _ => .error ("unrecognized option '" ++ first ++ "'")
    | '-' :: option :: options =>
      match (option :: options).find? (· ∉ letters) with
      | some letter =>
        .error ("invalid option -- '" ++ String.singleton letter ++ "'")
      | none => do
        let (others, names) ← read letters rest
        return (option :: options ++ others, names)
    | _ => do
      let (options, names) ← read letters rest
      return (options, first :: names)

/-- Does something with the options and the names among arguments, if they are
well formed. -/
def reading (program : String) (letters : List Char) (arguments : List String)
    (action : List Char → List String → Action Nat) : Action Nat :=
  match read letters arguments with
  | .ok (options, names) => action options names
  | .error message => misused program message

/-- Does something with each name, and gives the status of a program that
succeeds if all of it does. -/
def forAll (names : List String) (action : String → Action Bool) :
    Action Nat := do
  let results ← names.mapM action
  return if results.all id then 0 else 1

end Utility

end ClusterConsole.Shell
