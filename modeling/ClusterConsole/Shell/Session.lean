import ClusterConsole.Shell.Lookup

/-!
# What a shell is to do

The arguments of a shell say where its commands come from: a text, what is read,
or a file.
-/

namespace ClusterConsole.Shell

/-- Where a shell takes its commands from. -/
inductive Origin where
  | text (text : String)
  | input
  | file (name : String)
deriving DecidableEq, Repr

/-- What a shell is to do. -/
structure Session where
  origin : Origin
  /-- The name that the script runs under. -/
  script : String
  arguments : List String
  /-- The letters of the options that are on. -/
  options : List Char
  /-- Commands are read after those of a text. -/
  goesOn : Bool
  /-- All options are listed first, each time as they can be turned on or
  off. -/
  listings : List Bool
deriving DecidableEq, Repr

namespace Session

/-- The options at the front of the arguments of a shell. -/
structure Front where
  letters : List Char
  /-- The first argument is a text with commands. -/
  hasText : Bool
  listings : List Bool
  rest : List String
deriving DecidableEq, Repr

def Front.set (front : Front) (isOn : Bool) (letter : Char) : Front :=
  let others := front.letters.filter (· ≠ letter)
  { front with letters := if isOn then letter :: others else others }

/-- Takes the options that the letters of one argument are. -/
def takeLetters (isOn : Bool) : List Char → Front → Except String Front
  | [], front => .ok front
  | letter :: letters, front =>
    if letter = 'c' then takeLetters isOn letters { front with hasText := true }
    else if letter = 'l' then takeLetters isOn letters front
    else if letter = 'o' then
      match front.rest with
      | [] =>
        takeLetters isOn letters { front with listings :=
          front.listings ++ [isOn] }
      | name :: rest =>
        match Process.optionNames.lookup name with
        | some letter =>
          takeLetters isOn letters ({ front with rest }.set isOn letter)
        | none => .error ("Illegal option -o " ++ name)
    else if Process.isOption letter then
      takeLetters isOn letters (front.set isOn letter)
    else .error ("Illegal option -" ++ String.singleton letter)

/-- Takes the options at the front of so many arguments. -/
def takeOptions : (fuel : Nat) → Front → Except String Front
  | 0, front => .ok front
  | fuel + 1, front =>
    match front.rest with
    | [] => .ok front
    | first :: rest =>
      match first.toList with
      | ['-'] => .ok { front with rest }
      | ['-', '-'] => .ok { front with rest }
      | '-' :: letters =>
        do takeOptions fuel (← takeLetters true letters { front with rest })
      | '+' :: letters =>
        do takeOptions fuel (← takeLetters false letters { front with rest })
      | _ => .ok front

/-- What a shell is to do by the name that it is run by and its arguments.  A
shell that listens to somebody controls jobs. -/
def ofArguments (name : String) (arguments : List String) :
    Except String Session := do
  let front ← takeOptions arguments.length ⟨[], false, [], arguments⟩
  let letters := front.letters
  let readsInput := letters.contains 's'
  let options :=
    if letters.contains 'i' then 'm' :: letters.filter (· ≠ 'm') else letters
  let session : Session :=
    ⟨.input, name, front.rest, options, false, front.listings⟩
  match front.hasText, front.rest with
  | true, [] => .error "-c requires an argument"
  | true, [text] =>
    return { session with origin := .text text, arguments := [], goesOn :=
      readsInput }
  | true, text :: script :: arguments =>
    return { session with origin := .text text, script, arguments, goesOn :=
      readsInput }
  | false, [] =>
    return { session with options := 's' :: options.filter (· ≠ 's') }
  | false, script :: arguments =>
    if readsInput then return session
    else return { session with origin := .file script, script, arguments }

/-- The process of a shell with what its arguments say. -/
def enter (session : Session) (process : Process) : Process :=
  { process with
    script := session.script
    arguments := session.arguments
    options := session.options }

end Session

namespace Process

/-- The variables that a shell begins with, apart from those that it is
given. -/
def standardBindings (parent : Nat) (working : Location) : List Binding :=
  [⟨"IFS", some (String.ofList standardSeparators), false, false⟩,
    ⟨"OPTIND", some "1", false, false⟩,
    ⟨"PATH", some Lookup.standardPath, false, false⟩,
    ⟨"PPID", some (toString parent), false, false⟩,
    ⟨"PS1", some "# ", false, false⟩, ⟨"PS2", some "> ", false, false⟩,
    ⟨"PS4", some "+ ", false, false⟩,
    ⟨"PWD", some (locationText working), true, false⟩]

/-- The variables that a shell never takes over from the program that runs
it. -/
def ownNames : List String := ["IFS", "OPTIND", "PPID", "PWD"]

/-- The process of a shell that a program becomes; it keeps its number, its
streams and the variables for programs. -/
def asShell (process : Process) (name : String) : Process :=
  let given := process.exported.filter fun binding =>
    binding.name ∉ ownNames && isName binding.name.toList
  let standard :=
    (standardBindings process.parent process.working).filter fun binding =>
    given.all fun other => other.name ≠ binding.name
  { process with
    root := process.number
    script := name
    arguments := []
    bindings := given ++ standard
    functions := []
    aliases := []
    options := []
    status := 0
    substituted := 0
    line := 0
    builtin? := none
    loops := 0
    calls := 0
    frames := []
    traps := []
    raised := []
    savedStatus? := none
    lastJob? := none
    optionPlace := ⟨1, []⟩
    jobs := []
    reaped := []
    hashed := []
    isTracing := false
    hasLostOutput := false
    documents := #[] }

end Process

end ClusterConsole.Shell
