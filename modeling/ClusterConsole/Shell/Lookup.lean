import ClusterConsole.Program.Interpreter
import ClusterConsole.Shell.Grammar
import ClusterConsole.Shell.State

/-!
# What names stand for

As a command a name stands for a function, for a command of the shell, or for a
program that is looked for in the directories of a search path.  A program that
was found is remembered.
-/

namespace ClusterConsole.Shell

/-- The commands of a shell that are not special. -/
def regularNames : List String :=
  ["[", "alias", "bg", "cd", "chdir", "command", "echo", "false", "fg",
    "getopts", "hash", "jobs", "kill", "printf", "pwd", "read", "test", "true",
    "type", "ulimit", "umask", "unalias", "wait"]

/-- Whether a fault of a command of the shell ends the script. -/
def isSpecial (name : String) : Bool := name ∈ Reader.specialNames

/-- Whether a shell carries a command out by itself. -/
def isBuiltin (name : String) : Bool := isSpecial name || name ∈ regularNames

/-- Whether assignments among the arguments of a command of the shell are kept
whole. -/
def isDeclaring (name : String) :
    Bool := name ∈ ["alias", "export", "local", "readonly"]

/-- What a name stands for as a command. -/
inductive Found where
  | function (body : Command)
  | builtin
  /-- A program that a path leads to. -/
  | program (path : String)
  | missing (cause : SystemError)

namespace Lookup

/-- The first of some paths that leads to a program, or why none does. -/
def firstProgram (files : FileTree) : (otherwise : SystemError) → List String →
    Except SystemError String
  | otherwise, [] => .error otherwise
  | otherwise, path :: rest =>
    match files.lookup ⟨Raw.toText path⟩ with
    | .error cause =>
      firstProgram files (if Action.isMissing cause then
        otherwise else cause) rest
    | .ok (.file _ mode) =>
      if mode &&& 0o111 ≠ 0 then .ok path
      else firstProgram files .permissionDenied rest
    | .ok _ => firstProgram files .permissionDenied rest

def searchPath : Action String := do
  return ((← Action.process).lookup? "PATH").getD ""

/-- The search path on which all programs of the system are. -/
def standardPath :
    String := "/usr/local/sbin:/usr/local/bin:/usr/sbin:/usr/bin:/sbin:/bin"

/-- Whether a name is a path, so that it is not looked for. -/
def isPath (name : String) : Bool := name.toList.contains '/'

/-- The program that a name stands for, which is remembered if it was looked for
on the search path of the shell. -/
def program (search? : Option String) (name : String) : Action Found := do
  if isPath name then return .program name
  else
    let search ←
      match search? with
      | some search => pure search
      | none => searchPath
    match firstProgram (← Action.files) .notFound
      (FileTree.candidates search name) with
    | .ok path =>
      if search?.isNone then
        Action.modifyProcess fun process =>
          if name ∈ process.hashed then process
          else { process with hashed := process.hashed ++ [name] }
      return .program path
    | .error cause => return .missing cause

/-- What a name stands for as a command. -/
def command (skipsFunctions : Bool) (search? : Option String) (name : String) :
    Action Found := do
  let process ← Action.process
  match if skipsFunctions then none else process.functions.lookup name with
  | some body => return .function body
  | none => if isBuiltin name then return .builtin else program search? name

/-- Names in the order of the places that a table of some size has for them;
names with the same place are in the order in which they came. -/
def inTable (size : Nat) (names : List String) : List String :=
  (List.range size).flatMap fun place => names.filter fun name =>
    placeOf name % size = place
where
  /-- The number that tells the place of a name. -/
  placeOf (name : String) : Nat :=
    name.toList.foldl (fun sum char => sum + char.toNat)
      ((name.toList.head?.map Char.toNat).getD 0 * 16)

end Lookup

end ClusterConsole.Shell
