import ClusterConsole.Shell.Builtin.Variable
import ClusterConsole.Shell.Lookup

/-!
# Commands of a shell for names

These commands tell what names stand for, and let names stand for other text.
-/

namespace ClusterConsole.Shell

namespace Builtin

def aliasTable : Nat := 39

def programTable : Nat := 31

/-- An alias as the command that makes it. -/
def aliasText (name text : String) : String := name ++ "=" ++ quotedText text

/-- Makes an alias, or tells one. -/
def aliasOne (argument : String) : Action Bool := do
  let aliases := (← Action.process).aliases
  let name := String.ofList
    (argument.toList.take 1 ++ (argument.toList.drop 1).takeWhile (· ≠ '='))
  match argument.toList.drop name.length with
  | [] =>
    match aliases.lookup name with
    | some text =>
      Action.printLine (aliasText name text)
      return true
    | none =>
      Action.tell ("alias: " ++ name ++ " not found\n")
      return false
  | _ :: text =>
    let text := String.ofList text
    Action.modifyProcess fun process =>
      { process with
        aliases :=
          if (aliases.lookup name).isSome then
            aliases.map fun entry => if entry.1 = name then
            (name, text) else entry
          else aliases ++ [(name, text)] }
    return true

/-- Makes aliases, or tells those that there are. -/
def setAliases : Builtin := fun arguments => do
  if arguments.isEmpty then
    let aliases := (← Action.process).aliases
    (Lookup.inTable aliasTable (aliases.map Prod.fst)).forM fun name =>
      Action.printLine (aliasText name ((aliases.lookup name).getD ""))
    return 0
  else
    let results ← arguments.mapM aliasOne
    return if results.all id then 0 else 1

def unalias : Builtin := fun arguments => do
  let (options, names) ← Action.demand (Argument.options ['a'] [] arguments)
  if !options.isEmpty then
    Action.modifyProcess fun process => { process with aliases := [] }
    return 0
  else
    let results ← names.mapM fun name => do
      if ((← Action.process).aliases.lookup name).isSome then
        Action.modifyProcess fun process =>
          { process with aliases :=
            process.aliases.filter fun entry => entry.1 ≠ name }
        return true
      else
        Action.tell ("unalias: " ++ name ++ " not found\n")
        return false
    return if results.all id then 0 else 1

def placeOf (name : String) : Action (Option String) := do
  match Lookup.firstProgram (← Action.files) .notFound
      (FileTree.candidates (← Lookup.searchPath) name) with
  | .ok path => return some path
  | .error _ => return none

/-- Looks for programs, or tells those that were found. -/
def hash : Builtin := fun arguments => do
  let (options, names) ← Action.demand (Argument.options ['r'] [] arguments)
  if !options.isEmpty then
    Action.modifyProcess fun process => { process with hashed := [] }
    return 0
  else if names.isEmpty then
    (Lookup.inTable programTable (← Action.process).hashed).forM fun name => do
      Action.printLine ((← placeOf name).getD name)
    return 0
  else
    let results ← names.mapM fun name => do
      match ← Lookup.command false none name with
      | .missing cause =>
        Action.complain (name ++ ": " ++ Action.runReason cause)
        return false
      | _ => return true
    return if results.all id then 0 else 1

/-- Tells what a name stands for, in a sentence or in a form that a shell
reads. -/
def describe (isSentence : Bool) (search? : Option String) (name : String) :
    Action Nat := do
  let process ← Action.process
  let answer (sentence brief : String) : Action Nat := do
    Action.printLine (if isSentence then name ++ sentence else brief)
    return 0
  if name ∈ Token.keywords then answer " is a shell keyword" name
  else
    match process.aliases.lookup name with
    | some text =>
      answer (" is an alias for " ++ text) ("alias " ++ aliasText name text)
    | none =>
      let isTracked := search?.isNone && name ∈ process.hashed
      match ← Lookup.command search?.isSome search? name with
      | .function _ => answer " is a shell function" name
      | .builtin =>
        answer (if isSpecial name then " is a special shell builtin"
            else " is a shell builtin")
          name
      | .program path =>
        if Lookup.isPath name &&
          !((← Action.files).lookup ⟨Raw.toText name⟩).isOk then
          missing name
        else
          answer ((if isTracked then " is a tracked alias for " else " is ") ++
            path) path
      | .missing _ => missing name
where
  /-- The answer where a name stands for nothing. -/
  missing (name : String) : Action Nat := do
    if isSentence then Action.printLine (name ++ ": not found")
    return 127

def type : Builtin := fun arguments => do
  let statuses ← arguments.mapM (describe true none)
  return statuses.foldl (· ||| ·) 0

/-- Tells what a name stands for, by the options of the command that looks it
up. -/
def command : Builtin := fun arguments => do
  let (options, names) ← Action.demand
    (Argument.options ['p', 'v', 'V'] [] arguments)
  let has (letter : Char) : Bool := options.any fun option => option.1 = letter
  match names with
  | name :: _ =>
    if has 'v' || has 'V' then
      describe (has 'V')
        (if has 'p' then some Lookup.standardPath else none) name
    else return 0
  | [] => return 0

end Builtin

end ClusterConsole.Shell
