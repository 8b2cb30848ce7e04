import ClusterConsole.Shell.Builtin.Name
import ClusterConsole.Shell.Builtin.Signal
import ClusterConsole.Shell.Start

/-!
# Simple commands

A simple command is a function, a command of the shell, or a program.  Some
commands of the shell carry out others, or end what is going on.
-/

namespace ClusterConsole.Shell

namespace Run

/-! ## Commands of the shell that carry out others -/

/-- Ends the script. -/
def exit : Builtin := fun arguments => do
  match arguments with
  | first :: _ => Action.setStatus (← Action.count first)
  | [] =>
    match (← Action.process).savedStatus? with
    | some status => Action.setStatus status
    | none => pure ()
  throw .exit

/-- Ends a function. -/
def «return» : Builtin := fun arguments => do
  match arguments with
  | first :: _ =>
    Action.setStatus (← Action.count first)
    throw (.returned true)
  | [] => throw (.returned false)

/-- Ends loops, or goes on with their next round; outside all loops it does
nothing. -/
def leave (isAgain : Bool) : Builtin := fun arguments => do
  let levels ←
    match arguments with
    | [] => pure 1
    | first :: _ => do
      let levels ← Action.count first
      if levels = 0 then Action.badNumber first
      pure levels
  let levels := min levels (← Action.process).loops
  if levels = 0 then return 0
  else
    Action.setStatus 0
    throw (.leave levels isAgain)

/-- Carries out the commands that the arguments make up. -/
def eval (runner : Runner) (isTested : Bool) : Builtin := fun arguments => do
  let hasRun ← text runner isTested (" ".intercalate arguments)
  if hasRun then Action.status else return 0

def sourcePath (name : String) : Action String := do
  if Lookup.isPath name then return name
  else
    let files ← Action.files
    let paths := FileTree.candidates (← Lookup.searchPath) name
    match paths.find? fun path => files.isFile ⟨Raw.toText path⟩ with
    | some path => return path
    | none => Action.fault (name ++ ": not found")

def source (runner : Runner) : Builtin := fun arguments => do
  let (_, words) ← Action.demand (Argument.options [] [] arguments)
  match words with
  | [] => return 0
  | name :: _ =>
    let path ← sourcePath name
    match ← Action.openPath path .read with
    | .error cause =>
      Action.fault ("cannot open " ++ path ++ ": " ++ Action.openReason cause)
    | .ok index =>
      let bytes := ((← get).system.contents index).toOption.getD []
      let contents := Raw.ofBytes bytes
      Action.modifyProcess fun process => { process with builtin? := some path }
      let result ← Action.caught
        (lines runner false false true (contents.length + 2) false
        (Source.ofText contents [] #[]))
      match result with
      | .ok hasRun => if hasRun then Action.status else return 0
      | .error (.returned _) => Action.status
      | .error stop => throw stop

/-- Makes way for a program; without arguments it does nothing by itself. -/
def exec (runner : Runner) : Builtin := fun arguments => do
  match arguments with
  | [] => return 0
  | name :: _ =>
    replace runner (pathsOf (← Lookup.searchPath) name) arguments
    return 0

def waitFor (runner : Runner) (text : String) : Action Nat := do
  let number? ←
    match text.toList with
    | '%' :: _ => do
      let number? ← Builtin.jobNamed? text
      if number?.isNone then Action.fault ("No such job: " ++ text)
      pure number?
    | _ => do
      let number ← Action.count text
      pure (if number ∈ (← Action.process).jobs then some number else none)
  match number? with
  | none => return 127
  | some number =>
    beginOwnJobs runner
    match (← get).system.endings.lookup number with
    | none => return 127
    | some ending =>
      unless number ∈ (← Action.process).reaped do
        Action.report ending
        Action.modifyProcess fun process =>
          { process with reaped := number :: process.reaped }
      return ending.status

def wait (runner : Runner) : Builtin := fun arguments => do
  let (_, words) ← Action.demand (Argument.options [] [] arguments)
  match words with
  | [] =>
    beginOwnJobs runner
    reap
    return 0
  | words =>
    let statuses ← words.mapM (waitFor runner)
    return statuses.getLast?.getD 0

def builtin (runner : Runner) (isTested : Bool) (name : String) : Builtin :=
  match name with
  | "." => source runner
  | "[" => Builtin.bracket
  | "alias" => Builtin.setAliases
  | "bg" => Builtin.resume
  | "break" => leave false
  | "cd" => Builtin.cd
  | "chdir" => Builtin.cd
  | "command" => Builtin.command
  | "continue" => leave true
  | "echo" => Builtin.echo
  | "eval" => eval runner isTested
  | "exec" => exec runner
  | "exit" => exit
  | "export" => Builtin.exportAll
  | "false" => fun _ => return 1
  | "fg" => Builtin.resume
  | "getopts" => Builtin.getopts
  | "hash" => Builtin.hash
  | "jobs" => Builtin.jobs
  | "kill" => Builtin.kill
  | "local" => Builtin.localize
  | "printf" => Builtin.printf
  | "pwd" => Builtin.pwd
  | "read" => Builtin.read
  | "readonly" => Builtin.readonly
  | "return" => «return»
  | "set" => Builtin.set
  | "shift" => Builtin.shift
  | "test" => Builtin.test
  | "times" => Builtin.times
  | "trap" => Builtin.trap
  | "type" => Builtin.type
  | "ulimit" => Builtin.ulimit
  | "umask" => Builtin.umask
  | "unalias" => Builtin.unalias
  | "unset" => Builtin.unset
  | "wait" => wait runner
  | _ => fun _ => return 0

def callBuiltin (runner : Runner) (isTested isSpecial : Bool) (name : String)
    (arguments : List String) : Action Unit := do
  let before ← Action.process
  Action.modifyProcess fun process =>
    { process with builtin? := some name, hasLostOutput := false }
  let result ← Action.caught do
    let status ← builtin runner isTested name arguments
    if (← Action.process).hasLostOutput then
      Action.complain (name ++ ": I/O error")
      Action.setStatus (status ||| 1)
    else Action.setStatus status
  Action.modifyProcess fun process =>
    { process with builtin? := before.builtin?, hasLostOutput := false }
  match result with
  | .ok () => return ()
  | .error .fault => if isSpecial then throw .fault
  | .error stop => throw stop

/-- How many functions can be carried out within one another. -/
def callLimit : Nat := 1000

def callFunction (runner : Runner) (isTested : Bool) (body : Command)
    (arguments : List String) : Action Unit := do
  let before ← Action.process
  if callLimit ≤ before.calls then
    Action.fault ("Maximum function recursion depth (" ++ toString callLimit ++
      ") reached")
  Action.modifyProcess fun process =>
    { process with
      arguments
      loops := 0
      calls := before.calls + 1
      optionPlace := ⟨1, []⟩ }
  let result ← Action.caught (runner.command isTested false body)
  Action.modifyProcess fun process =>
    { process with
      arguments := before.arguments
      loops := before.loops
      calls := before.calls
      optionPlace := before.optionPlace }
  match result with
  | .ok () => return ()
  | .error (.returned _) => return ()
  | .error stop => throw stop

/-! ## Simple commands -/

def streamsOf (redirections : List Redirection) : List Nat :=
  redirections.map fun redirection =>
    match redirection with
    | .lead stream _ => stream

/-- Gives variables their values in order.  Those of a command that is not
special are its own, and programs have them. -/
def assignAll (capture : Capture) (isOwn isExported : Bool) :
    List (List Char × Word) → Action (List String)
  | [] => return []
  | (name, word) :: rest => do
    let name := String.ofList name
    let value ← Words.text capture .value word
    if isOwn then Action.hide name
    Action.assign name value
    if isOwn || isExported then
      Action.modifyProcess fun process =>
        process.withBinding name fun binding =>
          { binding with isExported := true }
    return (name ++ "=" ++ value) :: (← assignAll capture isOwn isExported rest)

/-- Carries out a command by its words. -/
def call (runner : Runner) (isTested isLast : Bool) (chosen : Chosen) :
    Action Unit := do
  match chosen.fields with
  | [] => Action.setStatus (← Action.process).substituted
  | name :: arguments =>
    match ← Lookup.command chosen.skipsFunctions chosen.search? name with
    | .function body => callFunction runner isTested body arguments
    | .builtin =>
      callBuiltin runner isTested (chosen.isSpecial?.getD false) name arguments
    | .program path =>
      let search ← Lookup.searchPath
      let paths :=
        (pathsOf (chosen.search?.getD search) name).dropWhile (· ≠ path)
      external runner isLast paths chosen.fields
    | .missing cause =>
      Action.complain (name ++ ": " ++ Action.runReason cause)
      Action.setStatus 127

def simple (runner : Runner) (isTested isLast : Bool) (line : Nat)
    (assignments : List (List Char × Word)) (words : List Word)
    (redirections : List Redirection) : Action Unit := do
  Action.modifyProcess fun process => { process with line, substituted := 0 }
  let capture := capture runner
  let chosen ← chosen capture words
  let before ← Action.process
  let isSpecial := chosen.isSpecial?.getD false
  let isOwn := !isSpecial && !chosen.fields.isEmpty
  let isExec := chosen.isSpecial?.isSome && chosen.fields.head? = some "exec"
  if isOwn then Action.enterFrame
  let result ← Action.caught do
    let leads ← Words.leads capture redirections
    if ← Words.redirect leads then
      let assigned ← assignAll capture isOwn (isExec &&
        1 < chosen.fields.length) assignments
      trace capture before (assigned ++ chosen.front ++ chosen.fields)
      call runner isTested isLast chosen
    else
      Action.setStatus 2
      if isSpecial then throw .fault
  unless isExec do Words.restore before (streamsOf redirections)
  if isOwn then Action.leaveFrame
  match result with
  | .ok () => return ()
  | .error stop => throw stop

end Run

end ClusterConsole.Shell
