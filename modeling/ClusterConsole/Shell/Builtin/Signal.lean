import ClusterConsole.Shell.Builtin.Variable

/-!
# Commands of a shell for signals and jobs

These commands send signals, say what is done about them, and tell the jobs of
the shell.
-/

namespace ClusterConsole.Shell

namespace Builtin

/-! ## Traps -/

def setTrap (signal : Nat) (action? : Option String) : Action Unit :=
  Action.modifyProcess fun process =>
    let others := process.traps.filter fun entry => entry.1 ≠ signal
    { process with
      traps := match action? with
        | some action => (signal, action) :: others
        | none => others }

/-- Says what is done about some signals, and tells whether there are all of
them. -/
def setTraps (action? : Option String) : List String → Action Bool
  | [] => return true
  | name :: rest => do
    match Signal.ofText? 0 name with
    | some signal =>
      setTrap signal action?
      setTraps action? rest
    | none =>
      Action.tell ("trap: " ++ name ++ ": bad trap\n")
      return false

/-- Says what is done about signals, or tells it. -/
def trap : Builtin := fun arguments => do
  let (_, words) ← Action.demand (Argument.options [] [] arguments)
  match words with
  | [] =>
    let process ← Action.process
    (List.range Signal.bound).forM fun signal =>
      match process.trap? signal with
      | some action =>
        Action.printLine ("trap -- " ++ quotedText action ++ " " ++
          Signal.nameOf signal)
      | none => return ()
    return 0
  | first :: rest =>
    let isSignal := !first.isEmpty && first.toList.all Char.isDigit &&
      (Signal.ofText? 0 first).isSome
    let isDone ←
      if rest.isEmpty || isSignal then setTraps none words
      else setTraps (if first = "-" then none else some first) rest
    return if isDone then 0 else 1

/-! ## Sending signals -/

def killUsage : String :=
  "Usage: kill [-s sigspec | -signum | -sigspec] [pid | job]... or\n" ++
    "kill -l [exitstatus]"

/-- What is to be done with signals. -/
inductive Sending where
  | list (statuses : List String)
  | send (signal : Nat) (processes : List String)
deriving DecidableEq, Repr

def sending (arguments : List String) : Except String Sending := do
  let direct? := match arguments.head?.map String.toList with
    | some ('-' :: name) => Signal.ofText? 1 (String.ofList name)
    | _ => none
  match direct? with
  | some signal => return .send signal (arguments.drop 1)
  | none =>
    let (options, words) ← Argument.options ['l'] ['s'] arguments
    let named? ← options.foldlM (fun (found : Option Nat) option =>
      if option.1 = 's' then
        match Signal.ofText? 1 option.2 with
        | some signal => .ok (some signal)
        | none => .error ("invalid signal number or name: " ++ option.2)
      else .ok found) none
    if options.any fun option => option.1 = 'l' then
      if named?.isSome && !words.isEmpty then .error killUsage
      else return .list words
    else return .send (named?.getD 15) words

def listSignals : List String → Action Nat
  | [] => do
    Action.printLine "0"
    Signal.names.forM Action.printLine
    return 0
  | text :: _ => do
    let number ← Action.count text
    let signal := if 128 < number then number - 128 else number
    if 0 < signal && signal < Signal.bound then
      Action.printLine (Signal.nameOf signal)
      return 0
    else Action.fault ("invalid signal number or exit status: " ++ text)

/-- The signals that a command in the background takes no notice of. -/
def keyboardSignals : List Nat := [2, 3]

/-- Sends a signal to a job that has not begun. -/
def signalJob (job : Job) (signal : Nat) : Action Unit := do
  let isIgnored := signal ∈ Signal.harmless || signal ∈ keyboardSignals ||
    job.process.trap? signal = some ""
  unless isIgnored do
    let number := job.process.number
    modify fun state =>
      { state with
        waiting :=
          state.waiting.filter fun other => other.process.number ≠ number
        system := { state.system with
          endings := (number, .killed signal) :: state.system.endings } }

/-- Sends a signal to a process, and tells whether there is one. -/
def signalProcess (number signal : Nat) : Action Bool := do
  let state ← get
  let process := state.process
  if number = process.number then
    Action.receive signal
    return true
  else
    match state.waiting.find? fun job => job.process.number = number with
    | some job =>
      signalJob job signal
      return true
    | none =>
      if number = process.root || number = process.parent then
        Action.modifySystem fun system =>
          { system with signals := system.signals ++ [(number, signal)] }
        return true
      else
        return (state.system.endings.lookup number).isSome &&
          number ∈ process.jobs &&
          number ∉ process.reaped

/-- The job that a text names among those of the shell. -/
def jobNamed? (text : String) : Action (Option Nat) := do
  let jobs := (← Action.process).jobs
  match text.toList with
  | ['%'] => return jobs.head?
  | ['%', '%'] => return jobs.head?
  | ['%', '+'] => return jobs.head?
  | ['%', '-'] => return jobs[1]?
  | '%' :: digits =>
    if !digits.isEmpty && digits.all Char.isDigit then
      let place := Leading.ofDigits 10 digits
      return if place = 0 then none else jobs.reverse[place - 1]?
    else return none
  | _ => return none

/-- Sends a signal to what a text names, and tells whether that was possible. -/
def signalNamed (signal : Nat) (text : String) : Action Bool := do
  let isThere ←
    match text.toList with
    | '%' :: _ => do
      if (← jobNamed? text).isNone then Action.fault ("No such job: " ++ text)
      pure false
    | '-' :: number => do
      let _ ← Action.count (String.ofList number)
      pure false
    | _ => do signalProcess (← Action.count text) signal
  unless isThere do Action.complain "No such process\n"
  return isThere

/-- Sends signals, or tells their names. -/
def kill : Builtin := fun arguments => do
  if arguments.isEmpty then Action.fault killUsage
  match ← Action.demand (sending arguments) with
  | .list statuses => listSignals statuses
  | .send signal processes =>
    if processes.isEmpty then Action.fault killUsage
    let results ← processes.mapM (signalNamed signal)
    return if results.all id then 0 else 1

/-! ## Jobs -/

def jobState (number : Nat) : Action String := do
  match (← get).system.endings.lookup number with
  | none => return "Running"
  | some (.exited 0) => return "Done"
  | some (.exited code) => return "Done(" ++ toString code ++ ")"
  | some (.killed signal) => return Signal.description signal

/-- Tells the jobs of the shell; those that have ended are then forgotten. -/
def jobs : Builtin := fun arguments => do
  let (_, names) ← Action.demand (Argument.options ['l', 'p'] [] arguments)
  names.forM fun name => do
    if (← jobNamed? name).isNone then Action.fault ("No such job: " ++ name)
  let numbered := (← Action.process).jobs.reverse.zipIdx 1
  numbered.reverse.forM fun (number, place) => do
    let current := (← Action.process).jobs
    let sign :=
      if current[0]? = some number then
        "+"
      else if current[1]? = some number then "-" else " "
    let state ← jobState number
    Action.printLine ("[" ++ toString place ++ "] " ++ sign ++ " " ++ state ++
      String.ofList (List.replicate (27 - state.length) ' '))
    if ((← get).system.endings.lookup number).isSome then
      Action.modifyProcess fun process =>
        { process with jobs := process.jobs.erase number }
  return 0

/-- Goes on with a job, which is not possible for any. -/
def resume : Builtin := fun arguments => do
  let process ← Action.process
  match arguments.head? with
  | none =>
    if process.jobs.isEmpty then Action.fault "No current job"
    else Action.fault "job (null) not created under job control"
  | some text =>
    if (← jobNamed? text).isNone then Action.fault ("No such job: " ++ text)
    else Action.fault ("job " ++ text ++ " not created under job control")

end Builtin

end ClusterConsole.Shell
