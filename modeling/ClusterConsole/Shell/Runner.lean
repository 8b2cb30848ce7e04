import ClusterConsole.Shell.Grammar
import ClusterConsole.Shell.State

/-!
# Carrying out texts, to the ends of processes

What a command needs of the commands in it is given by a runner, so that the
depth to which commands nest is bounded in one place.  With a runner a text is
carried out line by line, traps are dealt with, and a process comes to its end.
-/

namespace ClusterConsole.Shell

/-- How a program is run in the process that it is started in: by the paths that
it may be at, and its words.  There is no ending if it cannot be run. -/
abbrev Launcher := List String → List String → Action (Option Ending)

/-- Carries out what commands are made of. -/
structure Runner where
  /-- Carries out a command.  Failures of one that is tested end no script; one
  that is the last of its process may make way for a program. -/
  command : (isTested isLast : Bool) → Command → Action Unit
  /-- Does something in another process, to the end of that process. -/
  process : Process → Action Unit → Action Ending
  program : Launcher

namespace Run

/-! ## Texts -/

/-- Prints the lines of a file that were read for a command, if that is asked
for. -/
def showLines (isShown : Bool) (before after : Source) : Action Unit := do
  if isShown && (← Action.process).has 'v' then
    Action.tell (String.ofList
        (before.rest.take (before.rest.length - after.rest.length)))

/-- Carries out the commands that are left of a source, and tells whether there
was one. -/
def lines (runner : Runner) (isTested isLast isShown : Bool) :
    (fuel : Nat) → (hasRun : Bool) → Source → Action Bool
  | 0, hasRun, _ => return hasRun
  | fuel + 1, hasRun, source => do
    let process ← Action.process
    let source :=
      { source with aliases := process.aliases, documents := process.documents }
    match Reader.line.run source with
    | .error fault =>
      showLines isShown source { source with rest := [] }
      Action.modifyProcess fun process => { process with line := fault.line }
      Action.fault fault.message
    | .ok (none, after) =>
      showLines isShown source after
      return hasRun
    | .ok (some (command, isEnd), after) =>
      showLines isShown source after
      Action.modifyProcess fun process =>
        { process with documents := after.documents }
      runner.command isTested (isLast && isEnd) command
      lines runner isTested isLast isShown fuel (hasRun ||
        !command.isNothing) after

/-- Carries out the commands of a text, and tells whether there was one. -/
def text (runner : Runner) (isTested : Bool) (text : String) : Action Bool :=
  lines runner isTested false false (text.length + 2) false
    (Source.ofText text [] #[])

/-- Carries out the commands of a text or a file as the script of a shell. -/
def script (runner : Runner) (isFile : Bool) (text : String) : Action Unit := do
  let _ ← lines runner false false isFile (text.length + 2) false
    (Source.ofText text [] #[])

/-! ## Signals -/

/-- Does what is to be done about some signals that came. -/
def runTraps (runner : Runner) (status : Nat) : List Nat → Action Unit
  | [] => return ()
  | signal :: rest => do
    match (← Action.process).trap? signal with
    | none => return ()
    | some action =>
      let result ← Action.caught (text runner false action)
      let postpone : Action Unit :=
        Action.modifyProcess fun process =>
          { process with raised := rest ++ process.raised }
      match result with
      | .ok _ => Action.setStatus status
      | .error (.leave levels isAgain) =>
        Action.setStatus status
        postpone
        throw (.leave levels isAgain)
      | .error (.returned isGiven) =>
        unless isGiven do Action.setStatus status
        postpone
        throw (.returned isGiven)
      | .error stop => throw stop
    runTraps runner status rest

/-- Takes the signals that are on their way, and does what is to be done about
them. -/
def settle (runner : Runner) : Action Unit := do
  Action.receiveAll
  let process ← Action.process
  unless process.raised.isEmpty do
    let status := process.savedStatus?.getD process.status
    Action.modifyProcess fun process =>
      { process with raised := [], savedStatus? := some status }
    let result ← Action.caught (runTraps runner status process.raised)
    match result with
    | .error .exit => throw .exit
    | result =>
      Action.modifyProcess fun other =>
        { other with savedStatus? := process.savedStatus? }
      match result with
      | .ok () => return ()
      | .error stop => throw stop

/-! ## Ends of processes -/

/-- How a process ends after what it had to do: a trap for the end of the script
is carried out before. -/
def finish (runner : Runner) (result : Except Stop Unit) : Action Ending := do
  match result with
  | .error (.killed signal) => return .killed signal
  | _ =>
    let process ← Action.process
    match process.trap? Process.endOfScript with
    | none => return .exited (process.status % 256)
    | some action =>
      let status := process.status
      Action.modifyProcess fun process =>
        { process with
          traps :=
            process.traps.filter fun entry => entry.1 ≠ Process.endOfScript
          savedStatus? := some status
          builtin? := none }
      match ← Action.caught (text runner false action) with
      | .error .exit => return .exited ((← Action.status) % 256)
      | .error .fault => return .exited ((← Action.status) % 256)
      | .error .ended => return .exited ((← Action.status) % 256)
      | .error (.killed signal) => return .killed signal
      | _ => return .exited (status % 256)

/-- Begins the jobs that a test holds of, one after the other, with a bound on
their number. -/
def beginJobs (runner : Runner) (test : Job → Bool) : (fuel : Nat) → Action Unit
  | 0 => return ()
  | fuel + 1 => do
    match (← get).waiting.find? test with
    | none => return ()
    | some job =>
      let number := job.process.number
      modify fun state =>
        { state with
          waiting :=
            state.waiting.filter fun other => other.process.number ≠ number }
      let ending ← runner.process job.process
        (runner.command false true job.command)
      Action.modifySystem fun system =>
        { system with endings := (number, ending) :: system.endings }
      beginJobs runner test fuel

def jobLimit : Nat := 10000

def beginOwnJobs (runner : Runner) : Action Unit := do
  let number := (← Action.process).number
  beginJobs runner (fun job => job.process.parent = number) jobLimit

def beginAllJobs (runner : Runner) : Action Unit :=
  beginJobs runner (fun _ => true) jobLimit

/-- Does something in another process, to the end of that process and of its
jobs. -/
def complete (runner : Runner) (process : Process) (action : Action Unit) :
    Action Ending := do
  let result ← Action.within process do
    let result ← Action.caught action
    let ending ← finish runner result
    beginOwnJobs runner
    return ending
  match result with
  | .ok ending => return ending
  | .error (.killed signal) => return .killed signal
  | .error _ => return .exited 2

/-- Knows the ends of all jobs that have ended. -/
def reap : Action Unit := do
  let endings := (← get).system.endings
  Action.modifyProcess fun process =>
    { process with reaped :=
      process.jobs.filter fun job => (endings.lookup job).isSome }

/-- Waits for a process that has done something, and tells how it ended. -/
def await (runner : Runner) (process : Process) (action : Action Unit) :
    Action Ending := do
  let ending ← runner.process process action
  reap
  Action.report ending
  return ending

end Run

end ClusterConsole.Shell
