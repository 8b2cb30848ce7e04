import ClusterConsole.Number.Leading
import ClusterConsole.Shell.Process
import ClusterConsole.Shell.Signal

/-!
# Acting in a shell

An action changes the shell that it is done in, and may stop what is going on
there: a round of a loop, a function, or the script.  The status of a command is
kept by its shell.
-/

namespace ClusterConsole.Shell

/-- A command that is to run beside others, and the process that it runs in. -/
structure Job where
  process : Process
  command : Command

/-- A process, what it shares with others, and the jobs that have not begun. -/
structure State where
  process : Process
  system : System
  waiting : List Job

/-- What an action can stop. -/
inductive Stop where
  /-- Some loops around the command end, or go on with their next round. -/
  | leave (levels : Nat) (isAgain : Bool)
  /-- A function ends, with a status that may be given. -/
  | returned (isGiven : Bool)
  /-- The script ends because it says so. -/
  | exit
  /-- The script ends because a command failed, or because it has nothing more
  to do. -/
  | ended
  /-- The script ends unless a command that is not special is at fault. -/
  | fault
  | killed (signal : Nat)
deriving DecidableEq, Repr

abbrev Action := ExceptT Stop (StateM State)

namespace Action

/-! ## The process -/

def process : Action Process := do return (← get).process

def modifyProcess (change : Process → Process) : Action Unit :=
  modify fun state => { state with process := change state.process }

def modifySystem (change : System → System) : Action Unit :=
  modify fun state => { state with system := change state.system }

/-- The status of the last command. -/
def status : Action Nat := do return (← process).status

def setStatus (status : Nat) : Action Unit :=
  modifyProcess fun process => { process with status }

/-- The file tree, seen from where the process is. -/
def files : Action FileTree := do
  let state ← get
  return { state.system.files with working := state.process.working }

/-- The result of an action, whatever it stops. -/
def caught (action : Action α) : Action (Except Stop α) := do
  let (result, state) := (action.run).run (← get)
  set state
  return result

/-! ## Streams -/

/-- Writes a raw text to the stream with a number, and tells whether that was
possible.  When there is no room left for what nobody reads, the process
ends. -/
def writeTo (number : Nat) (text : String) : Action Bool := do
  let state ← get
  match state.process.descriptor? number with
  | none => return text = ""
  | some index =>
    match state.system.write index (Raw.toBytes text) with
    | .ok system =>
      set { state with system }
      if system.isFull index then throw (.killed Signal.pipe)
      return true
    | .error _ => return text = ""

def print (text : String) : Action Unit := do
  unless ← writeTo 1 text do
    modifyProcess fun process => { process with hasLostOutput := true }

def printLine (text : String) : Action Unit := print (text ++ "\n")

def tell (text : String) : Action Unit := do
  let _ ← writeTo 2 text

/-- Tells a message with the place where it comes up. -/
def complain (message : String) : Action Unit := do
  let process ← process
  let command := match process.builtin? with
    | some name => name ++ ": "
    | none => ""
  tell (process.script ++ ": " ++ toString process.line ++ ": " ++ command ++
    message ++ "\n")

/-- Turns the control of jobs off again, as there is no terminal to control them
from. -/
def refuseControl : Action Unit := do
  if (← process).has 'm' then
    modifyProcess fun process => process.withOption 'm' false
    complain "can't access tty; job control turned off"

def fault (message : String) : Action α := do
  complain message
  setStatus 2
  throw .fault

/-- Stops with a message about an argument that is to be a number. -/
def badNumber (text : String) : Action α := fault ("Illegal number: " ++ text)

/-- The result of something that may have gone wrong with a message. -/
def demand : Except String α → Action α
  | .ok value => return value
  | .error message => fault message

def greatestCount : Int := Int.pow 2 31 - 1

def count (text : String) : Action Nat :=
  match Leading.whole? false text.toList with
  | some value =>
    if 0 ≤ value && value ≤ greatestCount then return value.toNat
    else badNumber text
  | none => badNumber text

/-- The text of an error without its number. -/
def reason (cause : SystemError) : String :=
  (cause.message.splitOn " (os error").headD ""

/-- Whether a path leads nowhere. -/
def isMissing (cause : SystemError) :
    Bool := cause = .notFound || cause = .notADirectory

def openReason (cause : SystemError) : String :=
  if isMissing cause then "No such file" else reason cause

def makeReason (cause : SystemError) : String :=
  if isMissing cause then "Directory nonexistent" else reason cause

def runReason (cause : SystemError) : String :=
  if isMissing cause then "not found" else reason cause

/-- The place of the stream that a path names as an open one. -/
def streamAt? (name : String) : Action (Option Nat) := do
  let process ← process
  match name with
  | "/dev/stdin" => return process.descriptor? 0
  | "/dev/stdout" => return process.descriptor? 1
  | "/dev/stderr" => return process.descriptor? 2
  | name =>
    if name.startsWith "/dev/fd/" then
      return ((name.drop "/dev/fd/".length).toNat?).bind process.descriptor?
    else return none

/-- Opens what a path leads to, and tells the place of the stream. -/
def openPath (name : String) (access : System.Access) :
    Action (Except SystemError Nat) := do
  match ← streamAt? name with
  | some index => return .ok index
  | none =>
    let state ← get
    match state.system.openPath state.process.working name access with
    | .ok (index, system) =>
      set { state with system }
      return .ok index
    | .error cause => return .error cause

def openText (text : String) : Action Nat := do
  let state ← get
  let contents : ByteArray := ⟨(Raw.toBytes text).toArray⟩
  let (index, system) :=
    state.system.openStream ⟨.channel contents none, true, false⟩
  set { state with system }
  return index

/-- Opens a channel, and tells where it is written and where it is read. -/
def openChannel (room? : Option Nat) : Action Nat := do
  let state ← get
  let (index, system) :=
    state.system.openStream ⟨.channel .empty room?, true, true⟩
  set { state with system }
  return index

/-- What can be read from the stream with a number. -/
def contents (number : Nat) : Action (Except SystemError (List UInt8)) := do
  let state ← get
  match state.process.descriptor? number with
  | none => return .error System.badStream
  | some index => return state.system.contents index

/-- How much is looked at first for the end of a line. -/
def lineWindow : Nat := 1024

/-- What can be read from the stream with a number for one line. -/
def lineContents (number : Nat) (isWhole : List UInt8 → Bool) :
    Action (List UInt8) := do
  let state ← get
  match state.process.descriptor? number with
  | none => return []
  | some index =>
    let bytes := (state.system.front index lineWindow).toOption.getD []
    if isWhole bytes then return bytes
    else return (state.system.contents index).toOption.getD []

/-- Takes so many bytes from the stream with a number. -/
def advance (number count : Nat) : Action Unit := do
  let state ← get
  match state.process.descriptor? number with
  | none => return ()
  | some index => set { state with system := state.system.advance index count }

/-- Leads the stream with a number to a place, or closes it. -/
def point (number : Nat) (index? : Option Nat) : Action Unit :=
  modifyProcess fun process => process.withDescriptor number index?

/-- The contents of the file that a path leads to, which are raw text. -/
def readFile (name : String) : Action (Except SystemError String) := do
  return ((← files).read ⟨Raw.toText name⟩).map fun contents =>
    Raw.ofBytes contents.toList

/-! ## Variables -/

/-- Gives a variable a value, which it has to take. -/
def assign (name value : String) : Action Unit := do
  let process ← process
  if !isName name.toList then fault (name ++ ": bad variable name")
  else if ((process.binding? name).map Binding.isFixed).getD false then
    fault (name ++ ": is read only")
  else modifyProcess fun process => process.assign name value

/-- Takes a variable away, which has to be possible. -/
def unassign (name : String) : Action Unit := do
  let process ← process
  if !isName name.toList then fault (name ++ ": bad variable name")
  else
    match process.binding? name with
    | none => return ()
    | some binding =>
      if binding.isFixed then fault (name ++ ": is read only")
      else modifyProcess fun process => process.withoutBinding name

/-- Keeps a variable as it is, to be restored when the function ends. -/
def hide (name : String) : Action Unit :=
  modifyProcess fun process =>
    match process.frames with
    | [] => process
    | frame :: outer =>
      if (frame.lookup name).isSome then process
      else
        { process with frames :=
          ((name, process.binding? name) :: frame) :: outer }

def enterFrame : Action Unit :=
  modifyProcess fun process => { process with frames := [] :: process.frames }

/-- Restores the variables that were kept last. -/
def leaveFrame : Action Unit :=
  modifyProcess fun process =>
    match process.frames with
    | [] => process
    | frame :: outer =>
      let process := { process with frames := outer }
      frame.foldl (fun process entry =>
        match entry.2 with
        | some binding => process.withBinding entry.1 fun _ => binding
        | none => process.withoutBinding entry.1) process

/-! ## Signals -/

/-- Takes a signal: it is ignored, kept for its trap, or ends the process. -/
def receive (signal : Nat) : Action Unit := do
  let process ← process
  match if signal = Signal.kill then none else process.trap? signal with
  | some "" => return ()
  | some _ =>
    modifyProcess fun process =>
      if signal ∈ process.raised then process
      else
        { process with raised := (signal :: process.raised).mergeSort (· ≤ ·) }
  | none =>
    if signal ∈ Signal.harmless then return () else throw (.killed signal)

/-- Takes all signals that are on their way to the process. -/
def receiveAll : Action Unit := do
  let state ← get
  let (signals, system) := state.system.takeSignals state.process.number
  set { state with system }
  signals.forM receive

/-- Tells how a process ended that was waited for, if there is something to
tell. -/
def report (ending : Ending) : Action Unit :=
  match ending with
  | .exited _ => return ()
  | .killed signal =>
    if signal ∈ Signal.quiet then return ()
    else tell (Signal.description signal ++ "\n")

/-! ## Other processes -/

/-- The process of a shell that begins for this one. -/
def begun : Action Process := do
  let state ← get
  let number := state.system.nextProcess
  modifySystem fun system => { system with nextProcess := number + 1 }
  return { state.process with
    number
    parent := state.process.number
    traps := state.process.inheritedTraps
    raised := []
    savedStatus? := none
    jobs := []
    reaped := [] }

/-- Does something in another process, and goes on in this one. -/
def within (other : Process) (action : Action α) : Action (Except Stop α) := do
  let own ← process
  modifyProcess fun _ => other
  let result ← caught action
  modifyProcess fun _ => own
  return result

end Action

end ClusterConsole.Shell
