import ClusterConsole.Shell.Builtin.Variable
import ClusterConsole.Shell.Choice
import ClusterConsole.Shell.Session
import ClusterConsole.Shell.Utility

/-!
# Starting programs

A program takes the place of the shell in a process.  A file that is no program
by itself is carried out by a shell if there is text in it.
-/

namespace ClusterConsole.Shell

namespace Run

/-- The words that a shell is run with for a file that is no program by
itself. -/
def shellPath : String := "/bin/sh"

/-- How much of a file is looked at to tell whether there is text in it. -/
def textWindow : Nat := 128

/-- Whether a byte is one that is in no text. -/
def isForeign (byte : UInt8) : Bool :=
  byte < 9 || (16 ≤ byte && byte < 32 && byte ≠ 27) || byte = 127

/-- Whether the first line of what a path leads to is text, so that a shell may
carry it out. -/
def holdsText (files : FileTree) (path : String) : Bool :=
  match files.lookup ⟨Raw.toText path⟩ with
  | .ok (.file contents _) =>
    !((contents.toList.take textWindow).takeWhile (· ≠ 10)).any isForeign
  | _ => false

def startedAt (files : FileTree) (path : String) (words : List String) :
    Except SystemError Started :=
  match files.started path words with
  | .error cause =>
    if cause = .notAProgram && holdsText files path then
      files.started shellPath (shellPath :: path :: words.drop 1)
    else .error cause
  | started => started

/-- The program that is at one of some paths, or why there is none. -/
def startedAmong (files : FileTree) (words : List String) :
    (otherwise : SystemError) →
    List String → Except SystemError Started
  | otherwise, [] => .error otherwise
  | otherwise, path :: rest =>
    match startedAt files path words with
    | .ok started => .ok started
    | .error cause =>
      startedAmong files words (if Action.isMissing cause then
        otherwise else cause) rest

/-- The status of a shell for a program that cannot be run. -/
def refusal (cause : SystemError) : Nat :=
  if Action.isMissing cause || cause = .nameTooLong ||
    cause = .tooManyLinks then 127 else 126

/-- The program that some words name, at one of some paths. -/
def started (paths words : List String) :
    Action (Except SystemError Started) := do
  let files ← Action.files
  match paths with
  | [path] => return startedAt files path words
  | paths => return startedAmong files words .notFound paths

/-- The paths that a program with a name may be at. -/
def pathsOf (search name : String) : List String :=
  if Lookup.isPath name then [name] else FileTree.candidates search name

/-- The variables and the words that the arguments of `env` are. -/
structure Environment where
  isEmpty : Bool
  removed : List String
  added : List (String × String)
  words : List String
deriving DecidableEq, Repr

/-- Reads the arguments of `env`, or tells what is wrong with them. -/
def Environment.ofArguments : (fuel : Nat) → Environment → List String →
    Except String Environment
  | 0, found, rest => .ok { found with words := rest }
  | _, found, [] => .ok found
  | fuel + 1, found, first :: rest =>
    if first = "-i" || first = "-" || first = "--ignore-environment" then
      ofArguments fuel { found with isEmpty := true } rest
    else if first = "-u" then
      match rest with
      | [] => .error "option requires an argument -- 'u'"
      | name :: rest =>
        ofArguments fuel { found with removed := name :: found.removed } rest
    else if first = "-S" then
      match rest with
      | [] => .error "option requires an argument -- 'S'"
      | text :: rest => ofArguments fuel found (words text ++ rest)
    else if first.startsWith "-S" then
      ofArguments fuel found (words (dropTwo first) ++ rest)
    else if first.startsWith "-u" then
      ofArguments fuel
        { found with removed := dropTwo first :: found.removed } rest
    else if first = "--" then .ok (assignments found rest)
    else
      match first.toList with
      | '-' :: letter :: _ =>
        .error ("invalid option -- '" ++ String.singleton letter ++ "'")
      | _ => .ok (assignments found (first :: rest))
where
  /-- A text without its first two characters. -/
  dropTwo (text : String) : String := String.ofList (text.toList.drop 2)
  /-- The words of a text. -/
  words (text : String) : List String :=
    ((text.toList.splitOnP Leading.isSpace).filter (!·.isEmpty)).map
      String.ofList
  /-- Takes the assignments that are in front of the words. -/
  assignments (found : Environment) : List String → Environment
    | [] => found
    | first :: rest =>
      match Argument.assignment first with
      | (name, some value) =>
        assignments { found with added := found.added ++ [(name, value)] } rest
      | (_, none) => { found with words := first :: rest }

/-- The variables of a process after the arguments of `env`. -/
def Environment.apply (found : Environment) (bindings : List Binding) :
    List Binding :=
  let kept := if found.isEmpty then [] else bindings
  let kept := kept.filter fun binding => binding.name ∉ found.removed
  found.added.foldl (fun bindings (name, value) =>
    if bindings.any fun binding => binding.name = name then
      bindings.map fun binding =>
        if binding.name = name then { binding with value? := some value }
        else binding
    else bindings ++ [⟨name, some value, true, false⟩]) kept

/-- Runs a program with other variables, or prints the variables. -/
def runEnvironment (runner : Runner) (program : String)
    (arguments : List String) :
    Action Ending := do
  match Environment.ofArguments (arguments.length + 1) ⟨false, [], [], []⟩
    arguments with
  | .error message =>
    let _ ← Utility.misused program message
    return .exited 125
  | .ok found =>
    Action.modifyProcess fun process =>
      { process with bindings := found.apply process.exported }
    match found.words with
    | [] =>
      (← Action.process).bindings.forM fun binding =>
        Action.printLine (binding.name ++ "=" ++ binding.value?.getD "")
      return .exited 0
    | name :: _ =>
      let search := ((← Action.process).lookup? "PATH").getD "/bin:/usr/bin"
      let paths := if name = "" then [] else pathsOf search name
      match ← started paths found.words with
      | .ok _ =>
        match ← runner.program paths found.words with
        | some ending => return ending
        | none => return .exited 126
      | .error cause =>
        Utility.complain program
          ("'" ++ name ++ "': " ++ Action.reason cause)
        return .exited (if Action.isMissing cause then 127 else 126)

def enterSession (session : Session) : Action Unit := do
  Action.modifyProcess session.enter
  Action.refuseControl

/-- Carries out a shell by what it is to do. -/
def runSession (runner : Runner) (arguments : List String) : Action Unit := do
  match Session.ofArguments (← Action.process).script arguments with
  | .error message => Action.fault message
  | .ok session =>
    session.listings.forM fun isOn => Builtin.listOptions isOn fun _ => true
    let readInput : Action Unit := do
      let bytes := ((← Action.contents 0).toOption).getD []
      Action.advance 0 bytes.length
      script runner true (Raw.ofBytes bytes)
    match session.origin with
    | .text text =>
      enterSession session
      script runner false text
      if session.goesOn then readInput
    | .input =>
      enterSession session
      readInput
    | .file name =>
      match ← Action.openPath name .read with
      | .error cause =>
        Action.fault ("cannot open " ++ name ++ ": " ++ Action.openReason cause)
      | .ok index =>
        enterSession session
        match (← get).system.contents index with
        | .ok bytes => script runner true (Raw.ofBytes bytes)
        | .error _ => return ()

/-- Goes on as a program of the system, to its end. -/
def enter (runner : Runner) (started : Started) : Action Ending := do
  let name := started.words.headD ""
  let arguments := started.words.drop 1
  match started.program with
  | "env" => runEnvironment runner name arguments
  | program =>
    if program = "sh" || program = "dash" then
      runner.process ((← Action.process).asShell name)
        (runSession runner arguments)
    else
      if program = "sleep" then beginAllJobs runner
      Action.modifyProcess fun process =>
        { process with hasLostOutput := false }
      let status ← Utility.run program name arguments
      if (← Action.process).hasLostOutput then
        Utility.complain name
          (if program = "cat" then "standard output: Bad file descriptor"
          else "write error: Bad file descriptor")
        return .exited 1
      else return .exited status

/-- Goes on as the program that some words name, if it can be run. -/
def program (runner : Runner) : Launcher := fun paths words => do
  match ← started paths words with
  | .ok started => return some (← enter runner started)
  | .error cause =>
    Action.complain (words.headD "" ++ ": " ++ Action.runReason cause)
    Action.setStatus (refusal cause)
    return none

/-- Makes way for a program, with which the process then ends. -/
def replace (runner : Runner) (paths words : List String) : Action Unit := do
  match ← runner.program paths words with
  | none => throw .ended
  | some (.killed signal) => throw (.killed signal)
  | some (.exited code) =>
    Action.modifyProcess fun process => { process with traps := [] }
    Action.setStatus code
    throw .ended

def hasTraps (process : Process) :
    Bool := process.traps.any fun entry => entry.2 ≠ ""

def external (runner : Runner) (isLast : Bool) (paths words : List String) :
    Action Unit := do
  if isLast && !hasTraps (← Action.process) then replace runner paths words
  else
    let child ← Action.begun
    let ending ← await runner child (replace runner paths words)
    Action.setStatus ending.status

end Run

end ClusterConsole.Shell
