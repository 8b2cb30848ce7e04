import ClusterConsole.Invocation
import ClusterConsole.Shell.Run

/-!
# Launching a program

A command is launched in its directory, and the program is looked for from
there.  It has nothing to read, and what it prints is collected to its end.
-/

namespace ClusterConsole

/-- What a program left behind. -/
structure Launched where
  ending : Shell.Ending
  output : List UInt8
  errors : List UInt8
  files : FileTree

namespace Launched

def collected (launched : Launched) (options : RunOptions) : CommandOutput :=
  if options.capture then
    ⟨launched.ending.status, some (Text.ofBytes launched.output),
      some (Text.ofBytes launched.errors)⟩
  else ⟨launched.ending.status, none, none⟩

end Launched

namespace FileTree

/-! ## Processes -/

/-- The number of a program that is launched; that of the one that launches it
comes before. -/
def firstProcess : Nat := 1001

def launchVariables : List Shell.Binding :=
  [⟨"HOME", some "/root", true, false⟩,
    ⟨"PATH", some Shell.Lookup.standardPath, true, false⟩]

def launchStreams : Array Shell.Stream :=
  #[⟨.device, true, false⟩, ⟨.channel .empty none, false, true⟩,
    ⟨.channel .empty none, false, true⟩]

def launchProcess (working : Location) (name : String) : Shell.Process :=
  { number := firstProcess
    root := firstProcess
    parent := firstProcess - 1
    script := name
    arguments := []
    bindings := launchVariables
    functions := []
    aliases := []
    options := []
    status := 0
    substituted := 0
    line := 0
    builtin? := none
    loops := 0
    calls := 0
    frames := []
    traps := []
    raised := []
    savedStatus? := none
    optionPlace := ⟨1, []⟩
    working
    descriptors := [(0, 0), (1, 1), (2, 2)]
    jobs := []
    reaped := []
    hashed := []
    lastJob? := none
    mask := 0o22
    isTracing := false
    hasLostOutput := false
    documents := #[] }

def collectedIn (system : Shell.System) (index : Nat) : List UInt8 :=
  match (system.stream? index).map Shell.Stream.opened with
  | some (.channel contents _) => contents.toList
  | _ => []

def launchState (files : FileTree) (started : Started) : Shell.State :=
  { process := launchProcess files.working (started.words.headD "")
    system := ⟨files, launchStreams, firstProcess + 1, [], []⟩
    waiting := [] }

/-- Goes on as a program of the system, with which the process ends. -/
def carryOut (runner : Shell.Runner) (started : Started) :
    Shell.Action Unit := do
  match ← Shell.Run.enter runner started with
  | .exited code => Shell.Action.setStatus code
  | .killed signal => throw (.killed signal)

/-- Runs a program of the system to its end. -/
def run (files : FileTree) (started : Started) : Launched :=
  let runner := Shell.Run.runner Shell.Run.depth
  let state := files.launchState started
  let (result, state) :=
    (runner.process state.process (carryOut runner started)).run.run state
  let ending := match result with
    | .ok ending => ending
    | .error _ => .exited 2
  ⟨ending, collectedIn state.system 1, collectedIn state.system 2,
    { state.system.files with working := files.working }⟩

/-! ## Programs -/

/-- The directories that a program without a path is looked for in. -/
def launchSearch : String := Shell.Lookup.standardPath

/-- The program that is at one of some paths.  That one of them may not be run
is only an error if none of the others can. -/
def startedFirst (files : FileTree) (words : List String) :
    (otherwise : SystemError) →
    List String → Except SystemError Started
  | otherwise, [] => .error otherwise
  | otherwise, path :: rest =>
    match files.started path words with
    | .ok started => .ok started
    | .error cause =>
      if cause = .permissionDenied then files.startedFirst words cause rest
      else if cause = .notFound ∨ cause = .notADirectory then
        files.startedFirst words otherwise rest
      else .error cause

def startedBy (files : FileTree) (words : List String) :
    Except SystemError Started :=
  let name := words.headD ""
  if name = "" then .error .notFound
  else if Shell.Lookup.isPath name then files.started name words
  else if nameLimit < name.length then .error .nameTooLong
  else files.startedFirst words .notFound (candidates launchSearch name)

/-- The same tree, seen from a directory. -/
def enter (files : FileTree) (directory : Path) :
    Except SystemError FileTree := do
  let location ← files.locate directory
  match files.node? location with
  | none => .error .notFound
  | some .directory => .ok { files with working := location }
  | some _ => .error .notADirectory

def launch (files : FileTree) (invocation : Invocation) :
    Except SystemError Launched := do
  let texts := invocation.program :: invocation.arguments ++
    (invocation.directory?.map Path.text).toList
  if texts.any fun text => text.toList.contains '\x00' then
    .error .nulInArgument
  else
    let inside ←
      match invocation.directory? with
      | none => .ok files
      | some directory => files.enter directory
    let words := (invocation.program :: invocation.arguments).map Raw.ofText
    let started ← inside.startedBy words
    let launched := inside.run started
    .ok { launched with files :=
      { launched.files with working := files.working } }

end FileTree

end ClusterConsole
