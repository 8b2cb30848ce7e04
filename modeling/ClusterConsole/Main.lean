import ClusterConsole.Console.Key
import ClusterConsole.Console.Run

/-!
# The program

The outermost layer replies to each request with the disk, the terminal and the
clock.  It decides nothing.  No process is started from here: a command is
replied that it did not start, so what needs the tools reports that, and the
rest of the console works.
-/

namespace ClusterConsole

namespace SystemError

def ofIO : IO.Error → SystemError
  | .noFileOrDirectory _ _ _ => .notFound
  | .alreadyExists _ _ _ => .alreadyExists
  | .permissionDenied _ code _ => .number code.toNat
  | .inappropriateType _ code _ => .number code.toNat
  | .resourceBusy code _ => .number code.toNat
  | cause => .other (toString cause)

end SystemError

namespace Outside

/-- The result of an action, or the error that it ended with. -/
def attempt (action : IO α) : IO (Except SystemError α) := do
  match ← action.toBaseIO with
  | .ok value => return .ok value
  | .error cause => return .error (.ofIO cause)

def locationPath (location : Location) : String :=
  "/".intercalate location

/-- The file that a text is staged in, in a directory. -/
def stagedFile (directory : Path) : Location :=
  [(directory.child ".secret.staged").text]

def serveFile : (request : FileRequest) → IO request.Reply
  | .readText path => attempt (IO.FS.readFile path.text)
  | .isFile path => do
    match ← (IO.FS.readBinFile path.text).toBaseIO with
    | .ok _ => return true
    | .error _ => return false
  | .makeDirectories path => attempt (IO.FS.createDirAll path.text)
  | .stage directory contents => attempt do
    let staged := stagedFile directory
    IO.FS.writeFile (locationPath staged) contents
    return staged
  | .promote staged target =>
    attempt (IO.FS.rename (locationPath staged) target.text)
  | .discard staged => do
    let _ ← (IO.FS.removeFile (locationPath staged)).toBaseIO

def serveDisplay : (request : DisplayRequest) → IO request.Reply
  | .begin => return ()
  | .isStopped => return false
  | .pause nanoseconds => IO.sleep (nanoseconds / 1000000).toUInt32
  | .finish => return ()

/-- Asks a question and reads the line that answers it. -/
def ask (question : String) : IO (Except String String) := do
  let errors ← IO.getStderr
  errors.putStr question
  errors.flush
  let line ← (← IO.getStdin).getLine
  if line.isEmpty then return .error Key.noTerminal
  else return .ok (Text.trim line)

/-- Asks a question to be answered with yes or no. -/
def askYesNo (question : String) (preset : Bool) : IO (Except String Bool) := do
  match ← ask (question ++ if preset then " [Y/n] " else " [y/N] ") with
  | .error reason => return .error reason
  | .ok line =>
    return (Key.answer preset (line.toList.map .letter ++ [.enter])).1

/-- Asks for one of some items by its number. -/
def askItem (question : String) (items : List String) (preset : Nat) :
    IO (Except String (Option Nat)) := do
  let errors ← IO.getStderr
  for entry in items.zipIdx do
    errors.putStrLn ("  " ++ toString (entry.2 + 1) ++ ") " ++ entry.1)
  match ← ask (question ++ " ") with
  | .error reason => return .error reason
  | .ok line =>
    if line = "" then return .ok (some preset)
    else return .ok (line.toNat?.map (· - 1))

def serve : (request : Request) → IO request.Reply
  | .run _ _ => return .error .notFound
  | .find _ => return false
  | .confirm question preset => askYesNo question preset
  | .announce _ => return ()
  | .settle milliseconds => IO.sleep milliseconds.toUInt32
  | .file request => serveFile request
  | .display request => serveDisplay request
  | .write .output text => do
    let output ← IO.getStdout
    output.putStr text
    output.flush
  | .write .errors text => do
    let errors ← IO.getStderr
    errors.putStr text
  | .choose question items preset _ => askItem question items preset
  | .inquire question preset => askYesNo question preset

def carryOut : Procedure α → IO α
  | .done value => return value
  | .ask request resume => do
    let reply ← serve request
    carryOut (resume reply)

/-- What is told about an ending that was not told before. -/
def farewell : Ending → Option String
  | .usage .help => some "kindops [options] [command]"
  | .usage .version => some ("kindops " ++ Console.version)
  | .usage _ => some "the command line is not understood"
  | .misconfigured diagnostic => diagnostic.message?
  | .finished _ => none

end Outside

/-- The frames of a display loop, and the rounds of the menu, at most. -/
def Outside.horizon : Nat := 1000000

end ClusterConsole

open ClusterConsole in
/-- Runs the console on the words of the command line. -/
def main (words : List String) : IO UInt32 := do
  let ending ← Outside.carryOut (runConsole Outside.horizon words)
  match Outside.farewell ending with
  | some text => IO.eprintln text
  | none => pure ()
  return ending.exitCode.toUInt32
