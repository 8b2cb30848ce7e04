import ClusterConsole.Shell.Utility.Contents

/-!
# Programs of the system

These programs are no part of a shell: each one runs in a process of its own.
Their messages begin with the name that they are run by.
-/

namespace ClusterConsole.Shell

namespace Utility

def echo : Builtin := fun arguments => do
  let isOption (argument : String) : Bool :=
    match argument.toList with
    | '-' :: letter :: letters =>
      (letter :: letters).all ['n', 'e', 'E'].contains
    | _ => false
  let letters :=
    (arguments.takeWhile isOption).flatMap fun option => option.toList.drop 1
  let text := " ".intercalate (arguments.dropWhile isOption)
  let isEscaped := (letters.filter ['e', 'E'].contains).getLast? = some 'e'
  let (chars, isOver) :=
    if isEscaped then Format.ofText text else (text.toList, false)
  Action.print (String.ofList
    (if isOver || letters.contains 'n' then chars else chars ++ ['\n']))
  return 0

def pwd : Builtin := fun _ => do
  Action.printLine (locationText (← Action.process).working)
  return 0

def isSpan (text : String) : Bool :=
  match Binary64.leading? text.toList with
  | some (_, rest) =>
    !text.startsWith "-" &&
      (rest.isEmpty || rest ∈ [['s'], ['m'], ['h'], ['d']])
  | none => false

/-- Waits, which takes no time here. -/
def sleep (program : String) : Builtin := fun arguments =>
  reading program [] arguments fun _ spans => do
    if spans.isEmpty then misused program "missing operand"
    else
      match spans.find? (!isSpan ·) with
      | some text => misused program ("invalid time interval '" ++ text ++ "'")
      | none => return 0

/-- Tells whether a condition holds, and what is wrong with one that is not well
formed. -/
def test (program : String) : Builtin := fun arguments => do
  match Condition.holds (← Action.files) false arguments with
  | .ok holds => return if holds then 0 else 1
  | .error message =>
    complain program message
    return 2

def bracket (program : String) : Builtin := fun arguments => do
  if arguments.getLast? = some "]" then test program arguments.dropLast
  else
    complain program "missing ']'"
    return 2

/-- Prints texts by a format. -/
def printf (program : String) : Builtin := fun arguments => do
  match arguments with
  | [] => misused program "missing operand"
  | format :: arguments =>
    let progress := Format.apply format arguments
    Action.print (String.ofList progress.output.toList)
    progress.complaints.reverse.forM (complain program)
    return if progress.complaints.isEmpty &&
      progress.fault?.isNone then 0 else 1

/-- The programs by their names. -/
def run (name program : String) : Builtin :=
  match name with
  | "[" => bracket program
  | "cat" => cat program
  | "echo" => echo
  | "false" => fun _ => return 1
  | "printf" => printf program
  | "pwd" => pwd
  | "sleep" => sleep program
  | "test" => test program
  | _ => fun _ => return 0

end Utility

end ClusterConsole.Shell
