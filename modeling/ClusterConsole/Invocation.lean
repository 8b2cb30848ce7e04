import ClusterConsole.Path
import ClusterConsole.Text.Blank

/-!
# Commands

A command is a program with an argument vector and a directory to run it in.  No
shell reads it, so an argument is passed on as it is.  The text shown for a
command puts quotes around those arguments that a reader would not see as one
word.
-/

namespace ClusterConsole

/-- A program, its arguments, and the directory that it runs in. -/
structure Invocation where
  program : String
  arguments : List String
  directory? : Option Path
deriving DecidableEq, Repr, Inhabited

namespace Invocation

def needsQuotes (argument : List Char) : Bool :=
  argument.isEmpty || argument.any Text.isBlank

def argumentText (argument : List Char) : List Char :=
  if needsQuotes argument then '\'' :: argument ++ ['\''] else argument

def line (invocation : Invocation) : List Char :=
  invocation.program.toList ++
    invocation.arguments.flatMap fun argument =>
      ' ' :: argumentText argument.toList

def text (invocation : Invocation) : String :=
  String.ofList invocation.line

/-- Whether `argument` is one of the arguments. -/
def hasArgument (invocation : Invocation) (argument : String) : Bool :=
  invocation.arguments.contains argument

/-- Whether the program and its first arguments are the given words. -/
def startsWith (invocation : Invocation) (words : List String) : Bool :=
  words.isPrefixOf (invocation.program :: invocation.arguments)

end Invocation

/-- What is done with the exit code and the output of a command. -/
structure RunOptions where
  /-- An exit code other than zero is a failure. -/
  check : Bool
  /-- The output is collected and not shown. -/
  capture : Bool
deriving DecidableEq, Repr

namespace RunOptions

/-- The output is shown, and the command has to succeed. -/
def checked : RunOptions := ⟨true, false⟩

/-- The output is collected, and the command has to succeed. -/
def captured : RunOptions := ⟨true, true⟩

/-- The output is collected, and the exit code is an answer. -/
def probe : RunOptions := ⟨false, true⟩

/-- The output is shown, and the exit code is an answer. -/
def unchecked : RunOptions := ⟨false, false⟩

end RunOptions

/-- How a command ended, and the output collected from it. -/
structure CommandOutput where
  exitCode : Int
  stdout? : Option String
  stderr? : Option String
deriving DecidableEq, Repr, Inhabited

namespace CommandOutput

def success : CommandOutput := ⟨0, none, none⟩

def isSuccess (output : CommandOutput) : Bool :=
  output.exitCode == 0

/-- The collected output, if there is any. -/
def stdout (output : CommandOutput) : String :=
  output.stdout?.getD ""

/-- What is left of an output that is not collected. -/
def uncollected (output : CommandOutput) : CommandOutput :=
  ⟨output.exitCode, none, none⟩

end CommandOutput

end ClusterConsole
