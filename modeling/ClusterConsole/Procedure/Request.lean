import ClusterConsole.Event
import ClusterConsole.Files.Tree
import ClusterConsole.Invocation

/-!
# Requests

Whatever an operation needs from outside, it asks for with a request, and each
kind of request has its own kind of reply.  Nothing else connects an operation
with the tools, the operator, the files and the screen.
-/

namespace ClusterConsole

/-- What an operation asks of the file system. -/
inductive FileRequest where
  | readText (path : Path)
  | isFile (path : Path)
  | makeDirectories (path : Path)
  /-- Puts a new file with a text into a directory. -/
  | stage (directory : Path) (contents : String)
  /-- Gives a staged file its path. -/
  | promote (staged : Location) (target : Path)
  /-- Removes a staged file. -/
  | discard (staged : Location)
deriving DecidableEq

@[reducible] def FileRequest.Reply : FileRequest → Type
  | .readText _ => Except SystemError String
  | .isFile _ => Bool
  | .makeDirectories _ => Except SystemError Unit
  | .stage _ _ => Except SystemError Location
  | .promote _ _ => Except SystemError Unit
  | .discard _ => Unit

/-- What a display loop asks for. -/
inductive DisplayRequest where
  /-- From now on an interrupt ends only the loop. -/
  | begin
  /-- Whether there was an interrupt since the loop began. -/
  | isStopped
  | pause (nanoseconds : Nat)
  /-- From now on an interrupt ends the program again. -/
  | finish
deriving DecidableEq

@[reducible] def DisplayRequest.Reply : DisplayRequest → Type
  | .isStopped => Bool
  | _ => Unit

/-- Where a text is written. -/
inductive Channel where
  | output
  | errors
deriving DecidableEq, Repr

/-- What an operation asks of its surroundings. -/
inductive Request where
  /-- Runs a command to its end. -/
  | run (invocation : Invocation) (options : RunOptions)
  /-- Looks for a tool. -/
  | find (tool : String)
  /-- Asks the operator for consent, which may have been given in advance. -/
  | confirm (question : String) (preset : Bool)
  /-- Tells whoever listens. -/
  | announce (event : Event)
  /-- Gives the control plane time to take up a change. -/
  | settle (milliseconds : Nat)
  | file (request : FileRequest)
  | display (request : DisplayRequest)
  | write (channel : Channel) (text : String)
  /-- Asks for one of some items, by its place; if it is `optional`, none is an
  answer. -/
  | choose (question : String) (items : List String) (preset : Nat)
    (isOptional : Bool)
  /-- Asks a question that is not about consent. -/
  | inquire (question : String) (preset : Bool)
deriving DecidableEq

/-- What the surroundings reply.  A question that gets no answer has a reason
for it. -/
@[reducible] def Request.Reply : Request → Type
  | .run _ _ => Except SystemError CommandOutput
  | .find _ => Bool
  | .confirm _ _ => Except String Bool
  | .file request => request.Reply
  | .display request => request.Reply
  | .choose _ _ _ _ => Except String (Option Nat)
  | .inquire _ _ => Except String Bool
  | _ => Unit

end ClusterConsole
