import ClusterConsole.Config.Basic
import ClusterConsole.Procedure.Basic

/-!
# Operations

An operation is a procedure that may stop at a failure.  Every command it runs
is one of the three configured tools, in the root of the project, and a step
that changes something is announced before its command and again once the
command has succeeded.
-/

namespace ClusterConsole

abbrev Operation := ExceptT Failure Procedure

namespace Config

/-- A command in the root of the project. -/
def command (config : Config) (tool : String) (arguments : List String) :
    Invocation :=
  ⟨tool, arguments, some config.root⟩

def clusterCommand (config : Config) (arguments : List String) : Invocation :=
  config.command config.tools.cluster arguments

def controlCommand (config : Config) (arguments : List String) : Invocation :=
  config.command config.tools.control arguments

def buildCommand (config : Config) (arguments : List String) : Invocation :=
  config.command config.tools.build arguments

end Config

/-- The output of a command, unless its exit code is not zero and has to be. -/
def Invocation.checked (invocation : Invocation) (options : RunOptions)
    (output : CommandOutput) : Except Failure CommandOutput :=
  if options.check && !output.isSuccess then
    .error (.commandFailed invocation.text output.exitCode output.stderr?)
  else .ok output

/-- What becomes of a command: it may not start, or end with an exit code that
counts as a failure. -/
def Invocation.result (invocation : Invocation) (options : RunOptions) :
    Except SystemError CommandOutput → Except Failure CommandOutput
  | .error cause => .error (.notStarted invocation.program cause)
  | .ok output => invocation.checked options output

namespace Operation

def request (request : Request) : Operation request.Reply :=
  ExceptT.lift (Procedure.request request)

/-- Goes on with a result, or stops at its failure. -/
def ofResult : Except Failure α → Operation α
  | .ok value => pure value
  | .error failure => throw failure

/-- Goes on with the reply to a file request, or stops at its error. -/
def ofSystem : Except SystemError α → Operation α
  | .ok value => pure value
  | .error cause => throw (.system cause)

/-- Goes on with an answer, or stops for want of one. -/
def ofAnswer : Except String α → Operation α
  | .ok answer => pure answer
  | .error reason => throw (.prompt reason)

/-- The procedure that ends with the result of an operation. -/
def toProcedure (operation : Operation α) : Procedure (Except Failure α) :=
  ExceptT.run operation

/-- The result of an operation, which is then no reason to stop. -/
def result (operation : Operation α) : Operation (Except Failure α) :=
  ExceptT.lift operation.toProcedure

def invoke (invocation : Invocation) (options : RunOptions) :
    Operation CommandOutput := do
  ofResult (invocation.result options (← request (.run invocation options)))

def announce (event : Event) : Operation Unit :=
  request (.announce event)

def degrade (outcome : Outcome) (warning : Warning) : Operation Outcome := do
  announce (.degraded warning)
  return outcome.warn warning

/-- Asks the operator for consent; without an answer there is none. -/
def consent (question : String) : Operation Bool := do
  ofAnswer (← request (.confirm question false))

/-- One announced step, which is a command that has to succeed. -/
def step (action : Action) (target : String) (invocation : Invocation) :
    Operation Unit := do
  announce (.started action target)
  let _ ← invoke invocation .checked
  announce (.finished action target)

end Operation

end ClusterConsole
