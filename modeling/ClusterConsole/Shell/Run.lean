import ClusterConsole.Shell.Call

/-!
# Running commands

The commands of a script are carried out one after the other, until one ends the
script.  Commands may nest as deep as the fuel allows.
-/

namespace ClusterConsole.Shell

namespace Run

def setLine (line : Nat) : Action Unit :=
  Action.modifyProcess fun process => { process with line }

/-- Carries out a command with its streams led elsewhere. -/
def redirected (runner : Runner) (isTested : Bool) (line : Nat) (body : Command)
    (redirections : List Redirection) : Action Unit := do
  setLine line
  let leads ← Words.leads (capture runner) redirections
  let before ← Action.process
  let result ← Action.caught do
    if ← Words.redirect leads then runner.command isTested false body
    else
      Action.setStatus 2
      if !isTested && before.has 'e' then throw .ended
  Words.restore before (streamsOf redirections)
  match result with
  | .ok () => return ()
  | .error stop => throw stop

/-- Carries out a command in a process that ends with it. -/
def enclosed (runner : Runner) (isTested : Bool)
    (leads : List (Nat × Words.Lead)) (body : Command) : Action Unit := do
  if ← Words.redirect leads then runner.command isTested true body
  else
    Action.setStatus 2
    throw .fault

def apart (runner : Runner) (isTested isLast : Bool) (line : Nat)
    (body : Command) (redirections : List Redirection) : Action Unit := do
  setLine line
  let leads ← Words.leads (capture runner) redirections
  if isLast && !hasTraps (← Action.process) then
    enclosed runner isTested leads body
    throw .ended
  else
    let child ← Action.begun
    let ending ← await runner child (enclosed runner isTested leads body)
    Action.setStatus ending.status

/-- Begins a command beside all that follows.  It has nothing to read. -/
def background (command : Command) : Action Unit := do
  let child ← Action.begun
  let (index, system) := (← get).system.openStream ⟨.device, true, false⟩
  let job : Job := ⟨child.withDescriptor 0 (some index), command⟩
  modify fun state => { state with system, waiting := state.waiting ++ [job] }
  Action.modifyProcess fun process =>
    { process with
      jobs := child.number :: process.jobs
      lastJob? := some child.number }
  Action.setStatus 0

/-- How much commands may write before others read it: what a channel holds in
any case, more, and all that there is. -/
def rooms : List (Option Nat) := [some 65537, some 1048577, none]

/-- The first attempt that needs no more room, or the last one; the others leave
nothing behind. -/
def firstDone (attempt : Option Nat → Action (α × Bool)) :
    List (Option Nat) → Action α
  | [] => return (← attempt none).1
  | room? :: rest => do
    let before ← get
    let (result, isDone) ← attempt room?
    if isDone then return result
    else
      set before
      firstDone attempt rest

/-- Carries out commands side by side, the first of which reads from a stream if
there is one.  It gives the status of the last one, and tells whether the first
one was stopped because nobody read any more.  A command that writes into a
channel is done before another one reads from there; it has had room enough if
it came to its end, or if not all of what it wrote was wanted. -/
def pipe (runner : Runner) (isTested : Bool) :
    (input? : Option Nat) → List Command →
    Action (Nat × Bool)
  | _, [] => return (← Action.status, false)
  | input?, command :: rest => do
    let child ← Action.begun
    let child := match input? with
      | some index => child.withDescriptor 0 (some index)
      | none => child
    if rest.isEmpty then
      return ((← await runner child
            (runner.command isTested true command)).status, false)
    else
      firstDone (fun room? => do
        let index ← Action.openChannel room?
        let _ ← await runner (child.withDescriptor 1 (some index))
          (runner.command isTested true command)
        let isStopped := (← get).system.isFull index
        let (status, isNextStopped) ← pipe runner isTested (some index) rest
        let isWanting :=
          isStopped && !isNextStopped && (← get).system.isDrained index
        return ((status, isStopped), !isWanting)) rooms

def inLoop (action : Action α) : Action α := do
  let loops := (← Action.process).loops
  Action.modifyProcess fun process => { process with loops := loops + 1 }
  let result ← Action.caught action
  Action.modifyProcess fun process => { process with loops }
  match result with
  | .ok value => return value
  | .error stop => throw stop

/-- Carries out a part of a loop, and tells whether the loop goes on. -/
def round (action : Action Unit) : Action Bool := do
  match ← Action.caught action with
  | .ok () => return true
  | .error (.leave levels isAgain) =>
    if levels ≤ 1 then return isAgain else throw (.leave (levels - 1) isAgain)
  | .error stop => throw stop

def roundLimit : Nat := 10000000

/-- Carries out a loop; its status is that of its last round. -/
def loop (runner : Runner) (isUntil isTested : Bool) (test body : Command) :
    (rounds last : Nat) → Action Unit
  | 0, _ => throw (.killed Signal.kill)
  | rounds + 1, last => do
    let result ← Action.caught (runner.command true false test)
    match result with
    | .error (.leave levels isAgain) =>
      if 1 < levels then throw (.leave (levels - 1) isAgain)
      else if isAgain then loop runner isUntil isTested test body rounds last
      else Action.setStatus last
    | .error stop => throw stop
    | .ok () =>
      if ((← Action.status) == 0) == isUntil then Action.setStatus last
      else
        let goesOn ← round (runner.command isTested false body)
        let last ← Action.status
        if goesOn then loop runner isUntil isTested test body rounds last

/-- Carries out a command once for each item. -/
def each (runner : Runner) (isTested : Bool) (name : String) (body : Command) :
    List String → Action Unit
  | [] => return ()
  | item :: rest => do
    Action.assign name item
    if ← round (runner.command isTested false body) then
      each runner isTested name body rest

def anyFits (capture : Capture) (text : List Char) : List Word → Action Bool
  | [] => return false
  | word :: rest => do
    if (← Words.pattern capture word).fits text then return true
    else anyFits capture text rest

/-- The body of the first choice with a pattern that a text fits. -/
def firstFitting (capture : Capture) (text : List Char) :
    List (List Word × Command) → Action Command
  | [] => return .nothing
  | (patterns, body) :: rest => do
    if ← anyFits capture text patterns then return body
    else firstFitting capture text rest

/-- Whether a failure of a command is one that ends a script which stops at
failures. -/
def countsFailure : Command → Bool
  | .simple .. => true
  | .apart .. => true
  | .pipe _ => true
  | _ => false

/-- Carries out a command, but for signals. -/
def perform (runner : Runner) (isTested isLast : Bool) : Command → Action Unit
  | .nothing => return ()
  | .simple line assignments words redirections =>
    simple runner isTested isLast line assignments words redirections
  | .both first second => do
    runner.command isTested false first
    runner.command isTested isLast second
  | .onSuccess first second => do
    runner.command true false first
    if (← Action.status) = 0 then runner.command isTested isLast second
  | .onFailure first second => do
    runner.command true false first
    if (← Action.status) ≠ 0 then runner.command isTested isLast second
  | .negated command => do
    runner.command true false command
    Action.setStatus (if (← Action.status) = 0 then 1 else 0)
  | .pipe commands =>
    do Action.setStatus (← pipe runner isTested none commands).1
  | .background command => background command
  | .apart line body redirections =>
    apart runner isTested isLast line body redirections
  | .redirected line body redirections =>
    redirected runner isTested line body redirections
  | .branch test yes no => do
    runner.command true false test
    if (← Action.status) = 0 then runner.command isTested isLast yes
    else if no.isNothing then Action.setStatus 0
    else runner.command isTested isLast no
  | .loop isUntil test body =>
    inLoop (loop runner isUntil isTested test body roundLimit 0)
  | .each line name items body => do
    setLine line
    let items := (← items.mapM (Words.fields (capture runner))).flatten
    if items.isEmpty then Action.setStatus 0
    inLoop (each runner isTested (String.ofList name) body items)
  | .select line subject choices => do
    setLine line
    let subject ← Words.text (capture runner) .single subject
    let body ← firstFitting (capture runner) subject.toList choices
    if body.isNothing then Action.setStatus 0
    else runner.command isTested isLast body
  | .define name body => do
    Action.modifyProcess fun process =>
      let name := String.ofList name
      let others := process.functions.filter fun entry => entry.1 ≠ name
      { process with
        functions := (name, body) :: others
        hashed := process.hashed.filter (· ≠ name) }
    Action.setStatus 0

def command (runner : Runner) (isTested isLast : Bool) (command : Command) :
    Action Unit := do
  unless command.isNothing || (← Action.process).has 'n' do
    settle runner
    perform runner isTested isLast command
    let process ← Action.process
    if countsFailure command && !isTested && process.status ≠ 0 &&
      process.has 'e' then
      throw .ended
    settle runner

/-- A runner for commands that nest as deep as the fuel allows. -/
def runner : (fuel : Nat) → Runner
  | 0 =>
    ⟨fun _ _ _ => throw (.killed Signal.fault),
      fun _ _ => return .killed Signal.fault,
      fun _ _ => return some (.killed Signal.fault)⟩
  | fuel + 1 =>
    let inner := runner fuel
    ⟨command inner, complete inner, program inner⟩

def depth : Nat := 20000

end Run

end ClusterConsole.Shell
