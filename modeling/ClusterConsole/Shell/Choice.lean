import ClusterConsole.Shell.Lookup
import ClusterConsole.Shell.Runner
import ClusterConsole.Shell.Words

/-!
# The command that words name

The first word of a command says how the others are expanded, and one word says
how the command after it is looked up.  A command that is traced is shown with
all its words.
-/

namespace ClusterConsole.Shell

namespace Run

/-- A text without the ends of lines that it ends with, and without characters
that cannot be in a word. -/
def trimmed (chars : List Char) : String :=
  String.ofList
    (((chars.filter (· ≠ '\x00')).reverse.dropWhile (· = '\n')).reverse)

/-- What a command prints that becomes part of a word. -/
def capture (runner : Runner) : Capture := fun command => do
  if command.isNothing then return ""
  else
    let index ← Action.openChannel none
    let child ← Action.begun
    let ending ← await runner (child.withDescriptor 1 (some index))
      (runner.command false true command)
    Action.modifyProcess fun process =>
      { process with substituted := ending.status }
    match (← get).system.contents index with
    | .ok bytes =>
      Action.modifySystem fun system => system.lead index .device
      return trimmed (bytes.map Raw.charOf)
    | .error _ => return ""

/-- The fields of the first word that stands for some, and the words after
it. -/
def fill (capture : Capture) : List Word → Action (List String × List Word)
  | [] => return ([], [])
  | word :: rest => do
    match ← Words.fields capture word with
    | [] => fill capture rest
    | fields => return (fields, rest)

/-- A command with its first words expanded. -/
structure Chosen where
  /-- What stands before the command, for those who follow what is done. -/
  front : List String
  fields : List String
  words : List Word
  skipsFunctions : Bool
  search? : Option String
  /-- Whether a fault of the command ends the script; this is open for one that
  is none of the shell's. -/
  isSpecial? : Option Bool
  isDeclaring : Bool

/-- What stands behind the word that has a command carried out as one of the
shell or of the system. -/
structure Commanded where
  passed : List String
  isStandard : Bool
  fields : List String
  words : List Word

/-- Takes the options of the word that has a command carried out; there is
nothing if the word is the command itself. -/
def commanded? (capture : Capture) :
    (fuel : Nat) → Commanded → Action (Option Commanded)
  | 0, _ => return none
  | fuel + 1, behind => do
    let (fields, words) ←
      if behind.fields.isEmpty then fill capture behind.words
      else pure (behind.fields, behind.words)
    match fields with
    | [] => return none
    | field :: others =>
      let passed := behind.passed ++ [field]
      match field.toList with
      | ['-', '-'] =>
        let (fields, words) ← if others.isEmpty then
          fill capture words else pure (others, words)
        return if fields.isEmpty then
          none else some ⟨passed, behind.isStandard, fields, words⟩
      | '-' :: letter :: letters =>
        if (letter :: letters).all (· = 'p') then
          commanded? capture fuel ⟨passed, true, others, words⟩
        else return none
      | _ => return some ⟨behind.passed, behind.isStandard, fields, words⟩

/-- Finds the command that the first words name. -/
def choose (capture : Capture) : (fuel : Nat) → Chosen → Action Chosen
  | 0, chosen => return chosen
  | fuel + 1, chosen => do
    match chosen.fields with
    | [] => return chosen
    | name :: others =>
      match ← Lookup.command chosen.skipsFunctions chosen.search? name with
      | .builtin =>
        let chosen :=
          { chosen with
            isSpecial? := chosen.isSpecial? <|> some (isSpecial name)
            isDeclaring := isDeclaring name }
        if name = "command" then
          match ← commanded? capture (chosen.words.length + others.length + 1)
              ⟨[], false, others, chosen.words⟩ with
          | none => return chosen
          | some behind =>
            choose capture fuel
              { chosen with
                front := chosen.front ++ name :: behind.passed
                fields := behind.fields
                words := behind.words
                skipsFunctions := true
                search? := if behind.isStandard then some Lookup.standardPath
                  else chosen.search? }
        else return chosen
      | _ => return chosen

/-- Finds the command that some words name, and expands all of them. -/
def chosen (capture : Capture) (words : List Word) : Action Chosen := do
  let (fields, rest) ← fill capture words
  let chosen ← choose capture (words.length + fields.length + 1)
    ⟨[], fields, rest, false, none, none, false⟩
  let more ← chosen.words.mapM
    (if chosen.isDeclaring then Words.declared capture
        else Words.fields capture)
  return { chosen with fields := chosen.fields ++ more.flatten, words := [] }

/-! ## Tracing -/

/-- What stands in front of a command that is traced. -/
def traceFront (capture : Capture) : Action String := do
  let text := ((← Action.process).lookup? "PS4").getD ""
  match Reader.quotedWord text with
  | .ok word => Words.text capture .single word
  | .error _ => return text

/-- Prints a command that is traced, to where messages went before it.  What
stands in front of it is shown as it is written if its value cannot be told. -/
def trace (capture : Capture) (before : Process) (texts : List String) :
    Action Unit := do
  let process ← Action.process
  if process.has 'x' && !process.isTracing then
    Action.modifyProcess fun process => { process with isTracing := true }
    let result ← Action.caught (traceFront capture)
    Action.modifyProcess fun process => { process with isTracing := false }
    let front ←
      match result with
      | .ok front => pure front
      | .error .fault => do
        Action.setStatus process.status
        pure ((process.lookup? "PS4").getD "")
      | .error stop => throw stop
    let own := process.descriptor? 2
    Action.point 2 (before.descriptor? 2)
    Action.tell (front ++ " ".intercalate texts ++ "\n")
    Action.point 2 own

end Run

end ClusterConsole.Shell
