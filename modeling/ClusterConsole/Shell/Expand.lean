import ClusterConsole.Shell.Arithmetic
import ClusterConsole.Shell.Field
import ClusterConsole.Shell.State

/-!
# Values of words

When a command is carried out, each piece of its words gets its text.  Where
more than one text can stand, a word is then taken apart into fields, and a
field that is a pattern becomes the names of files that fit it.
-/

namespace ClusterConsole.Shell

/-- Carries out a command in a shell of its own, and gives what it prints. -/
abbrev Capture := Command → Action String

/-- Where a tilde can stand for a home directory. -/
inductive Tilde where
  | never
  /-- At the start of a word. -/
  | atStart
  /-- At the start of a word, and after each colon. -/
  | inValue
deriving DecidableEq, Repr

/-- What a word is expanded for. -/
structure Purpose where
  isQuoted : Bool
  /-- More than one text can stand there. -/
  splits : Bool
  /-- The word is part of a parameter, so that its own blanks take it apart. -/
  isInner : Bool
  tilde : Tilde
deriving DecidableEq, Repr

namespace Purpose

def fields : Purpose := ⟨false, true, false, .atStart⟩

def single : Purpose := ⟨false, false, false, .atStart⟩

def value : Purpose := ⟨false, false, false, .inValue⟩

/-- What is between quotes. -/
def quoted (purpose : Purpose) :
    Purpose := ⟨true, purpose.splits, false, .never⟩

def inner (purpose : Purpose) : Purpose :=
  { purpose with isInner := true, tilde :=
    if purpose.isQuoted then .never else .atStart }

/-- A word for which only its text counts. -/
def flat : Purpose := ⟨false, false, false, .atStart⟩

def later (purpose : Purpose) : Purpose :=
  if purpose.tilde = .atStart then { purpose with tilde := .never } else purpose

end Purpose

namespace Expand

/-! ## Homes -/

/-- The home directory that a name after a tilde stands for. -/
def home? (process : Process) (name : List Char) : Option String :=
  if name.isEmpty then process.lookup? "HOME"
  else if name = "root".toList then some "/root"
  else none

/-- Characters, and whether they are a home directory. -/
abbrev Run := List Char × Bool

/-- The home directory at the front of a text after a tilde, and what follows
it.  A name that goes on in another piece of the word is none. -/
def homeAt? (process : Process) (endsAtColon isLast : Bool)
    (chars : List Char) :
    Option (List Char × List Char) :=
  let name :=
    chars.takeWhile fun char => char ≠ '/' && !(endsAtColon && char = ':')
  let rest := chars.drop name.length
  if rest.isEmpty && !isLast then none
  else (home? process name).map fun home => (home.toList, rest)

/-- The characters of a piece, with homes in place of tildes at its start and
after colons. -/
def tildeRuns (process : Process) (endsAtColon isLast : Bool) :
    (fuel : Nat) → (canBegin : Bool) → List Char → List Run
  | 0, _, chars => [(chars, false)]
  | _, _, [] => []
  | fuel + 1, canBegin, char :: rest =>
    match if canBegin &&
      char = '~' then homeAt? process endsAtColon isLast rest else none with
    | some (home, rest) =>
      (home, true) :: tildeRuns process endsAtColon isLast fuel false rest
    | none => ([char], false) ::
        tildeRuns process endsAtColon isLast fuel (endsAtColon &&
          char = ':') rest

/-- The characters of a piece that may begin with a tilde. -/
def runs (process : Process) (purpose : Purpose) (isFirst isLast : Bool)
    (chars : List Char) :
    List Run :=
  if !chars.contains '~' || purpose.isQuoted || purpose.tilde = .never then
    [(chars, false)]
  else
    let endsAtColon := purpose.tilde = .inValue
    tildeRuns process endsAtColon isLast (chars.length + 1) isFirst chars

/-! ## Parameters -/

/-- What stands between arguments that are joined. -/
def between (process : Process) (purpose : Purpose) : List Glyph :=
  if !purpose.isQuoted && purpose.splits && process.separators?.isSome then
    [.gap]
  else if !purpose.isQuoted && purpose.splits then [.char ' ' false]
  else
    match process.separators? with
    | none => [.char ' ' purpose.isQuoted]
    | some separators => Glyph.ofChars (separators.take 1) purpose.isQuoted

/-- All arguments, with something between them. -/
def joined (process : Process) (isQuoted : Bool) (between : List Glyph) :
    List Glyph :=
  between.intercalate
    (process.arguments.map fun argument =>
      Glyph.ofChars argument.toList isQuoted)

def value? (process : Process) (purpose : Purpose) (name : List Char) :
    Option (List Glyph) :=
  let glyphs (text : String) : List Glyph :=
    Glyph.ofChars text.toList purpose.isQuoted
  match name with
  | ['$'] => some (glyphs (toString process.root))
  | ['?'] => some (glyphs (toString process.status))
  | ['#'] => some (glyphs (toString process.arguments.length))
  | ['!'] => process.lastJob?.map fun job => glyphs (toString job)
  | ['-'] => some (glyphs process.optionLetters)
  | ['@'] =>
    if purpose.isQuoted && purpose.splits then some (joined process true [.gap])
    else some (joined process purpose.isQuoted (between process purpose))
  | ['*'] => some (joined process purpose.isQuoted (between process purpose))
  | name =>
    if name.all Char.isDigit then
      let place := Leading.ofDigits 10 name
      (if place = 0 then some process.script
          else process.arguments[place - 1]?).map glyphs
    else (process.lookup? (String.ofList name)).map glyphs

/-- Whether a missing parameter is a fault where all variables have to be
set. -/
def isRequired (process : Process) : Bool := process.has 'u'

def segmentOf (process : Process) (purpose : Purpose) (name : List Char)
    (glyphs : List Glyph) :
    List Segment :=
  if !purpose.isQuoted then [⟨.atSeparators, glyphs⟩]
  else if name = ['@'] && !process.arguments.isEmpty then [⟨.atGaps, glyphs⟩]
  else [.fixed glyphs]

/-- The value that counts as being there. -/
def present? (countsEmpty : Bool) (value? : Option (List Glyph)) :
    Option (List Glyph) :=
  value?.filter fun glyphs => !countsEmpty || !glyphs.isEmpty

def lengthSegment (process : Process) (purpose : Purpose) (name : List Char)
    (length : Nat) :
    List Segment :=
  segmentOf process purpose name
    (Glyph.ofChars (toString length).toList purpose.isQuoted)

/-- The character that a gap counts as in a pattern. -/
def gapChar : Char := '\x00'

def charsOf (glyphs : List Glyph) : List Char :=
  glyphs.filterMap fun glyph =>
    match glyph with
    | .char char _ => some char
    | .gap => some gapChar
    | .quote => none

def glyphsOf (chars : List Char) (isQuoted : Bool) : List Glyph :=
  chars.map fun char => if char = gapChar then .gap else .char char isQuoted

/-- Ends the script for a parameter that is missing. -/
def missing (name : List Char) (message : String) : Action α :=
  Action.fault (String.ofList name ++ ": " ++ message)

/-- What is said about a parameter that is missing. -/
def notSet : String := "parameter not set"

/-! ## Expressions -/

/-- The value of a variable as a number. -/
def loadNumber (name : String) : Action Int := do
  match (← Action.process).lookup? name with
  | none => return 0
  | some text =>
    if text.toList.all Leading.isSpace then return 0
    else
      match Leading.whole? true text.toList with
      | some value => return value
      | none => Action.badNumber text

/-- Keeps a number as the value of a variable. -/
def storeNumber (name : String) (value : Int) : Action Unit :=
  Action.assign name (toString value)

def evaluate (text : String) : Action Int := do
  let faulty (message : String) : Action Int :=
    Action.fault ("arithmetic expression: " ++ message ++ ": \"" ++
      text ++ "\"")
  match Expression.ofText text.toList with
  | .ok expression => expression.value loadNumber storeNumber faulty
  | .error message => faulty message

/-! ## Pieces -/

mutual

def piece (capture : Capture) (purpose : Purpose) (isFirst isLast : Bool) :
    Piece → Action (List Segment)
  | .plain chars => do
    return (runs (← Action.process) purpose isFirst isLast chars).map
      fun (chars, isHome) =>
      if purpose.isQuoted || isHome then .fixed (Glyph.ofChars chars true)
      else
        ⟨if purpose.isInner then .atSeparators else .never,
          Glyph.ofChars chars false⟩
  | .literal chars =>
    return [.fixed (if chars.isEmpty then
        [.quote] else Glyph.ofChars chars true)]
  | .quoted [.parameter ['@'] .keep] => do
    let process ← Action.process
    let purpose := purpose.quoted
    return segmentOf process purpose ['@']
      ((value? process purpose ['@']).getD [])
  | .quoted inside => do
    let segments ← pieces capture purpose.quoted true inside
    return .fixed [.quote] :: segments ++ [.fixed [.quote]]
  | .parameter name change => changed capture purpose name change
  | .output command => do
    let text ← capture command
    let glyphs := Glyph.ofChars text.toList purpose.isQuoted
    return [⟨if purpose.isQuoted then .never else .atSeparators, glyphs⟩]
  | .number expression => do
    let text :=
      Segment.text (← pieces capture Purpose.single.quoted true expression)
    let glyphs :=
      Glyph.ofChars (toString (← evaluate text)).toList purpose.isQuoted
    return [⟨if purpose.isQuoted then .never else .atSeparators, glyphs⟩]

def pieces (capture : Capture) (purpose : Purpose) (isFirst : Bool) :
    List Piece → Action (List Segment)
  | [] => return []
  | first :: rest => do
    let segments ← piece capture purpose isFirst rest.isEmpty first
    return segments ++ (← pieces capture purpose.later false rest)

def changed (capture : Capture) (purpose : Purpose) (name : List Char) :
    Change → Action (List Segment)
  | .unknown => Action.fault "Bad substitution"
  | .keep => do
    let process ← Action.process
    match value? process purpose name with
    | some glyphs => return segmentOf process purpose name glyphs
    | none => if isRequired process then missing name notSet else return []
  | .length => do
    let process ← Action.process
    match value? process purpose name with
    | some glyphs => return lengthSegment process purpose name glyphs.length
    | none =>
      if isRequired process then missing name notSet
      else return lengthSegment process purpose name 0
  | .cut isAtStart isLongest pattern => do
    let process ← Action.process
    match value? process purpose name with
    | none => if isRequired process then missing name notSet else return []
    | some glyphs =>
      let marks := Segment.marks
        (← pieces capture ⟨false, false, false, .atStart⟩ true pattern)
      let kept :=
        (Pattern.ofMarked marks).cut isAtStart isLongest (charsOf glyphs)
      return segmentOf process purpose name (glyphsOf kept purpose.isQuoted)
  | .orElse countsEmpty keeps word => do
    let process ← Action.process
    match present? countsEmpty (value? process purpose name) with
    | some glyphs => return segmentOf process purpose name glyphs
    | none =>
      if keeps then
        let text := Segment.text (← pieces capture .flat true word)
        Action.assign (String.ofList name) text
        let process ← Action.process
        return segmentOf process purpose name
          ((value? process purpose name).getD [])
      else pieces capture purpose.inner true word
  | .ifThere countsEmpty word => do
    let process ← Action.process
    match present? countsEmpty (value? process purpose name) with
    | some _ => pieces capture purpose.inner true word
    | none => return [⟨if purpose.isQuoted then .never else .atSeparators, []⟩]
  | .demand countsEmpty word => do
    let process ← Action.process
    match present? countsEmpty (value? process purpose name) with
    | some glyphs => return segmentOf process purpose name glyphs
    | none =>
      let text := Segment.text (← pieces capture .flat true word)
      if word.isEmpty then
        missing name (if countsEmpty then notSet ++ " or null" else notSet)
      else missing name text

end

end Expand

end ClusterConsole.Shell
