import ClusterConsole.Shell.Expand

/-!
# Texts and names for words

A word of a command stands for any number of texts, some of which are names of
files; a value or a target is one text.  Redirections lead streams to what their
targets name.
-/

namespace ClusterConsole.Shell

namespace Words

/-! ## Names that fit -/

/-- The names right below a directory. -/
def namesIn (files : FileTree) (directory : String) : List String :=
  match files.locate
    ⟨Raw.toText (if directory = "" then "." else directory)⟩ with
  | .ok location =>
    if (files.node? location).any Node.isDirectory then
      ["", "."].map ("." ++ ·) ++ (files.below location).filterMap fun entry =>
        match entry.1 with
        | [name] => some (Raw.ofText name)
        | _ => none
    else []
  | .error _ => []

/-- Whether a name fits a pattern; one that begins with a dot only fits if the
pattern does so too. -/
def fits (pattern : Pattern) (name : String) : Bool :=
  let wantsHidden := pattern.head? = some (.exactly '.')
  pattern.fits name.toList && (wantsHidden || !name.startsWith ".")

/-- The paths that fit patterns for each of their steps, below a path that is
there. -/
def paths (files : FileTree) (base : String) : List Pattern → List String
  | [] => []
  | [last] =>
    if last.isOpen then
      ((namesIn files base).filter (fits last)).map (base ++ ·)
    else
      let path := base ++ String.ofList last.text
      if (files.lookup ⟨Raw.toText path⟩).isOk then [path] else []
  | step :: rest =>
    if step.isOpen then
      ((namesIn files base).filter (fits step)).flatMap fun name =>
        paths files (base ++ name ++ "/") rest
    else paths files (base ++ String.ofList step.text ++ "/") rest

/-- The steps of a path, taken apart at slashes. -/
def steps (marks : List Marked) : List (List Marked) :=
  marks.splitOnP fun mark => mark.1 = '/'

def isPatternSign (char : Char) : Bool := char ∈ ['*', '?', '[']

/-- The paths that a field stands for if it is a pattern; otherwise it stands
for itself, as it does if no path fits. -/
def named (files : FileTree) (marks : List Marked) : List String :=
  if marks.any fun mark => isPatternSign mark.1 && !mark.2 then
    let patterns := (steps marks).map Pattern.ofMarked
    let found :=
      if patterns.any Pattern.isOpen then paths files "" patterns else []
    if found.isEmpty then [Segment.unmarked marks] else found.mergeSort (· ≤ ·)
  else [Segment.unmarked marks]

/-! ## Texts -/

def fields (capture : Capture) (word : Word) : Action (List String) := do
  let segments ← Expand.pieces capture .fields true word
  let process ← Action.process
  let fields := Fields.ofSegments process.separators segments
  if process.has 'f' then return fields.map Segment.unmarked
  else
    let files ← Action.files
    return fields.flatMap (named files)

def text (capture : Capture) (purpose : Purpose) (word : Word) :
    Action String := do
  return Segment.text (← Expand.pieces capture purpose true word)

def pattern (capture : Capture) (word : Word) : Action Pattern := do
  return Pattern.ofMarked
    (Segment.marks (← Expand.pieces capture .single true word))

/-- The name that a word assigns to, and the word for its value. -/
def assignment? : Word → Option (String × Word)
  | .plain chars :: rest =>
    let name := chars.takeWhile (· ≠ '=')
    match chars.drop name.length with
    | [] => none
    | _ :: value =>
      if isName name then
        some (String.ofList name,
          if value.isEmpty then rest else .plain value :: rest)
      else none
  | _ => none

/-- The texts that a word stands for among the arguments of a command for
variables: an assignment is one text. -/
def declared (capture : Capture) (word : Word) : Action (List String) := do
  match assignment? word with
  | some (name, value) => return [name ++ "=" ++ (← text capture .value value)]
  | none => fields capture word

/-! ## Redirections -/

/-- Opens what a target names, or tells why not. -/
def opened (name : String) (access : System.Access) :
    Action (Except String (Option Nat)) := do
  match ← Action.openPath name access with
  | .ok index => return .ok (some index)
  | .error cause =>
    if access.makes then
      return .error ("cannot create " ++ name ++ ": " ++
        Action.makeReason cause)
    else
      return .error ("cannot open " ++ name ++ ": " ++ Action.openReason cause)

/-- The place of the stream that another one is led to, or why there is none. -/
def likeStream (number? : Option Nat) :
    Action (Except String (Option Nat)) := do
  match number? with
  | none => return .ok none
  | some number =>
    match (← Action.process).descriptor? number with
    | some index => return .ok (some index)
    | none =>
      return .error (toString number ++ ": " ++ Action.reason System.badStream)

/-- Whether a path leads to a file with contents that are to be kept. -/
def isKept (name : String) : Action Bool := do
  return (← Action.process).has 'C' && (← Action.files).isFile ⟨Raw.toText name⟩

/-- What a target leads to. -/
inductive Lead where
  | path (name : String) (access : System.Access) (isForced : Bool)
  | stream (number? : Option Nat)
  | text (text : String)
deriving DecidableEq, Repr

/-- What a target leads to, with its words expanded. -/
def lead (capture : Capture) : Target → Action Lead
  | .read name => do return .path (← text capture .single name) .read true
  | .readWrite name =>
    do return .path (← text capture .single name) .readWrite true
  | .write isForced name =>
    do return .path (← text capture .single name) .write isForced
  | .append name => do return .path (← text capture .single name) .append true
  | .stream number? => return .stream number?
  | .streamNamed name => do
    match (← text capture .single name).toList with
    | ['-'] => return .stream none
    | [digit] =>
      if digit.isDigit then return .stream (some (digit.toNat - '0'.toNat))
      else Action.fault "Syntax error: Bad fd number"
    | _ => Action.fault "Syntax error: Bad fd number"
  | .document index => do
    let word := (← Action.process).documents[index]?.getD []
    return .text (← text capture .single word)

/-- Opens what a target leads to, or tells why not. -/
def follow : Lead → Action (Except String (Option Nat))
  | .path name access isForced => do
    if !isForced && (← isKept name) then
      return .error ("cannot create " ++ name ++ ": " ++
        Action.reason .alreadyExists)
    else opened name access
  | .stream number? => likeStream number?
  | .text text => return .ok (some (← Action.openText text))

/-- The streams that redirections lead, and where to. -/
def leads (capture : Capture) : List Redirection → Action (List (Nat × Lead))
  | [] => return []
  | .lead number target :: rest => do
    let first ← lead capture target
    return (number, first) :: (← leads capture rest)

/-- Leads streams, and tells whether that was possible.  Streams led before one
that cannot be stay so. -/
def redirect : List (Nat × Lead) → Action Bool
  | [] => return true
  | (number, lead) :: rest => do
    match ← follow lead with
    | .ok index? =>
      Action.point number index?
      redirect rest
    | .error message =>
      Action.complain message
      return false

/-- Leads streams back to where they led in a process before. -/
def restore (before : Process) (numbers : List Nat) : Action Unit :=
  Action.modifyProcess fun process =>
    numbers.foldl (fun process number =>
      process.withDescriptor number (before.descriptor? number)) process

end Words

end ClusterConsole.Shell
