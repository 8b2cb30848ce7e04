import ClusterConsole.Shell.Source

/-!
# Reading words

What a character means in a word depends on what the word is in at that place:
nothing, braces, quotes, a document or an expression.  Each of them ends in its
own way.
-/

namespace ClusterConsole.Shell

/-- Reads a command inside a word, up to its closing bracket, or all of a
text. -/
abbrev Nested := (isEnclosed : Bool) → Reader Command

/-- What a piece of a word is in. -/
inductive Surround where
  | nothing
  /-- The braces of a parameter. -/
  | braces
  /-- Double quotes, which may be in braces. -/
  | quotes (isInBraces : Bool)
  /-- The braces of a parameter that itself is quoted. -/
  | quotedBraces
  /-- A document up to its closing line. -/
  | document (isAtStart : Bool) (closing : List Char) (stripsTabs : Bool)
  /-- An expression, in so many brackets. -/
  | expression (depth : Nat)
deriving DecidableEq, Repr

namespace Surround

/-- Whether a character ends a word that is in nothing. -/
def endsWord (char : Char) : Bool :=
  char ∈ [' ', '\t', '\n', ';', '&', '|', '<', '>', '(', ')']

/-- The characters that need a look at, apart from the ends of aliases. -/
def marks : Surround → List Char
  | nothing => ['\\', '\'', '"', '$', '\x60']
  | braces => ['\\', '\'', '"', '$', '\x60', '\x7d']
  | quotes _ => ['\\', '"', '$', '\x60']
  | quotedBraces => ['\\', '"', '$', '\x60', '\x7d']
  | document _ _ _ => ['\\', '$', '\x60', '\n']
  | expression _ => ['\\', '$', '\x60', '(', ')']

/-- Whether a character only stands for itself. -/
def isOrdinary (surround : Surround) (char : Char) : Bool :=
  !Source.isAliasEnd char && char ∉ surround.marks &&
    !(surround = nothing && endsWord char)

def isQuoted : Surround → Bool
  | nothing => false
  | braces => false
  | _ => true

def isInBraces : Surround → Bool
  | braces => true
  | quotes isInBraces => isInBraces
  | quotedBraces => true
  | _ => false

/-- Whether the lines of a document are right there. -/
def isDocument : Surround → Bool
  | document _ _ _ => true
  | _ => false

/-- Whether a backslash takes the meaning of a character away. -/
def escapes (surround : Surround) (char : Char) : Bool :=
  !surround.isQuoted || char = '\\' || char = '\x60' || char = '$' ||
    (char = '"' && !surround.isDocument) ||
      (char = '\x7d' && surround.isInBraces)

def bracesIn (surround : Surround) : Surround :=
  if surround.isQuoted then quotedBraces else braces

/-- What is missing when a text ends there, if anything is. -/
def missing? : Surround → Option String
  | nothing => none
  | braces => some "Missing '\x7d'"
  | quotes _ => some "Unterminated quoted string"
  | quotedBraces => some "Unterminated quoted string"
  | document _ _ _ => none
  | expression _ => some "Missing '))'"

end Surround

namespace Word

/-- A word with a piece in front. -/
def add (piece : Piece) (word : Word) : Word :=
  match piece, word with
  | .plain chars, .plain more :: rest => .plain (chars ++ more) :: rest
  | piece, word => piece :: word

end Word

namespace Reader

/-! ## Parameters -/

/-- Whether a parameter without a name has a character for its sign. -/
def isParameterSign (char : Char) : Bool :=
  char.isDigit || char ∈ ['#', '?', '$', '!', '-', '*', '@']

/-- How the name of a parameter in braces is followed. -/
inductive Suffix where
  /-- Nothing follows, and the braces are closed. -/
  | closed (change : Change)
  /-- A word follows that a change is made with. -/
  | word (surround? : Option Surround) (change : Word → Change)

/-- Takes what follows the name of a parameter in braces. -/
def suffix : Reader Suffix := do
  match ← peekJoined? with
  | none => return .word none fun _ => .unknown
  | some char =>
    skip
    if char = '\x7d' then return .closed .keep
    else if char = '%' ∨ char = '#' then
      let isLongest ← takeIf char
      return .word (some .braces) (.cut (char = '#') isLongest)
    else if char = ':' then
      match ← peekJoined? with
      | none => return .word none fun _ => .unknown
      | some char =>
        skip
        return .word none (if char = '\x7d' then fun _ =>
          .keep else changeFor true char)
    else return .word none (changeFor false char)
where
  /-- The change that a sign stands for. -/
  changeFor (countsEmpty : Bool) (sign : Char) (word : Word) : Change :=
    match sign with
    | '-' => .orElse countsEmpty false word
    | '=' => .orElse countsEmpty true word
    | '+' => .ifThere countsEmpty word
    | '?' => .demand countsEmpty word
    | _ => .unknown

/-- Takes the name of a variable, or a number. -/
def parameterName : Reader (List Char) := do
  match ← peekJoined? with
  | some char =>
    takeJoined (if char.isDigit then Char.isDigit else isNameChar) limit
  | none => return []

/-- Takes the closing brace after a parameter whose length is asked for. -/
def lengthSuffix : Reader Suffix := do
  if ← takeIf '\x7d' then return .closed .length
  else return .word none fun _ => .unknown

/-- Takes the name of a parameter in braces, and what follows it. -/
def bracedName : Reader (List Char × Suffix) := do
  match ← peekJoined? with
  | none => return ([], .word none fun _ => .unknown)
  | some first =>
    if isNameChar first then return (← parameterName, ← suffix)
    else if first = '\x7d' then return ([], .word none fun _ => .unknown)
    else
      skip
      if first = '#' then afterHash
      else if isParameterSign first then return ([first], ← suffix)
      else return ([first], .word none fun _ => .unknown)
where
  /-- Takes what follows a hash, which may be the parameter itself. -/
  afterHash : Reader (List Char × Suffix) := do
    match ← peekJoined? with
    | none => return (['#'], ← suffix)
    | some char =>
      if isNameChar char then return (← parameterName, ← lengthSuffix)
      else
        let before ← get
        skip
        if char ≠ '\x7d' ∧ (← peekJoined?) = some '\x7d' then
          if isParameterSign char then return ([char], ← lengthSuffix)
          else return ([char], .word none fun _ => .unknown)
        else
          set before
          return (['#'], ← suffix)

/-! ## Commands in words -/

/-- Takes a command up to its closing bracket. -/
def enclosed (nested : Nested) : Reader Piece := do
  let outer ← get
  set { outer with announced := [], pushed? := none, expectsAlias := false }
  let command ← nested true
  modify fun source =>
    { source with announced := outer.announced, pushed? := none }
  return .output command

/-- Takes the text up to a closing backquote. -/
def backquoted (isQuoted : Bool) : (fuel : Nat) → Reader (List Char)
  | 0 => fail "EOF in backquote substitution"
  | fuel + 1 => do
    match ← peekJoined? with
    | none => fail "EOF in backquote substitution"
    | some '\x60' =>
      skip
      return []
    | some '\\' =>
      skip
      match ← peek? with
      | none => fail "EOF in backquote substitution"
      | some char =>
        skip
        let rest ← backquoted isQuoted fuel
        if char ∈ ['\\', '\x60', '$'] ∨ (isQuoted ∧ char = '"') then
          return char :: rest
        else return '\\' :: char :: rest
    | some char =>
      skip
      return char :: (← backquoted isQuoted fuel)

/-- Takes a command up to a closing backquote. -/
def inBackquotes (nested : Nested) (isQuoted : Bool) : Reader Piece := do
  let text ← backquoted isQuoted limit
  let outer ← get
  set { Source.ofText (String.ofList text) outer.aliases outer.documents with
    active := outer.active }
  let command ← nested false
  let documents := (← get).documents
  set { outer with documents }
  return .output command

/-! ## Words -/

/-- Whether the line at the front closes a document; if so it is taken. -/
def isAtClosing (closing : List Char) (stripsTabs : Bool) : Reader Bool := do
  if stripsTabs then
    let _ ← takeWhile (· = '\t')
  let source ← get
  let line := source.rest.takeWhile (· ≠ '\n')
  if line = closing then
    set { source with rest := source.rest.drop (line.length + 1), line :=
      source.line + 1 }
    return true
  else return false

/-- Takes the pieces of a word as far as what they are in.  In the word that
closes a document no parameter has a value. -/
def pieces (nested : Nested) (isClosing : Bool) :
    (fuel : Nat) → Surround → Reader Word
  | 0, _ => fail "word unexpected"
  | fuel + 1, .document true closing stripsTabs => do
    if ← isAtClosing closing stripsTabs then return []
    else pieces nested isClosing fuel (.document false closing stripsTabs)
  | fuel + 1, surround => do
    let go := pieces nested isClosing fuel
    let run ← takeWhile surround.isOrdinary
    if !run.isEmpty then return Word.add (.plain run) (← go surround)
    match ← peek? with
    | none =>
      match surround.missing? with
      | some message => fail message
      | none => return []
    | some '\\' =>
      skip
      match ← peek? with
      | none => return .literal ['\\'] :: (← go surround)
      | some char =>
        skip
        if char = '\n' then go surround
        else if surround.escapes char then
          return .literal [char] :: (← go surround)
        else return .literal ['\\', char] :: (← go surround)
    | some '\'' =>
      skip
      let inside ← takeWhile (· ≠ '\'')
      if (← peek?).isNone then fail "Unterminated quoted string"
      skip
      return .literal inside :: (← go surround)
    | some '"' =>
      skip
      match surround with
      | .quotes _ => return []
      | _ =>
        let inside ← go (.quotes surround.isInBraces)
        return .quoted inside :: (← go surround)
    | some '$' =>
      skip
      let piece ← if isClosing then pure (.plain ['$']) else dollar go surround
      return Word.add piece (← go surround)
    | some '\x60' =>
      skip
      let piece ←
        if isClosing then pure (.literal ['\x60'])
        else inBackquotes nested surround.isQuoted
      return piece :: (← go surround)
    | some char =>
      if Source.isAliasEnd char then
        if surround = .nothing then return []
        else
          modify Source.endAlias
          go surround
      else
        match surround with
        | .nothing => return []
        | .document _ closing stripsTabs =>
          skip
          return Word.add (.plain [char])
            (← go (.document true closing stripsTabs))
        | .expression depth =>
          skip
          if char = '(' then
            return Word.add (.plain [char]) (← go (.expression (depth + 1)))
          else
            match depth with
            | 0 =>
              if ← takeIf ')' then return []
              else return Word.add (.plain [char]) (← go surround)
            | depth + 1 =>
              return Word.add (.plain [char]) (← go (.expression depth))
        | _ =>
          skip
          return []
where
  /-- Takes the piece after a dollar sign. -/
  dollar (go : Surround → Reader Word) (surround : Surround) :
    Reader Piece := do
    match ← peekJoined? with
    | some '(' =>
      skip
      if ← takeIf '(' then return .number (← go (.expression 0))
      else enclosed nested
    | some '\x7b' =>
      skip
      let (name, suffix) ← bracedName
      match suffix with
      | .closed change => return .parameter name change
      | .word surround? change =>
        return .parameter name
          (change (← go (surround?.getD surround.bracesIn)))
    | some char =>
      if isNameChar char && !char.isDigit then
        return .parameter (← takeJoined isNameChar limit) .keep
      else if isParameterSign char then
        skip
        return .parameter [char] .keep
      else return .plain ['$']
    | none => return .plain ['$']

/-- Takes the lines of a document whose characters stand for themselves. -/
def plainLines (closing : List Char) (stripsTabs : Bool) :
    (fuel : Nat) → Reader (List Char)
  | 0 => return []
  | fuel + 1 => do
    if (← peek?).isNone then return []
    else if ← isAtClosing closing stripsTabs then return []
    else
      let line ← takeWhile (· ≠ '\n')
      if (← peek?).isNone then return line
      else
        skip
        return line ++ '\n' :: (← plainLines closing stripsTabs fuel)

def documents (nested : Nested) : Reader Unit := do
  let source ← get
  set { source with announced := [] }
  source.announced.forM fun document => do
    let word ←
      if document.isPlain then
        pure
          [.literal (← plainLines document.closing document.stripsTabs limit)]
      else
        pure [.quoted (← pieces nested false limit
          (.document true document.closing document.stripsTabs))]
    modify fun source =>
      { source with documents :=
        source.documents.modify document.index fun _ => word }

end Reader

end ClusterConsole.Shell
