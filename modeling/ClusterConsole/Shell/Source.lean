import ClusterConsole.Shell.Command

/-!
# The source of commands

Commands are read from characters.  A reader keeps the line that it is in, the
words that stand for other text, and the documents that have been announced but
not read: they begin after the end of the line.
-/

namespace ClusterConsole.Shell

/-- What is read at once. -/
inductive Token where
  | ended
  | lineEnd
  | sign (text : String)
  | redirect (stream? : Option Nat) (sign : String)
  | word (pieces : Word)
  /-- A word that has a meaning where a command can begin. -/
  | keyword (text : String)

/-- A document whose lines are still to come. -/
structure Announced where
  index : Nat
  /-- The line that ends the document. -/
  closing : List Char
  stripsTabs : Bool
  /-- All characters of the document stand for themselves. -/
  isPlain : Bool
deriving DecidableEq, Repr

/-- What is still to be read. -/
structure Source where
  rest : List Char
  line : Nat
  /-- The words that stand for other text. -/
  aliases : List (String × String)
  /-- The aliases whose text is being read, the innermost one first. -/
  active : List String
  /-- The next word may be an alias wherever it stands. -/
  expectsAlias : Bool
  /-- A token that was read and put back. -/
  pushed? : Option Token
  announced : List Announced
  documents : Array Word

/-- Why a text cannot be read as commands, and in which line. -/
structure Fault where
  line : Nat
  message : String
deriving DecidableEq, Repr

abbrev Reader := StateT Source (Except Fault)

namespace Source

/-- A source with a text.  The character that no word can hold is left out. -/
def ofText (text : String) (aliases : List (String × String))
    (documents : Array Word) : Source :=
  ⟨text.toList.filter (· ≠ '\x00'), 1, aliases, [], false, none, [], documents⟩

/-- The sign that stands after the text of an alias; it is the character of no
byte. -/
def aliasEnd : Char := '\u0100'

/-- The sign that stands after the text of an alias that ends in a blank. -/
def openAliasEnd : Char := '\u0101'

/-- Whether a character is a sign for the end of an alias. -/
def isAliasEnd (char : Char) : Bool := char = aliasEnd || char = openAliasEnd

/-- Whether a character stands between words. -/
def isBlank (char : Char) : Bool := char = ' ' || char = '\t'

/-- The source without the ends of lines at its front that a backslash hides. -/
def skipJoins (source : Source) : Source :=
  go source.rest source.line
where
  /-- The source with what is left of a text after its hidden ends of lines. -/
  go : List Char → Nat → Source
    | '\\' :: '\n' :: rest, line => go rest (line + 1)
    | rest, line => { source with rest, line }

/-- The source after the sign for the end of an alias at its front. -/
def endAlias (source : Source) : Source :=
  { source with
    rest := source.rest.drop 1
    active := source.active.drop 1
    expectsAlias := source.rest.head? = some openAliasEnd }

/-- The source without the blanks and comments at its front. -/
def skipBlanks (source : Source) : Source :=
  go false source.rest source
where
  /-- The source with what is left of a text after its blanks and comments. -/
  go (isInComment : Bool) : List Char → Source → Source
    | [], source => { source with rest := [] }
    | '\\' :: '\n' :: rest, source =>
      if isInComment then { source with rest := '\n' :: rest }
      else go false rest { source with line := source.line + 1 }
    | char :: rest, source =>
      if isAliasEnd char then
        go isInComment rest
          { source with active := source.active.drop 1, expectsAlias :=
            char = openAliasEnd }
      else if isInComment then
        if char = '\n' then { source with rest := char :: rest }
        else go true rest source
      else if isBlank char then go false rest source
      else if char = '#' then go true rest source
      else { source with rest := char :: rest }

/-- The source with the text of an alias at its front. -/
def insert (source : Source) (name text : String) : Source :=
  let last :=
    if (text.toList.getLast?.map isBlank).getD false then openAliasEnd
    else aliasEnd
  if text = "" then source
  else
    { source with rest := text.toList ++ last :: source.rest, active :=
      name :: source.active }

end Source

namespace Reader

/-- Ends reading with a message. -/
def fail (message : String) : Reader α := do
  throw ⟨(← get).line, "Syntax error: " ++ message⟩

/-- The next character, which stays. -/
def peek? : Reader (Option Char) := do
  return (← get).rest.head?

def skip : Reader Unit :=
  modify fun source =>
    let line :=
      if source.rest.head? = some '\n' then source.line + 1 else source.line
    { source with rest := source.rest.drop 1, line }

/-- Takes the ends of lines that a backslash hides. -/
def skipJoins : Reader Unit :=
  modify Source.skipJoins

/-- The next character that no backslash hides, which stays. -/
def peekJoined? : Reader (Option Char) := do
  skipJoins
  peek?

/-- Takes the next character if it is a certain one. -/
def takeIf (char : Char) : Reader Bool := do
  if (← peekJoined?) = some char then
    skip
    return true
  else return false

def takeWhile (test : Char → Bool) : Reader (List Char) := do
  let source ← get
  let taken := source.rest.takeWhile test
  set { source with
    rest := source.rest.drop taken.length
    line := source.line + taken.count '\n' }
  return taken

/-- Takes all characters of a kind that are next, across hidden ends of
lines. -/
def takeJoined (test : Char → Bool) : (fuel : Nat) → Reader (List Char)
  | 0 => return []
  | fuel + 1 => do
    let taken ← takeWhile test
    if ((← peekJoined?).map test).getD false then
      return taken ++ (← takeJoined test fuel)
    else return taken

def limit : Nat := 1000000

end Reader

end ClusterConsole.Shell
