import ClusterConsole.Shell.Word

/-!
# Tokens of a script

A script is taken apart into words and signs.  Whether a word has a meaning of
its own, and whether it stands for other text, depends on where it is read.
-/

namespace ClusterConsole.Shell

/-- What the next token is looked at for. -/
structure Checks where
  skipsLineEnds : Bool := false
  findsKeywords : Bool := false
  expandsAliases : Bool := false
  /-- The next word closes a document. -/
  isClosing : Bool := false
deriving DecidableEq, Repr

namespace Checks

/-- What stands after a redirection or among arguments. -/
def none : Checks := {}

/-- Where a command can begin, after the ends of lines. -/
def command : Checks := ⟨true, true, true, false⟩

/-- Where a command can begin, right there. -/
def commandHere : Checks := ⟨false, true, true, false⟩

end Checks

namespace Token

/-- The words that have a meaning where a command can begin. -/
def keywords : List String :=
  ["!", "case", "do", "done", "elif", "else", "esac", "fi", "for", "if", "in",
    "then", "until", "while", "\x7b", "\x7d"]

def describe : Token → String
  | ended => "end of file"
  | lineEnd => "newline"
  | sign text => "\"" ++ text ++ "\""
  | redirect _ _ => "redirection"
  | word _ => "word"
  | keyword text => "\"" ++ text ++ "\""

def isSign (text : String) : Token → Bool
  | sign other => other = text
  | _ => false

def isKeyword (text : String) : Token → Bool
  | keyword other => other = text
  | _ => false

/-- Whether a list of commands ends before a token. -/
def endsList : Token → Bool
  | ended => true
  | sign text => text = ")" || text = ";;"
  | keyword text =>
    text ∈ ["do", "done", "elif", "else", "esac", "fi", "then", "\x7d"]
  | _ => false

end Token

namespace Reader

/-- Ends reading with a message about a token. -/
def unexpected (token : Token) (expected? : Option String) : Reader α :=
  fail (token.describe ++ " unexpected" ++
    match expected? with
    | some expected => " (expecting " ++ expected ++ ")"
    | none => "")

def redirectionSign : Reader String := do
  if ← takeIf '>' then
    if ← takeIf '>' then return ">>"
    else if ← takeIf '|' then return ">|"
    else if ← takeIf '&' then return ">&"
    else return ">"
  else
    skip
    if ← takeIf '<' then
      if ← takeIf '-' then return "<<-" else return "<<"
    else if ← takeIf '&' then return "<&"
    else if ← takeIf '>' then return "<>"
    else return "<"

/-- The number of the stream that a redirection begins with, if a word is
one. -/
def streamOf? : Word → Option (Option Nat)
  | [] => some none
  | [.plain [digit]] =>
    if digit.isDigit then some (some (digit.toNat - '0'.toNat)) else none
  | _ => none

def wordOrRedirection (nested : Nested) (isClosing : Bool) : Reader Token := do
  let word ← pieces nested isClosing limit .nothing
  match ← peek?, streamOf? word with
  | some '>', some stream? => return .redirect stream? (← redirectionSign)
  | some '<', some stream? => return .redirect stream? (← redirectionSign)
  | _, _ => return .word word

/-- Takes the next token as it is written. -/
def rawToken (nested : Nested) (isClosing : Bool) : Reader Token := do
  modify Source.skipBlanks
  match ← peek? with
  | none => return .ended
  | some '\n' =>
    skip
    return .lineEnd
  | some '(' =>
    skip
    return .sign "("
  | some ')' =>
    skip
    return .sign ")"
  | some char =>
    if char ∈ ['&', '|', ';'] then
      skip
      let sign := String.singleton char
      return .sign (if ← takeIf char then sign ++ sign else sign)
    else wordOrRedirection nested isClosing

def putBack (token : Token) : Reader Unit :=
  modify fun source => { source with pushed? := some token }

/-- Takes the token that was put back, or the next one. -/
def pushedOrRaw (nested : Nested) (isClosing : Bool) : Reader Token := do
  let source ← get
  match source.pushed? with
  | some token =>
    set { source with pushed? := none }
    return token
  | none => rawToken nested isClosing

/-- The text that a word stands for if it is an alias that is not in use, where
aliases are looked for. -/
def meaning? (isOpen : Bool) (text : String) : Reader (Option String) := do
  let source ← get
  return if !isOpen || text ∈ source.active then
    none else source.aliases.lookup text

def token (nested : Nested) (checks : Checks) : Reader Token := do
  let token ← go checks limit
  modify fun source => { source with expectsAlias := false }
  return token
where
  /-- Takes the next token that is no end of a line to be skipped and no
  alias. -/
  go (checks : Checks) : (fuel : Nat) → Reader Token
    | 0 => fail "word unexpected"
    | fuel + 1 => do
      match ← pushedOrRaw nested checks.isClosing with
      | .lineEnd =>
        if checks.skipsLineEnds then
          documents nested
          go checks fuel
        else return .lineEnd
      | .word word =>
        match (Word.bare? word).map String.ofList with
        | none => return .word word
        | some text =>
          if checks.findsKeywords && text ∈ Token.keywords then
            return .keyword text
          else
            let isOpen := checks.expandsAliases || (← get).expectsAlias
            match ← meaning? isOpen text with
            | none => return .word word
            | some meaning =>
              modify fun source =>
                { source.insert text meaning with expectsAlias := false }
              go { checks with expandsAliases := isOpen } fuel
      | token => return token

end Reader

end ClusterConsole.Shell
