/-!
# Readers

A reader takes what it understands from the front of a text and hands on the
rest, or refuses the text.  The classes of characters are those of the document
format.
-/

namespace ClusterConsole.Toml

abbrev Reader (α : Type) := List Char → Option (α × List Char)

/-- A character outside ASCII. -/
def isBeyondAscii (char : Char) : Bool :=
  0x80 ≤ char.toNat

def isSpace (char : Char) : Bool :=
  char == ' ' || char == '\t'

def isCommentChar (char : Char) : Bool :=
  char == '\t' || (0x20 ≤ char.toNat && char.toNat ≤ 0x7E) || isBeyondAscii char

/-- A character of a key without quotes. -/
def isBareKeyChar (char : Char) : Bool :=
  char.isAlphanum || char == '_' || char == '-'

/-- A character that stands for itself between double quotes. -/
def isBasicChar (char : Char) : Bool :=
  isCommentChar char && char != '"' && char != '\\'

/-- A character that stands for itself between single quotes. -/
def isLiteralChar (char : Char) : Bool :=
  isCommentChar char && char != '\''

/-- The text after the spaces in front of it. -/
def skipSpaces (chars : List Char) : List Char :=
  chars.dropWhile isSpace

/-- The text after the word in front of it. -/
def afterWord? : List Char → List Char → Option (List Char)
  | [], chars => some chars
  | _ :: _, [] => none
  | expected :: word, char :: rest =>
    if char = expected then afterWord? word rest else none

/-- The text after the line ending in front of it. -/
def afterNewline? : List Char → Option (List Char)
  | '\n' :: rest => some rest
  | '\r' :: '\n' :: rest => some rest
  | _ => none

/-- The text after the comment in front of it, if there is one. -/
def skipComment : List Char → List Char
  | '#' :: rest => rest.dropWhile isCommentChar
  | chars => chars

/-- The text after the end of a line: spaces, a comment, and a line ending or
the end of the text. -/
def afterLineEnd? (chars : List Char) : Option (List Char) :=
  match skipComment (skipSpaces chars) with
  | [] => some []
  | rest => afterNewline? rest

/-- Skips spaces, comments and line endings, `fuel` of them at most.  A comment
that is not ended by a line ending stays. -/
def skipBlankLines : Nat → List Char → List Char
  | 0, chars => chars
  | fuel + 1, chars =>
    match skipSpaces chars with
    | '#' :: rest =>
      match afterNewline? (rest.dropWhile isCommentChar) with
      | some next => skipBlankLines fuel next
      | none => '#' :: rest
    | rest =>
      match afterNewline? rest with
      | some next => skipBlankLines fuel next
      | none => rest

/-- The text after all spaces, comments and line endings in front of it. -/
def skipFiller (chars : List Char) : List Char :=
  skipBlankLines (chars.length + 1) chars

/-- Exactly `count` decimal digits. -/
def digits : Nat → Reader (List Char)
  | 0, chars => some ([], chars)
  | _ + 1, [] => none
  | count + 1, char :: rest =>
    if char.isDigit then
      (digits count rest).map fun found => (char :: found.1, found.2)
    else none

def numberOf (base : Nat) (figures : List Char) : Nat :=
  figures.foldl (fun number char => number * base + digitValue char) 0
where
  /-- The value of one digit. -/
  digitValue (char : Char) : Nat :=
    if char.isDigit then char.toNat - '0'.toNat
    else if 'a' ≤ char ∧ char ≤ 'f' then char.toNat - 'a'.toNat + 10
    else if 'A' ≤ char ∧ char ≤ 'F' then char.toNat - 'A'.toNat + 10
    else 0

/-- Further digits of a number, in which an underscore may stand between two
digits.  Refuses an underscore that no digit follows. -/
def moreDigits (isDigit : Char → Bool) : Reader (List Char)
  | [] => some ([], [])
  | ['_'] => none
  | '_' :: char :: rest =>
    if isDigit char then
      (moreDigits isDigit rest).map fun found => (char :: found.1, found.2)
    else none
  | char :: rest =>
    if isDigit char then
      (moreDigits isDigit rest).map fun found => (char :: found.1, found.2)
    else some ([], char :: rest)

/-- The digits of a number; there is at least one. -/
def someDigits (isDigit : Char → Bool) : Reader (List Char)
  | [] => none
  | char :: rest =>
    if isDigit char then
      (moreDigits isDigit rest).map fun found => (char :: found.1, found.2)
    else none

end ClusterConsole.Toml
