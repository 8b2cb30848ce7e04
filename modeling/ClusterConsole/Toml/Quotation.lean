import ClusterConsole.Toml.Reader

/-!
# Quotations

A string is written in one of four ways: between double quotes, where a
backslash starts an escape, or between single quotes, where nothing does; and
between one quote, on one line, or between three, over several.
-/

namespace ClusterConsole.Toml

/-- The character with a code point, which must not be a surrogate. -/
def scalar? (code : Nat) : Option Char :=
  if code < 0xD800 || (0xDFFF < code && code ≤ 0x10FFFF) then
    some (Char.ofNat code)
  else none

def isHexDigit (char : Char) : Bool :=
  char.isDigit || ('a' ≤ char && char ≤ 'f') || ('A' ≤ char && char ≤ 'F')

/-- The character that `count` hexadecimal digits stand for. -/
def codePoint (count : Nat) : Reader Char := fun chars =>
  let figures := chars.take count
  if figures.length = count && figures.all isHexDigit then
    (scalar? (numberOf 16 figures)).map fun char => (char, chars.drop count)
  else none

/-- What stands after the backslash of an escape. -/
def escape : Reader Char
  | 'b' :: rest => some ('\x08', rest)
  | 'f' :: rest => some ('\x0C', rest)
  | 'n' :: rest => some ('\n', rest)
  | 'r' :: rest => some ('\r', rest)
  | 't' :: rest => some ('\t', rest)
  | '"' :: rest => some ('"', rest)
  | '\\' :: rest => some ('\\', rest)
  | 'u' :: rest => codePoint 4 rest
  | 'U' :: rest => codePoint 8 rest
  | _ => none

/-- The rest of a string between double quotes, `fuel` characters at most. -/
def basicBody : Nat → Reader (List Char)
  | 0, _ => none
  | _ + 1, [] => none
  | _ + 1, '"' :: rest => some ([], rest)
  | fuel + 1, '\\' :: rest => do
    let (char, rest) ← escape rest
    let (body, rest) ← basicBody fuel rest
    return (char :: body, rest)
  | fuel + 1, char :: rest =>
    if isBasicChar char then
      (basicBody fuel rest).map fun found => (char :: found.1, found.2)
    else none

/-- The rest of a string between single quotes. -/
def literalBody (chars : List Char) : Option (List Char × List Char) :=
  match chars.dropWhile isLiteralChar with
  | '\'' :: rest => some (chars.takeWhile isLiteralChar, rest)
  | _ => none

/-- The quotes in front of a text, and the text after them. -/
def quoteRun (quote : Char) (chars : List Char) : Nat × List Char :=
  ((chars.takeWhile (· == quote)).length, chars.dropWhile (· == quote))

/-- The text after a backslash at the end of a line, which takes the line ending
and all spaces and line endings after it along. -/
def afterJoinedLines? (chars : List Char) : Option (List Char) := do
  let rest ← afterNewline? (skipSpaces chars)
  return skipEmpty (rest.length + 1) rest
where
  /-- Skips spaces and line endings. -/
  skipEmpty : Nat → List Char → List Char
    | 0, chars => chars
    | fuel + 1, chars =>
      match afterNewline? (skipSpaces chars) with
      | some rest => skipEmpty fuel rest
      | none => skipSpaces chars

/-- The rest of a string between three quotes.  Up to two quotes may stand in
it, also directly before the closing three; `escapes` says whether a backslash
starts an escape. -/
def multilineBody (quote : Char) (escapes : Bool) (isChar : Char → Bool) :
    Nat → Reader (List Char)
  | 0, _ => none
  | fuel + 1, chars =>
    match chars with
    | [] => none
    | char :: rest =>
      if char == quote then
        let (count, rest) := quoteRun quote chars
        if count < 3 then do
          let (body, rest) ← multilineBody quote escapes isChar fuel rest
          return (List.replicate count quote ++ body, rest)
        else if count ≤ 5 then some (List.replicate (count - 3) quote, rest)
        else none
      else if escapes && char == '\\' then
        match afterJoinedLines? rest with
        | some rest => multilineBody quote escapes isChar fuel rest
        | none => do
          let (char, rest) ← escape rest
          let (body, rest) ← multilineBody quote escapes isChar fuel rest
          return (char :: body, rest)
      else if isChar char then do
        let (body, rest) ← multilineBody quote escapes isChar fuel rest
        return (char :: body, rest)
      else do
        let rest ← afterNewline? chars
        let (body, rest) ← multilineBody quote escapes isChar fuel rest
        return ('\n' :: body, rest)

/-- A string between three quotes, after the opening ones; a line ending
directly after those does not count. -/
def multiline (quote : Char) (escapes : Bool) (isChar : Char → Bool) :
    Reader (List Char) :=
  fun chars =>
    let body := (afterNewline? chars).getD chars
    multilineBody quote escapes isChar (body.length + 1) body

def shortQuotation : Reader String
  | '"' :: rest =>
    (basicBody (rest.length + 1) rest).map fun found =>
      (String.ofList found.1, found.2)
  | '\'' :: rest =>
    (literalBody rest).map fun found => (String.ofList found.1, found.2)
  | _ => none

def quotation : Reader String
  | '"' :: '"' :: '"' :: rest =>
    (multiline '"' true isBasicChar rest).map fun found =>
      (String.ofList found.1, found.2)
  | '\'' :: '\'' :: '\'' :: rest =>
    (multiline '\'' false isLiteralChar rest).map fun found =>
      (String.ofList found.1, found.2)
  | chars => shortQuotation chars

end ClusterConsole.Toml
