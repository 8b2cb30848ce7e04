import ClusterConsole.Toml.Assembly
import ClusterConsole.Toml.Numeral

/-!
# Statements

A document is a sequence of lines.  A line gives a key its value, or it is the
header of a table or of an element of an array of tables.
-/

namespace ClusterConsole.Toml

/-- One line of a document, blank lines and comments aside. -/
inductive Statement where
  | assign (path : List String) (key : String) (value : Value)
  | table (path : List String) (key : String)
  | element (path : List String) (key : String)

/-- How deeply arrays, braces and dotted keys may be nested. -/
def nestingLimit : Nat := 80

def keyPart : Reader String := fun chars =>
  match chars with
  | '"' :: _ => shortQuotation chars
  | '\'' :: _ => shortQuotation chars
  | _ =>
    match chars.takeWhile isBareKeyChar with
    | [] => none
    | name => some (String.ofList name, chars.dropWhile isBareKeyChar)

/-- The parts of a key, `fuel` of them at most; spaces may stand around each. -/
def keyParts : Nat → Reader (List String)
  | 0, _ => none
  | fuel + 1, chars => do
    let (part, rest) ← keyPart (skipSpaces chars)
    match skipSpaces rest with
    | '.' :: rest => do
      let (parts, rest) ← keyParts fuel rest
      return (part :: parts, rest)
    | rest => return ([part], rest)

/-- A key, as the keys that lead to the last one and that last one. -/
def key : Reader (List String × String) := fun chars => do
  let (parts, rest) ← keyParts (nestingLimit - 1) chars
  let found ← splitLast? parts
  return (found, rest)

/-- A key with the value after the equals sign. -/
def assignment (value : Reader Value) :
    Reader (List String × String × Value) := fun chars => do
  let ((path, name), rest) ← key chars
  let rest ← afterWord? ['='] rest
  let (item, rest) ← value (skipSpaces rest)
  return ((path, name, item), rest)

/-- The items of an array after its opening bracket, `fuel` of them at most. -/
def arrayItems (value : Reader Value) : Nat → Reader (List Value)
  | 0, _ => none
  | fuel + 1, chars =>
    match skipFiller chars with
    | ']' :: rest => some ([], rest)
    | start => do
      let (item, rest) ← value start
      match skipFiller rest with
      | ',' :: rest => do
        let (items, rest) ← arrayItems value fuel rest
        return (item :: items, rest)
      | ']' :: rest => return ([item], rest)
      | _ => none

/-- The entries of a table in braces, from the first one on, `fuel` of them at
most.  All of it stands on one line, and no comma follows the last entry. -/
def inlineEntries (value : Reader Value) : Nat → Draft → Reader Draft
  | 0, _, _ => none
  | fuel + 1, draft, chars => do
    let ((path, name, item), rest) ← assignment value chars
    let draft ← assign path name item draft
    match skipSpaces rest with
    | ',' :: rest => inlineEntries value fuel draft rest
    | '}' :: rest => return (draft, rest)
    | _ => none

/-- A table in braces, after the opening one. -/
def inlineTable (value : Reader Value) : Reader Value := fun chars =>
  match skipSpaces chars with
  | '}' :: rest => some (.table [], rest)
  | start => do
    let ((_, entries), rest) ← inlineEntries value (start.length + 1) (.written,
      []) start
    return (.table (entriesToValues entries), rest)

/-- A value that holds no other values. -/
def plainValue : Reader Value := fun chars =>
  match chars with
  | '"' :: _ => (quotation chars).map fun found => (.string found.1, found.2)
  | '\'' :: _ => (quotation chars).map fun found => (.string found.1, found.2)
  | 't' :: _ =>
    (afterWord? "true".toList chars).map fun rest => (.boolean true, rest)
  | 'f' :: _ =>
    (afterWord? "false".toList chars).map fun rest => (.boolean false, rest)
  | _ => numeral chars

/-- A value in which brackets and braces are nested `depth` deep at most. -/
def value : Nat → Reader Value
  | 0, chars =>
    match chars with
    | '[' :: _ => none
    | '{' :: _ => none
    | _ => plainValue chars
  | depth + 1, chars =>
    match chars with
    | '[' :: rest =>
      (arrayItems (value depth) (rest.length + 1) rest).map fun found =>
        (.array found.1, found.2)
    | '{' :: rest => inlineTable (value depth) rest
    | _ => plainValue chars

/-- One line from its first character that is no space. -/
def statement : Reader Statement
  | '[' :: '[' :: rest => do
    let ((path, name), rest) ← key rest
    let rest ← afterWord? [']', ']'] rest
    return (.element path name, rest)
  | '[' :: rest => do
    let ((path, name), rest) ← key rest
    let rest ← afterWord? [']'] rest
    return (.table path name, rest)
  | chars => do
    let ((path, name, item), rest) ← assignment (value (nestingLimit - 1)) chars
    return (.assign path name item, rest)

/-- The lines of a document, `fuel` of them at most. -/
def statements : Nat → List Char → Option (List Statement)
  | 0, _ => none
  | fuel + 1, chars =>
    match skipSpaces chars with
    | [] => some []
    | '#' :: rest => do
      let rest ← afterLineEnd? ('#' :: rest)
      statements fuel rest
    | start =>
      match afterNewline? start with
      | some rest => statements fuel rest
      | none => do
        let (first, rest) ← statement start
        let rest ← afterLineEnd? rest
        let others ← statements fuel rest
        return first :: others

end ClusterConsole.Toml
