/-!
# JSON values

Results for other programs are written as JSON, each one on a line of its own.
Nothing is written that could be left out: there are no blanks, and only those
characters are escaped that a text cannot hold as they are.
-/

namespace ClusterConsole.Json

/-- A JSON value. -/
inductive Value where
  | null
  | boolean (value : Bool)
  | number (value : Int)
  | text (value : String)
  | list (items : List Value)
  /-- An object, with its entries in the order in which they are written. -/
  | record (entries : List (String × Value))
deriving Inhabited

namespace Value

/-- Puts an entry at its place among entries sorted by key, over an older
one. -/
def insertEntry (key : String) (value : Value) :
    List (String × Value) → List (String × Value)
  | [] => [(key, value)]
  | (otherKey, otherValue) :: rest =>
    if key = otherKey then (key, value) :: rest
    else if key < otherKey then (key, value) :: (otherKey, otherValue) :: rest
    else (otherKey, otherValue) :: insertEntry key value rest

/-- The object with some entries, sorted by key. -/
def object (entries : List (String × Value)) : Value :=
  .record
    (entries.foldl (fun sorted entry => insertEntry entry.1 entry.2 sorted) [])

/-- A text, or null. -/
def ofOption : Option String → Value
  | some value => .text value
  | none => .null

end Value

/-! ## Writing -/

/-- A control character by its number. -/
def controlEscape (char : Char) : List Char :=
  ['\\', 'u', '0', '0', Nat.digitChar (char.toNat / 16),
    Nat.digitChar (char.toNat % 16)]

/-- A character as it stands between quotes. -/
def escaped (char : Char) : List Char :=
  match char with
  | '"' => ['\\', '"']
  | '\\' => ['\\', '\\']
  | '\n' => ['\\', 'n']
  | '\r' => ['\\', 'r']
  | '\t' => ['\\', 't']
  | '\x08' => ['\\', 'b']
  | '\x0c' => ['\\', 'f']
  | char => if char.toNat < 0x20 then controlEscape char else [char]

/-- A text between quotes. -/
def quotedText (text : List Char) : List Char :=
  '"' :: text.flatMap escaped ++ ['"']

namespace Value

mutual

/-- A value as it is written. -/
def chars : Value → List Char
  | .null => "null".toList
  | .boolean true => "true".toList
  | .boolean false => "false".toList
  | .number value => (toString value).toList
  | .text value => quotedText value.toList
  | .list items => '[' :: itemChars items ++ [']']
  | .record entries => '\x7b' :: entryChars entries ++ ['\x7d']

/-- Values with commas between them. -/
def itemChars : List Value → List Char
  | [] => []
  | [item] => item.chars
  | item :: rest => item.chars ++ ',' :: itemChars rest

/-- Entries with commas between them. -/
def entryChars : List (String × Value) → List Char
  | [] => []
  | [(key, value)] => quotedText key.toList ++ ':' :: value.chars
  | (key, value) :: rest =>
    quotedText key.toList ++ ':' :: (value.chars ++ ',' :: entryChars rest)

end

def render (value : Value) : String :=
  String.ofList value.chars

end Value

end ClusterConsole.Json
