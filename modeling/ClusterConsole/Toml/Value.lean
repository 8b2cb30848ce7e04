import ClusterConsole.Number.Binary64
import ClusterConsole.Toml.Mismatch

/-!
# Document values

A document is a table of values.  Tables keep their keys in the order of the
document, which decides which of two mismatches is found first.
-/

namespace ClusterConsole.Toml

/-- A value of a document. -/
inductive Value where
  | string (text : String)
  | integer (number : Int)
  | float (number : Binary64)
  | boolean (value : Bool)
  | moment (text : String)
  | array (items : List Value)
  | table (entries : List (String × Value))
deriving Inhabited

/-- The key under which a date or time stands when it is taken for a table. -/
def momentKey : String := "$__toml_private_datetime"

namespace Value

/-- How a message names the value; dates and times count as maps. -/
def found : Value → Found
  | .string text => .string text
  | .integer number => .integer number
  | .float number => .float number.text
  | .boolean value => .boolean value
  | .moment _ => .map
  | .array _ => .sequence
  | .table _ => .map

/-- The entries of a value that can be taken for a table. -/
def entries? : Value → Option (List (String × Value))
  | .table entries => some entries
  | .moment text => some [(momentKey, .string text)]
  | _ => none

end Value

end ClusterConsole.Toml
