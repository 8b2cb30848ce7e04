import ClusterConsole.Text.Quoted

/-!
# Mismatches

A document may be well formed and still not be what is asked for.  A mismatch
says what was found and what was expected in its place.
-/

namespace ClusterConsole.Toml

/-- A value as a message names it. -/
inductive Found where
  | string (text : String)
  | integer (number : Int)
  | float (text : String)
  | boolean (value : Bool)
  | sequence
  | map
deriving DecidableEq, Repr

def Found.text : Found → String
  | .string text => "string " ++ Text.quoted text
  | .integer number => "integer `" ++ toString number ++ "`"
  | .float text => "floating point `" ++ text ++ "`"
  | .boolean value => "boolean `" ++ (if value then "true" else "false") ++ "`"
  | .sequence => "sequence"
  | .map => "map"

/-- Why a value is not what is asked for. -/
inductive Mismatch where
  | invalidType (found : Found) (expected : String)
  | invalidValue (found : Found) (expected : String)
  | invalidLength (length : Nat) (expected : String)
  | missingField (name : String)
  | unknownField (name : String) (expected : List String)
  | rejected (reason : String)
deriving DecidableEq, Repr

namespace Mismatch

def quoteName (name : String) : String :=
  "`" ++ name ++ "`"

def oneOf : List String → String
  | [] => "there are no fields"
  | [only] => "expected " ++ quoteName only
  | [first, second] =>
    "expected " ++ quoteName first ++ " or " ++ quoteName second
  | many => "expected one of " ++ ", ".intercalate (many.map quoteName)

def message : Mismatch → String
  | .invalidType found expected =>
    "invalid type: " ++ found.text ++ ", expected " ++ expected
  | .invalidValue found expected =>
    "invalid value: " ++ found.text ++ ", expected " ++ expected
  | .invalidLength length expected =>
    "invalid length " ++ toString length ++ ", expected " ++ expected
  | .missingField name => "missing field " ++ quoteName name
  | .unknownField name expected =>
    "unknown field " ++ quoteName name ++ ", " ++ oneOf expected
  | .rejected reason => reason

end Mismatch

end ClusterConsole.Toml
