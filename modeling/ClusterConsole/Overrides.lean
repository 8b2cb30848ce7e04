import ClusterConsole.Text.Blank
import ClusterConsole.Text.Line

/-!
# Overrides

An environment source gives values for credentials, one on each line, as in
`KEY = value`.  The values found are kept by key, and a later line wins.
-/

namespace ClusterConsole

/-- Values by key, in the order in which the keys first came. -/
structure Overrides where
  entries : List (String × String)
deriving DecidableEq, Repr, Inhabited

namespace Overrides

/-- No values. -/
def empty : Overrides := ⟨[]⟩

/-- Sets one entry, at its old place if the key has one. -/
def setEntry (key value : String) :
    List (String × String) → List (String × String)
  | [] => [(key, value)]
  | entry :: rest =>
    if entry.1 = key then (key, value) :: rest
    else entry :: setEntry key value rest

/-- The same values, with another one for `key`. -/
def set (overrides : Overrides) (key value : String) : Overrides :=
  ⟨setEntry key value overrides.entries⟩

/-- The value of `key` among entries. -/
def valueOf? (key : String) : List (String × String) → Option String
  | [] => none
  | entry :: rest => if entry.1 = key then some entry.2 else valueOf? key rest

/-- The value of `key`. -/
def get? (overrides : Overrides) (key : String) : Option String :=
  valueOf? key overrides.entries

def size (overrides : Overrides) : Nat :=
  overrides.entries.length

/-- The values of a list, in which a later entry wins. -/
def ofList (entries : List (String × String)) : Overrides :=
  entries.foldl (fun overrides entry => overrides.set entry.1 entry.2) empty

/-- What a line sets: the text before its first equals sign to the text after
it, both without the blanks around them.  A blank line, a comment and a line
without a key set nothing, and without an equals sign the value is empty. -/
def assignment? (line : List Char) : Option (String × String) :=
  match Text.trimChars line with
  | [] => none
  | '#' :: _ => none
  | content =>
    match Text.trimChars (content.takeWhile (· ≠ '=')) with
    | [] => none
    | key =>
      some (String.ofList key,
        String.ofList (Text.trimChars ((content.dropWhile (· ≠ '=')).drop 1)))

def parse (source : String) : Overrides :=
  ofList ((Text.charLines source.toList).filterMap assignment?)

theorem valueOf?_setEntry {key value other : String}
    {entries : List (String × String)} :
    valueOf? other (setEntry key value entries) =
      if key = other then some value else valueOf? other entries := by
  induction entries with
  | nil => simp [setEntry, valueOf?]
  | cons entry rest ih =>
      by_cases here : entry.1 = key <;> by_cases wanted : key = other <;>
        simp_all [setEntry, valueOf?]

/-- Setting a key changes the value of that key alone. -/
theorem get?_set {overrides : Overrides} {key value other : String} :
    (overrides.set key value).get? other =
      if key = other then some value else overrides.get? other :=
  valueOf?_setEntry

end Overrides

end ClusterConsole
