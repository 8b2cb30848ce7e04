/-!
# Sets of characters

A set of characters is given by the code points at which membership changes, in
rising order: the first one belongs to the set, and the set goes on up to the
second, which does not.
-/

namespace ClusterConsole.Text

/-- Whether `code` lies in the set with the given boundaries. -/
def inRanges : List Nat → Nat → Bool
  | [], _ => false
  | first :: rest, code => first ≤ code && !inRanges rest code

end ClusterConsole.Text
