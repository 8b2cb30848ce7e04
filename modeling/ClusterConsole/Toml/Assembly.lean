import ClusterConsole.Toml.Value

/-!
# Assembly of tables

Headers and dotted keys build tables piece by piece.  What may still be added to
a table depends on how it came about, so a table under construction remembers
that.
-/

namespace ClusterConsole.Toml

/-- How a table came about. -/
inductive Origin where
  /-- Its own header or braces stand in the document. -/
  | written
  /-- The header of a table below it names it. -/
  | implied
  /-- A dotted key names it. -/
  | dotted
deriving DecidableEq, Repr

/-- Whether the table may still get a header or further dotted keys. -/
def Origin.isOpen (origin : Origin) : Bool :=
  origin != .written

/-- A part of a document under construction. -/
inductive Node where
  | value (value : Value)
  | table (origin : Origin) (entries : List (String × Node))
  | tables (elements : List (List (String × Node)))
deriving Inhabited

abbrev Draft := Origin × List (String × Node)

def lookupNode (key : String) : List (String × Node) → Option Node
  | [] => none
  | entry :: rest => if entry.1 = key then some entry.2 else lookupNode key rest

/-- Puts a node under a key, at its old place if the key has one. -/
def putNode (key : String) (node : Node) :
    List (String × Node) → List (String × Node)
  | [] => [(key, node)]
  | entry :: rest =>
    if entry.1 = key then (key, node) :: rest
    else entry :: putNode key node rest

def removeNode (key : String) (entries : List (String × Node)) :
    List (String × Node) :=
  entries.filter fun entry => entry.1 ≠ key

/-- Changes the table at the end of a path, where `step` says how the tables on
the way that are not there yet come about.  A path goes through the last element
of an array of tables, and dotted keys cannot go through a table that is written
out. -/
def changeAt (step : Origin) (change : Draft → Option Draft) :
    List String → Draft → Option Draft
  | [], draft => change draft
  | key :: path, (origin, entries) =>
    match lookupNode key entries with
    | none => do
      let (childOrigin, child) ← changeAt step change path (step, [])
      return (origin, putNode key (.table childOrigin child) entries)
    | some (.value _) => none
    | some (.table childOrigin child) =>
      if step = .dotted ∧ childOrigin.isOpen = false then none
      else do
        let (childOrigin, child) ← changeAt step change path
          (childOrigin, child)
        return (origin, putNode key (.table childOrigin child) entries)
    | some (.tables elements) =>
      match elements.reverse with
      | [] => none
      | last :: earlier => do
        let (_, last) ← changeAt step change path (.written, last)
        return (origin, putNode key (.tables (last :: earlier).reverse) entries)

/-- Gives a new key of a table its value.  `viaPath` says that dotted keys led
to the table, and then it must have come about that way. -/
def addKey (viaPath : Bool) (key : String) (node : Node) (draft : Draft) :
    Option Draft :=
  if (draft.1 == .dotted) != viaPath then none
  else
    match lookupNode key draft.2 with
    | some _ => none
    | none => some (draft.1, draft.2 ++ [(key, node)])

/-- Carries out `path.key = value` in a table. -/
def assign (path : List String) (key : String) (value : Value) (draft : Draft) :
    Option Draft :=
  changeAt .dotted (addKey (!path.isEmpty) key (.value value)) path draft

mutual

def Node.toValue : Node → Value
  | .value value => value
  | .table _ entries => .table (entriesToValues entries)
  | .tables elements => .array (elementsToValues elements)

def entriesToValues : List (String × Node) → List (String × Value)
  | [] => []
  | (key, node) :: rest => (key, node.toValue) :: entriesToValues rest

/-- The values of the elements of an array of tables. -/
def elementsToValues : List (List (String × Node)) → List Value
  | [] => []
  | entries :: rest => .table (entriesToValues entries) :: elementsToValues rest

end

/-- A last key and the keys that lead to it. -/
def splitLast? : List String → Option (List String × String)
  | [] => none
  | [key] => some ([], key)
  | key :: rest => (splitLast? rest).map fun found => (key :: found.1, found.2)

end ClusterConsole.Toml
