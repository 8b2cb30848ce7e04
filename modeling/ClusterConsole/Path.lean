/-!
# Paths

A path is the text that names a file, kept as it was written.  Joining never
normalizes.  The components are what a look-up walks through, so two texts with
the same components name the same file, a trailing slash apart.
-/

namespace ClusterConsole

/-- A path as it is written. -/
structure Path where
  text : String
deriving DecidableEq, Repr, Inhabited

namespace Path

/-- Whether the path starts at the root. -/
def isAbsolute (path : Path) : Bool :=
  path.text.toList.head? == some '/'

/-- The text that follows `left` when `right` is appended to it. -/
def separator (left : Path) : String :=
  if left.text.toList.isEmpty || left.text.toList.getLast? == some '/' then ""
  else "/"

/-- `right` below `left`; an absolute `right` stands alone. -/
def join (left right : Path) : Path :=
  if right.isAbsolute then right
  else ⟨left.text ++ left.separator ++ right.text⟩

/-- `left.child name` is the file called `name` below `left`. -/
def child (left : Path) (name : String) : Path :=
  left.join ⟨name⟩

/-- One step of a look-up. -/
inductive Component where
  | root
  | current
  | parent
  | name (text : String)
deriving DecidableEq, Repr

/-- The pieces between the slashes. -/
def pieces (path : Path) : List (List Char) :=
  path.text.toList.splitOn '/'

/-- The step that a piece after the first one stands for, if it stands for
one. -/
def innerComponent (piece : List Char) : Option Component :=
  match piece with
  | [] => none
  | ['.'] => none
  | ['.', '.'] => some .parent
  | _ => some (.name (String.ofList piece))

/-- The steps of a path: repeated slashes and inner dots are none, and a dot at
the very start is one. -/
def components (path : Path) : List Component :=
  match path.pieces with
  | [] :: rest =>
    (if path.isAbsolute then [.root] else []) ++ rest.filterMap innerComponent
  | ['.'] :: rest => .current :: rest.filterMap innerComponent
  | all => all.filterMap innerComponent

def joinPieces : List (List Char) → List Char
  | [] => []
  | [last] => last
  | piece :: rest => piece ++ '/' :: joinPieces rest

/-- Drops the pieces at the end that stand for no step, given the pieces in
reverse order; the first piece of a path stays. -/
def dropIdlePieces : List (List Char) → List (List Char)
  | [] => []
  | [first] => [first]
  | piece :: rest =>
    if (innerComponent piece).isNone then dropIdlePieces rest else piece :: rest

/-- The path without its last step, unless it has none or only the root. -/
def parent? (path : Path) : Option Path :=
  match dropIdlePieces path.pieces.reverse with
  | [] => none
  | [first] =>
    if first = [] then none else some ⟨""⟩
  | _ :: rest =>
    match dropIdlePieces rest with
    | [[]] => if path.isAbsolute then some ⟨"/"⟩ else some ⟨""⟩
    | kept => some ⟨String.ofList (joinPieces kept.reverse)⟩

/-- The path, the directory that it is in, and so on, as far as they have a text
and `count` parents at most. -/
def ancestorsWithin : Nat → Path → List Path
  | 0, path => [path]
  | count + 1, path =>
    path ::
      match path.parent? with
      | none => []
      | some outer =>
        if outer.text = "" then [] else ancestorsWithin count outer

/-- The path, the directory that it is in, and so on, as far as they have a
text. -/
def ancestors (path : Path) : List Path :=
  ancestorsWithin path.pieces.length path

/-- Whether the text ends in a slash or in a dot that stands for no step, so
that the path can only name a directory. -/
def namesDirectory (path : Path) : Bool :=
  match path.pieces.reverse with
  | piece :: _ :: _ => piece == [] || piece == ['.']
  | _ => false

end Path

end ClusterConsole
