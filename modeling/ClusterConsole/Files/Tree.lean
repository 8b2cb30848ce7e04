import ClusterConsole.Path
import ClusterConsole.SystemError

/-!
# File trees

A file tree says what is at each location.  A path leads to a location only
through directories that are there, so every look-up ends at a location or in
the error that stopped it on its way.
-/

namespace ClusterConsole

/-- The names that lead from the root to a place. -/
abbrev Location := List String

/-- What can be at a location. -/
inductive Node where
  | directory
  /-- A device that has nothing to read, and keeps nothing that is written to
  it. -/
  | device
  /-- A file, with the bits that say who may read, write and run it. -/
  | file (contents : ByteArray) (mode : Nat)
deriving Inhabited

namespace Node

def isDirectory : Node → Bool
  | .directory => true
  | _ => false

/-- A file that is not a program. -/
def plain (contents : ByteArray) : Node := .file contents 0o644

/-- A file that is not a program, with text in it. -/
def text (contents : String) : Node := plain contents.toUTF8

end Node

/-- What is at each location below the root, and the location that relative
paths start from. -/
structure FileTree where
  nodes : List (Location × Node)
  working : Location
deriving Inhabited

namespace FileTree

/-- The node that a list of nodes has for a location. -/
def find? (location : Location) : List (Location × Node) → Option Node
  | [] => none
  | (other, node) :: rest =>
    if other = location then some node else find? location rest

/-- What is at a location; the root is always a directory. -/
def node? (tree : FileTree) (location : Location) : Option Node :=
  if location = [] then some .directory else find? location tree.nodes

/-- The tree without what is at a location. -/
def erase (tree : FileTree) (location : Location) : FileTree :=
  { tree with nodes := tree.nodes.filter fun entry => entry.1 ≠ location }

/-- The tree with a node at a location, in place of what was there. -/
def put (tree : FileTree) (location : Location) (node : Node) : FileTree :=
  { tree with nodes := (location, node) :: (tree.erase location).nodes }

/-- The tree without a location and everything below it. -/
def prune (tree : FileTree) (location : Location) : FileTree :=
  { tree with nodes :=
    tree.nodes.filter fun entry => !location.isPrefixOf entry.1 }

/-- The tree with a node at a location, and with a directory wherever one is
missing on the way to it. -/
def plant (tree : FileTree) (location : Location) (node : Node) : FileTree :=
  ((List.range location.length).foldl
    (fun tree depth =>
      let above := location.take depth
      if (tree.node? above).isNone then tree.put above .directory else tree)
    tree).put location node

/-- No file at all, and a working directory. -/
def empty (working : Location) : FileTree :=
  if working = [] then ⟨[], working⟩
  else (⟨[], working⟩ : FileTree).plant working .directory

/-- Everything below a location, by the names that lead there from it. -/
def below (tree : FileTree) (location : Location) : List (Location × Node) :=
  tree.nodes.filterMap fun entry =>
    match entry.1.drop location.length with
    | [] => none
    | names =>
      if location.isPrefixOf entry.1 then some (names, entry.2) else none

/-! ## Look-ups -/

/-- The most bytes that a name can have. -/
def nameLimit : Nat := 255

/-- The number of bytes that a path stays below. -/
def pathLimit : Nat := 4096

/-- Walks on from a location.  Empty names and dots stay where they are, and
like every other name they need a directory to stand in. -/
def follow (tree : FileTree) (here : Location) :
    List String → Except SystemError Location
  | [] => .ok here
  | name :: rest =>
    match tree.node? here with
    | none => .error .notFound
    | some (.file _ _) => .error .notADirectory
    | some .device => .error .notADirectory
    | some .directory =>
      if name = "" ∨ name = "." then tree.follow here rest
      else if name = ".." then tree.follow here.dropLast rest
      else if nameLimit < name.utf8ByteSize then .error .nameTooLong
      else tree.follow (here ++ [name]) rest

/-- The names of a path, unless no file can have such a path. -/
def names (path : Path) : Except SystemError (List String) :=
  if '\x00' ∈ path.text.toList then .error .nulInName
  else if path.text = "" then .error .notFound
  else if pathLimit ≤ path.text.utf8ByteSize then .error .nameTooLong
  else .ok (path.pieces.map String.ofList)

def start (tree : FileTree) (path : Path) : Location :=
  if path.isAbsolute then [] else tree.working

/-- The location that a path leads to.  There need not be anything at it, but
all directories on the way are there. -/
def locate (tree : FileTree) (path : Path) : Except SystemError Location := do
  tree.follow (tree.start path) (← names path)

def lookup (tree : FileTree) (path : Path) : Except SystemError Node := do
  match tree.node? (← tree.locate path) with
  | some node => .ok node
  | none => .error .notFound

def isFile (tree : FileTree) (path : Path) : Bool :=
  match tree.lookup path with
  | .ok (.file _ _) => true
  | _ => false

def isDirectory (tree : FileTree) (path : Path) : Bool :=
  match tree.lookup path with
  | .ok .directory => true
  | _ => false

/-- Whether a path leads to a file that can be run. -/
def isProgram (tree : FileTree) (path : Path) : Bool :=
  match tree.lookup path with
  | .ok (.file _ mode) => mode &&& 0o111 ≠ 0
  | _ => false

def read (tree : FileTree) (path : Path) : Except SystemError ByteArray := do
  match ← tree.lookup path with
  | .directory => .error .isADirectory
  | .device => .ok .empty
  | .file contents _ => .ok contents

def readText (tree : FileTree) (path : Path) : Except SystemError String := do
  match String.fromUTF8? (← tree.read path) with
  | some text => .ok text
  | none => .error .invalidText

/-! ## Changes -/

/-- The tree with a node where a path made of proper names leads to, and with a
directory wherever one is missing on the way to it. -/
def plantAt (tree : FileTree) (path : Path) (node : Node) : FileTree :=
  let proper := (path.pieces.filter fun name => name ≠ []).map String.ofList
  tree.plant (tree.start path ++ proper) node

/-- Makes one directory.  Slashes at the end of its path count for nothing. -/
def makeDirectory (tree : FileTree) (path : Path) :
    Except SystemError FileTree := do
  let proper := ((← names path).reverse.dropWhile (· = "")).reverse
  let location ← tree.follow (tree.start path) proper
  match tree.node? location with
  | some _ => .error .alreadyExists
  | none => .ok (tree.put location .directory)

/-- Makes the first of some directories, given that each one stands in the next.
What is missing is made from the outside in, and directories that are there are
kept; the directories made before an error are kept too. -/
def makeNested : List Path → FileTree → Except SystemError Unit × FileTree
  | [], tree => (.ok (), tree)
  | path :: outer, tree =>
    match tree.makeDirectory path with
    | .ok made => (.ok (), made)
    | .error cause =>
      if cause = .notFound then
        match makeNested outer tree with
        | (.ok (), tree) =>
          match tree.makeDirectory path with
          | .ok made => (.ok (), made)
          | .error cause =>
            (if tree.isDirectory path then .ok () else .error cause, tree)
        | failed => failed
      else (if tree.isDirectory path then .ok () else .error cause, tree)

/-- Makes a directory and the directories that it stands in. -/
def makeDirectories (tree : FileTree) (path : Path) :
    Except SystemError Unit × FileTree :=
  if path.text = "" then (.ok (), tree) else makeNested path.ancestors tree

/-- A name that nothing right below a location has: it is longer than all names
there. -/
def freshName (tree : FileTree) (location : Location) : String :=
  let lengths :=
    (tree.below location).map fun entry => (entry.1.head?.getD "").length
  String.ofList ('.' :: List.replicate (lengths.foldl max 0) 't')

/-- Puts a new file with a text into a directory, and tells its location. -/
def stage (tree : FileTree) (directory : Path) (contents : String) :
    Except SystemError (Location × FileTree) := do
  let location ← tree.locate directory
  match tree.node? location with
  | none => .error .notFound
  | some (.file _ _) => .error .notADirectory
  | some .device => .error .notADirectory
  | some .directory =>
    let staged := location ++ [tree.freshName location]
    .ok (staged, tree.put staged (.file contents.toUTF8 0o600))

/-- The location that a path gives to a file.  The last name has to be a proper
one that no directory has, and no slash may follow it. -/
def destination (tree : FileTree) (path : Path) :
    Except SystemError Location := do
  let reversed := (← names path).reverse
  match reversed.dropWhile (· = "") with
  | [] => .error .busy
  | last :: outer =>
    let parent ← tree.follow (tree.start path) (outer.reverse ++ [""])
    if last = "." ∨ last = ".." then .error .busy
    else
      let location ← tree.follow parent [last]
      if reversed.head? = some "" then .error .notADirectory
      else if (tree.node? location).any Node.isDirectory then
        .error .isADirectory
      else .ok location

/-- Gives a staged file its path, in place of the file that had it. -/
def promote (tree : FileTree) (staged : Location) (target : Path) :
    Except SystemError FileTree := do
  if '\x00' ∈ target.text.toList then .error .invalidArgument
  else
    match tree.node? staged with
    | some (.file contents mode) =>
      let location ← tree.destination target
      .ok ((tree.erase staged).put location (.file contents mode))
    | _ => .error .notFound

/-! ## What changes show -/

theorem find?_filter_ne {location other : Location}
    {nodes : List (Location × Node)} :
    find? other (nodes.filter fun entry => entry.1 ≠ location) =
      if location = other then none else find? other nodes := by
  induction nodes with
  | nil => simp [find?]
  | cons entry rest ih =>
      by_cases here : entry.1 = location <;> by_cases wanted :
        location = other <;>
        by_cases both : entry.1 = other <;> simp_all [find?]

/-- Erasing a location changes what is there alone. -/
theorem node?_erase {tree : FileTree}
    {location other : Location} (below : other ≠ []) :
    (tree.erase location).node? other =
      if location = other then none else tree.node? other := by
  rw [node?, node?, if_neg below, if_neg below]
  exact find?_filter_ne

/-- A node put at a location changes what is there alone. -/
theorem node?_put {tree : FileTree} {location other : Location} {node : Node}
    (below : other ≠ []) :
    (tree.put location node).node? other =
      if location = other then some node else tree.node? other := by
  by_cases same : location = other
  · simp [node?, put, find?, below, same]
  · rw [if_neg same, node?, if_neg below, put, find?, if_neg same, node?,
      if_neg below]
    exact find?_filter_ne.trans (if_neg same)

end FileTree

end ClusterConsole
