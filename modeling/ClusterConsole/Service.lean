import ClusterConsole.Path

/-!
# Services

A service is one deployable image.  Its name is also the name of its deployment
and of its manifest; whatever else is left open follows a convention.
-/

namespace ClusterConsole

/-- Build arguments, sorted by key and with one value for each key. -/
structure BuildArguments where
  entries : List (String × String)
  sorted : entries.Pairwise fun first second => first.1 < second.1
deriving DecidableEq, Repr

namespace BuildArguments

/-- No build arguments. -/
def empty : BuildArguments := ⟨[], .nil⟩

instance : Inhabited BuildArguments := ⟨empty⟩

/-- Puts one entry at its place among sorted entries, over an older one. -/
def insertEntry (key value : String) :
    List (String × String) → List (String × String)
  | [] => [(key, value)]
  | (otherKey, otherValue) :: rest =>
    if key = otherKey then (key, value) :: rest
    else if key < otherKey then (key, value) :: (otherKey, otherValue) :: rest
    else (otherKey, otherValue) :: insertEntry key value rest

theorem key_of_mem_insertEntry {key value : String}
    {entries : List (String × String)} {entry : String × String}
    (member : entry ∈ insertEntry key value entries) :
    entry.1 = key ∨ entry ∈ entries := by
  induction entries with
  | nil => exact .inl (congrArg Prod.fst (List.mem_singleton.mp member))
  | cons other rest ih => grind [insertEntry]

theorem sorted_insertEntry (key value : String)
    {entries : List (String × String)}
    (sorted : entries.Pairwise fun first second => first.1 < second.1) :
    (insertEntry key value entries).Pairwise fun first second =>
      first.1 < second.1 := by
  induction entries with
  | nil => exact List.pairwise_singleton _ _
  | cons other rest ih =>
      obtain ⟨isFirst, restSorted⟩ := List.pairwise_cons.mp sorted
      rw [insertEntry]
      split
      · rename_i same
        exact List.pairwise_cons.mpr ⟨same ▸ isFirst, restSorted⟩
      · rename_i isOther
        split
        · rename_i before
          refine List.pairwise_cons.mpr ⟨?_, sorted⟩
          intro entry member
          cases member with
          | head => exact before
          | tail _ inRest => exact String.lt_trans before (isFirst entry inRest)
        · rename_i notBefore
          have after : other.1 < key :=
            Std.lt_of_le_of_ne notBefore (Ne.symm isOther)
          refine List.pairwise_cons.mpr ⟨?_, ih restSorted⟩
          intro entry member
          cases key_of_mem_insertEntry member with
          | inl isKey => exact isKey ▸ after
          | inr inRest => exact isFirst entry inRest

def insert (arguments : BuildArguments) (key value : String) : BuildArguments :=
  ⟨insertEntry key value arguments.entries,
    sorted_insertEntry key value arguments.sorted⟩

/-- The arguments of a list, in which a later value for a key wins. -/
def ofList (entries : List (String × String)) : BuildArguments :=
  entries.foldl (fun arguments entry => arguments.insert entry.1 entry.2) empty

end BuildArguments

/-- One deployable service. -/
structure Service where
  name : String
  alias? : Option String
  context? : Option Path
  dockerfile? : Option String
  buildArguments? : Option BuildArguments
deriving DecidableEq, Repr, Inhabited

/-- What one image is built from. -/
structure BuildContext where
  directory : Path
  dockerfile : Path
  arguments : List (String × String)
deriving DecidableEq, Repr

namespace Service

/-- A service of which everything but the name follows the conventions. -/
def named (name : String) : Service :=
  ⟨name, none, none, none, none⟩

def withAlias (service : Service) (otherName : String) : Service :=
  { service with alias? := some otherName }

def directory (service : Service) : Path :=
  service.context?.getD ⟨"."⟩

/-- The build arguments given, or else the one that names the module. -/
def arguments (service : Service) : List (String × String) :=
  match service.buildArguments? with
  | some given => given.entries
  | none => [("MODULE", service.name)]

def buildContext (service : Service) : BuildContext where
  directory := service.directory
  dockerfile := service.directory.child (service.dockerfile?.getD "Dockerfile")
  arguments := service.arguments

def imageTag (service : Service) (registry : String) : String :=
  registry ++ "/" ++ service.name ++ ":latest"

/-- The manifest of the service in a directory of manifests. -/
def manifest (service : Service) (directory : Path) : Path :=
  directory.child (service.name ++ ".yaml")

end Service

end ClusterConsole
