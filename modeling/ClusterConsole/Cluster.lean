import ClusterConsole.Path
import ClusterConsole.Text.Blank
import ClusterConsole.Text.Line

/-!
# The cluster

The console manages one cluster, known by its name.  Whether it exists is never
stored: it is read off the list of clusters whenever an operation depends on it.
-/

namespace ClusterConsole

/-- Whether a cluster exists. -/
inductive ClusterState where
  | absent
  | present
deriving DecidableEq, Repr

namespace ClusterState

def text : ClusterState → String
  | .absent => "absent"
  | .present => "present"

/-- The state of the cluster called `name`, given a list with one cluster on
each line.  Only a whole line counts, blanks around it aside. -/
def ofListing (name listing : String) : ClusterState :=
  if name ∈ (Text.lines listing).map Text.trim then .present else .absent

theorem ofListing_eq_present_iff {name listing : String} :
    ofListing name listing = .present ↔
      ∃ line ∈ Text.lines listing, Text.trim line = name := by
  simp [ofListing]

end ClusterState

end ClusterConsole
