import ClusterConsole.Cluster
import ClusterConsole.Proofs.Text.Lines

/-!
# Listings of clusters

A listing has the name of one cluster on each line.  Names have no blanks, so it
does not matter how the lines end, and a cluster exists exactly if its name is
among those listed.
-/

namespace ClusterConsole

/-- Whether a cluster can have a name: it is not empty and has no blanks. -/
def isClusterName (name : String) : Bool :=
  !name.toList.isEmpty && name.toList.all fun char => !Text.isBlank char

/-- The texts that have some names, in their order, one on each line. -/
inductive Prints : List String → List Char → Prop where
  | nothing : Prints [] []
  /-- The last line need not be ended. -/
  | unended {name : String} : Prints [name] name.toList
  | line {name : String} {names : List String} {ending text : List Char}
      (isEnding : ending = ['\n'] ∨ ending = ['\r', '\n'])
      (rest : Prints names text) :
      Prints (name :: names) (name.toList ++ ending ++ text)

section Names

variable {name : String} (isName : isClusterName name = true)
include isName

theorem isClusterName.not_blank :
    ∀ char ∈ name.toList, Text.isBlank char = false := by
  intro char member
  simp only [isClusterName, Bool.and_eq_true, List.all_eq_true] at isName
  simpa using isName.2 char member

theorem isClusterName.not_mem {char : Char}
    (isBlank : Text.isBlank char = true) :
    char ∉ name.toList := by
  intro member
  simp [isClusterName.not_blank isName char member] at isBlank

theorem isClusterName.ne_nil : name.toList ≠ [] := by
  intro empty
  simp [isClusterName, empty] at isName

theorem isClusterName.trim_eq : Text.trim name = name := by
  rw [Text.trim, Text.trimChars_of_no_blank (isClusterName.not_blank isName),
    String.ofList_toList]

end Names

theorem Prints.charLines_eq {names : List String}
    {text : List Char} (prints : Prints names text)
    (areNames : ∀ name ∈ names, isClusterName name = true) :
    Text.charLines text = names.map String.toList := by
  induction prints with
  | nothing => rfl
  | @unended name =>
      have isName := areNames name List.mem_cons_self
      exact Text.charLines_unended (isClusterName.not_mem isName rfl)
        (isClusterName.ne_nil isName)
  | @line name names ending text isEnding rest ih =>
      have isName := areNames name List.mem_cons_self
      have noFeed : '\n' ∉ name.toList := isClusterName.not_mem isName rfl
      have noReturn : '\r' ∉ name.toList := isClusterName.not_mem isName rfl
      have later :=
        ih fun other member => areNames other (List.mem_cons_of_mem _ member)
      rcases isEnding with rfl | rfl
      · have split := Text.charLines_line noFeed text
        rw [Text.dropCarriageReturn_of_not_mem noReturn, later] at split
        simpa using split
      · have noFeedThen : '\n' ∉ name.toList ++ ['\r'] := by simpa using noFeed
        have split := Text.charLines_line noFeedThen text
        rw [Text.dropCarriageReturn_append, later] at split
        simpa using split

/-- What is read off a listing is whether it has the name. -/
theorem Prints.ofListing_eq_present_iff {names : List String} {listing : String}
    (prints : Prints names listing.toList)
    (areNames : ∀ name ∈ names, isClusterName name = true) (name : String) :
    ClusterState.ofListing name listing = .present ↔ name ∈ names := by
  have lines : Text.lines listing = names := by
    simp [Text.lines, prints.charLines_eq areNames]
  rw [ClusterState.ofListing_eq_present_iff, lines]
  constructor
  · rintro ⟨line, isLine, rfl⟩
    rwa [isClusterName.trim_eq (areNames line isLine)]
  · intro member
    exact ⟨name, member, isClusterName.trim_eq (areNames name member)⟩

end ClusterConsole
