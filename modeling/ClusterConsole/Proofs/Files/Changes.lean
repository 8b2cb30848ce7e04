import Mathlib.Data.List.TakeWhile
import ClusterConsole.Files.Tree
import ClusterConsole.Proofs.Procedure.Ensures

/-!
# What changes leave as it is

Making directories, staging a file and giving it its path each change what is at
one location.  A path that leads somewhere through directories still leads there
as long as these directories stay, so whatever is not changed itself is found
where it was.
-/

namespace ClusterConsole

namespace FileTree

variable {tree before between after : FileTree}
  {here there location other : Location}
  {names : List String} {path : Path}

/-! ## Single locations -/

theorem node?_root (tree : FileTree) : tree.node? [] = some .directory := rfl

theorem node?_put_self {node : Node} (below : location ≠ []) :
    (tree.put location node).node? location = some node := by
  rw [node?_put below, if_pos rfl]

theorem node?_put_of_ne {node : Node} (isOther : location ≠ other) :
    (tree.put location node).node? other = tree.node? other := by
  by_cases root : other = []
  · subst root
    rfl
  · rw [node?_put root, if_neg isOther]

theorem node?_erase_of_ne (isOther : location ≠ other) :
    (tree.erase location).node? other = tree.node? other := by
  by_cases root : other = []
  · subst root
    rfl
  · rw [node?_erase root, if_neg isOther]

theorem ne_root_of_node?_eq_none (missing : tree.node? location = none) :
    location ≠ [] := by
  rintro rfl
  cases missing

/-! ## Paths that still lead somewhere -/

def stepInto (tree : FileTree) (here : Location) (name : String) :
    Except SystemError Location :=
  match tree.node? here with
  | none => .error .notFound
  | some (.file _ _) => .error .notADirectory
  | some .device => .error .notADirectory
  | some .directory =>
    if name = "" ∨ name = "." then .ok here
    else if name = ".." then .ok here.dropLast
    else if nameLimit < name.utf8ByteSize then .error .nameTooLong
    else .ok (here ++ [name])

theorem follow_cons (tree : FileTree) (here : Location) (name : String)
    (rest : List String) :
    tree.follow here (name :: rest) =
      tree.stepInto here name >>= fun there => tree.follow there rest := by
  rw [follow, stepInto]
  cases tree.node? here with
  | none => rfl
  | some node =>
      cases node with
      | file => rfl
      | device => rfl
      | directory =>
          simp only
          split
          · rfl
          · split
            · rfl
            · split
              · rfl
              · rfl

theorem follow_cons_eq_ok_iff {name : String} {rest : List String} :
    tree.follow here (name :: rest) = .ok there ↔
      ∃ middle, tree.stepInto here name = .ok middle ∧
      tree.follow middle rest = .ok there := by
  rw [follow_cons]
  exact bind_eq_ok_iff

theorem follow_append_eq_ok_iff {first second : List String} :
    tree.follow here (first ++ second) = .ok there ↔
      ∃ middle, tree.follow here first = .ok middle ∧
      tree.follow middle second = .ok there := by
  induction first generalizing here with
  | nil => simp [follow]
  | cons name rest ih =>
      rw [List.cons_append, follow_cons_eq_ok_iff]
      constructor
      · rintro ⟨next, steps, follows⟩
        obtain ⟨middle, early, late⟩ := ih.mp follows
        exact ⟨middle, follow_cons_eq_ok_iff.mpr ⟨next, steps, early⟩, late⟩
      · rintro ⟨middle, follows, late⟩
        obtain ⟨next, steps, early⟩ := follow_cons_eq_ok_iff.mp follows
        exact ⟨next, steps, ih.mpr ⟨middle, early, late⟩⟩

theorem locate_eq_ok_iff :
    tree.locate path = .ok location ↔
      ∃ names, FileTree.names path = .ok names ∧
        tree.follow (tree.start path) names = .ok location :=
  bind_eq_ok_iff

theorem lookup_eq_ok_iff {node : Node} :
    tree.lookup path = .ok node ↔
      ∃ location, tree.locate path = .ok location ∧
      tree.node? location = some node := by
  refine bind_eq_ok_iff.trans (exists_congr fun location =>
    and_congr_right fun _ => ?_)
  cases tree.node? location with
  | none => simp
  | some own => simp

theorem node?_of_stepInto {name : String}
    (steps : tree.stepInto here name = .ok there) :
    tree.node? here = some .directory := by
  rw [stepInto] at steps
  split at steps
  · cases steps
  · cases steps
  · cases steps
  · assumption

theorem stepInto_blank :
    tree.stepInto here "" = .ok there ↔ tree.node? here = some .directory ∧
    here = there := by
  constructor
  · intro steps
    have isDirectory := node?_of_stepInto steps
    refine ⟨isDirectory, ?_⟩
    simpa [stepInto, isDirectory] using steps
  · rintro ⟨isDirectory, rfl⟩
    simp [stepInto, isDirectory]

/-- Slashes at the end of a path lead nowhere else. -/
theorem eq_of_follow_blanks {count : Nat}
    (follows : tree.follow here (List.replicate count "") = .ok there) :
    here = there := by
  induction count with
  | zero => exact Except.ok.inj follows
  | succ count ih =>
      obtain ⟨middle, steps, rest⟩ := follow_cons_eq_ok_iff.mp follows
      obtain ⟨-, rfl⟩ := stepInto_blank.mp steps
      exact ih rest

theorem follow_blanks (isDirectory : tree.node? here = some .directory)
    (count : Nat) :
    tree.follow here (List.replicate count "") = .ok here := by
  induction count with
  | zero => rfl
  | succ count ih =>
      have stays := stepInto_blank.mpr ⟨isDirectory, rfl⟩
      exact follow_cons_eq_ok_iff.mpr ⟨here, stays, ih⟩

/-- Relative paths start from the same place, and no directory is lost. -/
structure Keeps (before after : FileTree) : Prop where
  working : after.working = before.working
  directories : ∀ location, before.node? location = some .directory →
    after.node? location = some .directory

namespace Keeps

theorem trans (early : before.Keeps between) (late : between.Keeps after) :
    before.Keeps after :=
  ⟨late.working.trans early.working, fun location isDirectory =>
    late.directories location (early.directories location isDirectory)⟩

theorem stepInto (keeps : before.Keeps after) {name : String}
    (steps : before.stepInto here name = .ok there) :
    after.stepInto here name = .ok there := by
  have isDirectory := node?_of_stepInto steps
  rw [FileTree.stepInto, isDirectory] at steps
  rw [FileTree.stepInto, keeps.directories here isDirectory]
  exact steps

theorem follow (keeps : before.Keeps after)
    (follows : before.follow here names = .ok there) :
    after.follow here names = .ok there := by
  induction names generalizing here with
  | nil => exact follows
  | cons name rest ih =>
      obtain ⟨middle, steps, rest⟩ := follow_cons_eq_ok_iff.mp follows
      exact follow_cons_eq_ok_iff.mpr ⟨middle, keeps.stepInto steps, ih rest⟩

theorem start (keeps : before.Keeps after) (path : Path) :
    after.start path = before.start path := by
  rw [FileTree.start, FileTree.start, keeps.working]

theorem locate (keeps : before.Keeps after)
    (leads : before.locate path = .ok location) :
    after.locate path = .ok location := by
  obtain ⟨names, isName, follows⟩ := locate_eq_ok_iff.mp leads
  refine locate_eq_ok_iff.mpr ⟨names, isName, ?_⟩
  rw [keeps.start path]
  exact keeps.follow follows

end Keeps

theorem keeps_put {node : Node}
    (noDirectory : tree.node? location ≠ some .directory) :
    tree.Keeps (tree.put location node) := by
  refine ⟨rfl, fun other isDirectory => ?_⟩
  rw [node?_put_of_ne]
  · exact isDirectory
  · rintro rfl
    exact noDirectory isDirectory

theorem keeps_erase (noDirectory : tree.node? location ≠ some .directory) :
    tree.Keeps (tree.erase location) := by
  refine ⟨rfl, fun other isDirectory => ?_⟩
  rw [node?_erase_of_ne]
  · exact isDirectory
  · rintro rfl
    exact noDirectory isDirectory

/-! ## Directories that are made -/

/-- Nothing has changed, but directories were made at `places` where there was
nothing. -/
structure Grows (places : Location → Prop) (before after : FileTree) :
    Prop where
  working : after.working = before.working
  nodes : ∀ location, after.node? location = before.node? location ∨
    before.node? location = none ∧ after.node? location = some .directory ∧
    places location

namespace Grows

variable {places : Location → Prop}

theorem refl (tree : FileTree) :
    tree.Grows places tree := ⟨rfl, fun _ => .inl rfl⟩

theorem keeps (grows : before.Grows places after) : before.Keeps after := by
  refine ⟨grows.working, fun location isDirectory => ?_⟩
  rcases grows.nodes location with same | ⟨missing, -, -⟩
  · rw [same, isDirectory]
  · rw [missing] at isDirectory
    cases isDirectory

theorem mono {wider : Location → Prop} (grows : before.Grows places after)
    (widens : ∀ location, places location → wider location) :
    before.Grows wider after := by
  refine ⟨grows.working, fun location => ?_⟩
  rcases grows.nodes location with same | ⟨missing, made, isPlace⟩
  · exact .inl same
  · exact .inr ⟨missing, made, widens location isPlace⟩

theorem trans (early : before.Grows places between)
    (late : between.Grows places after) :
    before.Grows places after := by
  refine ⟨late.working.trans early.working, fun location => ?_⟩
  rcases early.nodes location with same | ⟨missing, made, isPlace⟩
  · rcases late.nodes location with again | ⟨absent, made, isPlace⟩
    · exact .inl (again.trans same)
    · exact .inr ⟨same.symm.trans absent, made, isPlace⟩
  · exact .inr ⟨missing, late.keeps.directories location made, isPlace⟩

end Grows

/-- A path without the slashes at its end, and those slashes. -/
theorem exists_blanks (names : List String) :
    ∃ count, names = (names.reverse.dropWhile (· = "")).reverse ++
      List.replicate count "" := by
  refine ⟨(names.reverse.takeWhile (· = "")).length, ?_⟩
  have blanks : names.reverse.takeWhile (· = "") =
      List.replicate (names.reverse.takeWhile (· = "")).length "" := by
    apply List.eq_replicate_iff.mpr
    refine ⟨rfl, fun name member => ?_⟩
    simpa using List.mem_takeWhile_imp member
  have parts := congrArg List.reverse
    (List.takeWhile_append_dropWhile (p := (· = "")) (l := names.reverse))
  rw [List.reverse_append, List.reverse_reverse, blanks, List.reverse_replicate]
    at parts
  simpa using parts.symm

theorem makeDirectory_eq_ok (makes : tree.makeDirectory path = .ok after) :
    ∃ location, tree.node? location = none ∧
      after = tree.put location .directory ∧
      after.locate path = .ok location := by
  obtain ⟨names, isName, makes⟩ := bind_eq_ok_iff.mp makes
  obtain ⟨location, follows, makes⟩ := bind_eq_ok_iff.mp makes
  cases missing : tree.node? location with
  | some node => simp [missing] at makes
  | none =>
      simp only [missing, Except.ok.injEq] at makes
      subst makes
      refine ⟨location, missing, rfl, locate_eq_ok_iff.mpr ⟨names, isName, ?_⟩⟩
      have keeps : tree.Keeps (tree.put location .directory) :=
        keeps_put (by simp [missing])
      obtain ⟨count, parts⟩ := exists_blanks names
      rw [keeps.start, parts]
      refine follow_append_eq_ok_iff.mpr ⟨location, keeps.follow follows, ?_⟩
      exact follow_blanks
        (node?_put_self (ne_root_of_node?_eq_none missing)) count

/-- A directory that is made is one that its path leads to from then on. -/
theorem grows_of_makeDirectory (makes : tree.makeDirectory path = .ok after) :
    tree.Grows (fun location => after.locate path = .ok location) after := by
  obtain ⟨location, missing, rfl, leads⟩ := makeDirectory_eq_ok makes
  refine ⟨rfl, fun other => ?_⟩
  by_cases same : location = other
  · subst same
    exact .inr ⟨missing, node?_put_self (ne_root_of_node?_eq_none missing),
      leads⟩
  · exact .inl (node?_put_of_ne same)

/-- Whether or not all directories could be made, those that were made are among
the ones that were asked for. -/
theorem grows_makeNested (paths : List Path) (tree : FileTree) :
    tree.Grows
      (fun location => ∃ path ∈ paths,
        (makeNested paths tree).2.locate path = .ok location)
      (makeNested paths tree).2 := by
  induction paths with
  | nil => exact .refl tree
  | cons path outer ih =>
      rw [makeNested]
      cases makes : tree.makeDirectory path with
      | ok made =>
          exact (grows_of_makeDirectory makes).mono fun location leads =>
            ⟨path, .head _, leads⟩
      | error cause =>
          simp only
          split
          · rcases nested : makeNested outer tree with ⟨outerResult, between⟩
            rw [nested] at ih
            have widened : tree.Grows
                (fun location => ∃ path' ∈ path :: outer,
                  between.locate path' = .ok location)
                between :=
              ih.mono fun location ⟨outerPath, member, leads⟩ =>
                ⟨outerPath, .tail _ member, leads⟩
            cases outerResult with
            | error cause => exact widened
            | ok =>
                simp only
                cases again : between.makeDirectory path with
                | error cause => exact widened
                | ok made =>
                    have last := grows_of_makeDirectory again
                    have early : tree.Grows
                        (fun location => ∃ path' ∈ path :: outer,
                          made.locate path' = .ok location)
                        between :=
                      ih.mono fun location ⟨outerPath, member, leads⟩ =>
                        ⟨outerPath, .tail _ member, last.keeps.locate leads⟩
                    exact early.trans (last.mono fun location leads =>
                      ⟨path, .head _, leads⟩)
          · exact .refl tree

theorem grows_makeDirectories (path : Path) (tree : FileTree) :
    tree.Grows
      (fun location => ∃ outer ∈ path.ancestors,
        (tree.makeDirectories path).2.locate outer = .ok location)
      (tree.makeDirectories path).2 := by
  rw [makeDirectories]
  split
  · exact .refl tree
  · exact grows_makeNested path.ancestors tree

end FileTree

end ClusterConsole
