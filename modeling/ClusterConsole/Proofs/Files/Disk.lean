import ClusterConsole.Procedure.Surroundings
import ClusterConsole.Proofs.Files.Changes
import ClusterConsole.Proofs.Procedure.Replies

/-!
# Disks

A disk has a file tree, but it need not do all that the tree would allow: any
request can be refused, for want of a permission, of room, or of luck.  What a
disk does promise is that a refused request changes nothing, except that
directories can be made in part.
-/

namespace ClusterConsole

theorem Path.exists_ancestors (path : Path) :
    ∃ outer, path.ancestors = path :: outer := by
  rw [ancestors]
  cases path.pieces.length with
  | zero => exact ⟨[], rfl⟩
  | succ count => exact ⟨_, rfl⟩

namespace FileTree

/-- The replies of a disk with a certain file tree, and the trees after them.
That there is no file to be read is only told when it is so. -/
inductive Serves (tree : FileTree) :
    (request : FileRequest) → request.Reply → FileTree → Prop where
  | granted (request : FileRequest) :
      tree.Serves request (tree.reply request).1 (tree.reply request).2
  | unread {path : Path} {cause : SystemError} (isOther : cause ≠ .notFound) :
      tree.Serves (.readText path) (.error cause) tree
  /-- The outermost directories may have been made before. -/
  | unmade {path : Path} {cause : SystemError} (left : Nat) :
      tree.Serves (.makeDirectories path) (.error cause)
        (makeNested (path.ancestors.drop left) tree).2
  | unstaged {directory : Path} {contents : String} {cause : SystemError} :
      tree.Serves (.stage directory contents) (.error cause) tree
  | unpromoted {staged : Location} {target : Path} {cause : SystemError} :
      tree.Serves (.promote staged target) (.error cause) tree

variable {tree after : FileTree}

/-! ## Reading and making directories -/

theorem Serves.readText {path : Path} {reply : Except SystemError String}
    (serves : tree.Serves (.readText path) reply after) :
    after = tree ∧ (reply = tree.readText path ∨
      ∃ cause, cause ≠ .notFound ∧ reply = .error cause) := by
  cases serves with
  | granted => exact ⟨rfl, .inl rfl⟩
  | unread isOther => exact ⟨rfl, .inr ⟨_, isOther, rfl⟩⟩

theorem Serves.makeDirectories {path : Path} {reply : Except SystemError Unit}
    (serves : tree.Serves (.makeDirectories path) reply after) :
    tree.Grows (fun location =>
      ∃ outer ∈ path.ancestors, after.locate outer = .ok location)
      after := by
  cases serves with
  | granted => exact grows_makeDirectories path tree
  | unmade left =>
      apply (grows_makeNested (path.ancestors.drop left) tree).mono
      rintro location ⟨outer, member, leads⟩
      exact ⟨outer, List.mem_of_mem_drop member, leads⟩

/-- Where there is a directory, none has to be made. -/
theorem makeDirectories_of_isDirectory {path : Path} {location : Location}
    (leads : tree.locate path = .ok location)
    (isDirectory : tree.node? location = some .directory) :
    tree.makeDirectories path = (.ok (), tree) := by
  have exists? : tree.makeDirectory path = .error .alreadyExists := by
    obtain ⟨names, isName, leads⟩ := locate_eq_ok_iff.mp leads
    obtain ⟨count, parts⟩ := exists_blanks names
    rw [parts] at leads
    obtain ⟨middle, follows, blanks⟩ := follow_append_eq_ok_iff.mp leads
    cases eq_of_follow_blanks blanks
    simp [makeDirectory, isName, follows, isDirectory, bind, Except.bind]
  have isThere : tree.isDirectory path = true := by
    simp [FileTree.isDirectory, lookup, leads, isDirectory, bind, Except.bind]
  have other : SystemError.alreadyExists ≠ SystemError.notFound := by decide
  rw [makeDirectories]
  split
  · rfl
  · obtain ⟨outer, ancestors⟩ := path.exists_ancestors
    simp [ancestors, makeNested, exists?, other, isThere]

theorem Serves.eq_of_isDirectory {path : Path}
    {reply : Except SystemError Unit} {location : Location}
    (serves : tree.Serves (.makeDirectories path) reply after)
    (makes : reply = .ok ()) (leads : tree.locate path = .ok location)
    (isDirectory : tree.node? location = some .directory) : after = tree := by
  cases serves with
  | granted =>
      have same := makeDirectories_of_isDirectory leads isDirectory
      exact congrArg Prod.snd same
  | unmade => cases makes

/-! ## Staging -/

theorem mem_of_find?_eq_some {location : Location}
    {node : Node} {nodes : List (Location × Node)}
    (found : find? location nodes = some node) :
    (location, node) ∈ nodes := by
  induction nodes with
  | nil => cases found
  | cons entry rest ih =>
      rw [find?] at found
      split at found
      · cases Option.some.inj found
        subst location
        exact .head _
      · exact .tail _ (ih found)

theorem le_foldl_max (numbers : List Nat) (first : Nat) :
    first ≤ numbers.foldl max first ∧
    ∀ number ∈ numbers, number ≤ numbers.foldl max first := by
  induction numbers generalizing first with
  | nil => simp
  | cons number rest ih =>
      obtain ⟨start, others⟩ := ih (max first number)
      refine ⟨(Nat.le_max_left _ _).trans start, fun other member => ?_⟩
      rcases List.mem_cons.mp member with rfl | later
      · exact (Nat.le_max_right _ _).trans start
      · exact others other later

/-- A staged file takes the place of nothing. -/
theorem node?_freshName (tree : FileTree) (location : Location) :
    tree.node? (location ++ [tree.freshName location]) = none := by
  rw [node?, if_neg (by simp)]
  cases found : find? (location ++ [tree.freshName location]) tree.nodes with
  | none => rfl
  | some node =>
      have isBelow :
          ([tree.freshName location], node) ∈ tree.below location := by
        refine List.mem_filterMap.mpr ⟨_, mem_of_find?_eq_some found, ?_⟩
        have isPrefix : location.isPrefixOf
            (location ++ [tree.freshName location]) = true :=
          List.isPrefixOf_iff_prefix.mpr (List.prefix_append _ _)
        simp [isPrefix]
      have short := (le_foldl_max ((tree.below location).map fun entry =>
        (entry.1.head?.getD "").length) 0).2 _ (List.mem_map_of_mem isBelow)
      have long : (tree.freshName location).length =
          ((tree.below location).map fun entry =>
            (entry.1.head?.getD "").length).foldl max 0 + 1 := by
        rw [freshName, String.length_ofList, List.length_cons,
          List.length_replicate]
      simp only [List.head?_cons, Option.getD_some, long] at short
      omega

theorem stage_eq_ok {directory : Path} {contents : String} {staged : Location}
    (stages : tree.stage directory contents = .ok (staged, after)) :
    tree.node? staged = none ∧
      after = tree.put staged (.file contents.toUTF8 0o600) ∧
      ∃ location, tree.locate directory = .ok location ∧
        tree.node? location = some .directory := by
  obtain ⟨location, leads, stages⟩ := bind_eq_ok_iff.mp stages
  split at stages
  · cases stages
  · cases stages
  · cases stages
  · rename_i isDirectory
    cases Except.ok.inj stages
    exact ⟨node?_freshName tree location, rfl, location, leads, isDirectory⟩

theorem stage_of_isDirectory {directory : Path} {location : Location}
    (contents : String) (leads : tree.locate directory = .ok location)
    (isDirectory : tree.node? location = some .directory) :
    ∃ staged, tree.stage directory contents =
      .ok (staged, tree.put staged (.file contents.toUTF8 0o600)) :=
  ⟨location ++ [tree.freshName location], by
    simp [stage, leads, isDirectory, bind, Except.bind]⟩

theorem Serves.stage {directory : Path} {contents : String}
    {reply : Except SystemError Location}
    (serves : tree.Serves (.stage directory contents) reply after) :
    (∃ cause, reply = .error cause ∧ after = tree) ∨
      ∃ staged, reply = .ok staged ∧
      tree.stage directory contents = .ok (staged, after) := by
  cases serves with
  | unstaged => exact .inl ⟨_, rfl, rfl⟩
  | granted =>
      rw [FileTree.reply]
      cases tree.stage directory contents with
      | error cause => exact .inl ⟨cause, rfl, rfl⟩
      | ok staged => exact .inr ⟨staged.1, rfl, rfl⟩

/-! ## Giving a staged file its path -/

theorem any_isDirectory_eq_false_iff {node? : Option Node} :
    node?.any Node.isDirectory = false ↔ node? ≠ some .directory := by
  cases node? with
  | none => simp
  | some node => cases node <;> simp [Node.isDirectory]

theorem eq_concat_of_dropWhile {names outer : List String} {last : String}
    (drops : names.reverse.dropWhile (· = "") = last :: outer)
    (noBlank : ¬names.reverse.head? = some "") :
    names = outer.reverse ++ [last] ∧ last ≠ "" := by
  cases reversed : names.reverse with
  | nil => simp [reversed] at drops
  | cons first rest =>
      rw [reversed] at drops noBlank
      have proper : first ≠ "" := by simpa using noBlank
      simp only [List.dropWhile_cons, proper, decide_false, Bool.false_eq_true,
        if_false, List.cons.injEq] at drops
      obtain ⟨rfl, rfl⟩ := drops
      exact ⟨by simpa using congrArg List.reverse reversed, proper⟩

theorem destination_eq_ok {target : Path} {location : Location}
    (goesTo : tree.destination target = .ok location) :
    ∃ outer last parent, names target = .ok (outer ++ [last]) ∧
      (last ≠ "" ∧ last ≠ "." ∧ last ≠ "..") ∧
      tree.follow (tree.start target) outer = .ok parent ∧
      tree.follow parent [last] = .ok location ∧
      tree.node? location ≠ some .directory := by
  obtain ⟨names, isName, goesTo⟩ := bind_eq_ok_iff.mp goesTo
  dsimp only at goesTo
  split at goesTo
  · cases goesTo
  rename_i last outer reversed
  obtain ⟨parent, inside, goesTo⟩ := bind_eq_ok_iff.mp goesTo
  split at goesTo
  · cases goesTo
  rename_i noDots
  obtain ⟨there, leads, goesTo⟩ := bind_eq_ok_iff.mp goesTo
  split at goesTo
  · cases goesTo
  rename_i noSlash
  split at goesTo
  · cases goesTo
  rename_i isFree
  cases Except.ok.inj goesTo
  obtain ⟨middle, follows, blank⟩ := follow_append_eq_ok_iff.mp inside
  replace blank : tree.follow middle (List.replicate 1 "") = .ok parent := blank
  cases eq_of_follow_blanks blank
  obtain ⟨rfl, proper⟩ := eq_concat_of_dropWhile reversed noSlash
  have noDirectory := any_isDirectory_eq_false_iff.mp (by simpa using isFree)
  exact ⟨outer.reverse, last, parent, isName, ⟨proper, not_or.mp noDots⟩,
    follows, leads, noDirectory⟩

/-- A path gives its file a proper name in a directory, where no directory has
that name. -/
theorem destination_eq_ok_iff {target : Path} {location : Location} :
    tree.destination target = .ok location ↔
      ∃ outer last parent, names target = .ok (outer ++ [last]) ∧
        (last ≠ "" ∧ last ≠ "." ∧ last ≠ "..") ∧
        tree.follow (tree.start target) outer = .ok parent ∧
        tree.follow parent [last] = .ok location ∧
        tree.node? location ≠ some .directory := by
  constructor
  · exact destination_eq_ok
  · rintro ⟨outer, last, parent, isName, ⟨proper, noDots⟩, follows, leads,
      noDirectory⟩
    obtain ⟨there, steps, -⟩ := follow_cons_eq_ok_iff.mp leads
    have blank := follow_blanks (node?_of_stepInto steps) 1
    have inside :
        tree.follow (tree.start target) (outer ++ [""]) = .ok parent :=
      follow_append_eq_ok_iff.mpr ⟨parent, follows, blank⟩
    have isFree := any_isDirectory_eq_false_iff.mpr noDirectory
    simp [destination, isName, proper, noDots, inside, leads, isFree, bind,
      Except.bind]

theorem Keeps.destination {between : FileTree} {target : Path}
    {location : Location} (keeps : tree.Keeps between)
    (goesTo : tree.destination target = .ok location)
    (isFree : between.node? location ≠ some .directory) :
    between.destination target = .ok location := by
  obtain ⟨outer, last, parent, parts, proper, follows, leads, -⟩ :=
    destination_eq_ok_iff.mp goesTo
  refine destination_eq_ok_iff.mpr ⟨outer, last, parent, parts, proper, ?_,
    ?_, isFree⟩
  · rw [keeps.start]
    exact keeps.follow follows
  · exact keeps.follow leads

theorem locate_of_destination {target : Path} {location : Location}
    (goesTo : tree.destination target = .ok location) :
    tree.locate target = .ok location := by
  obtain ⟨outer, last, parent, parts, -, follows, leads, -⟩ :=
    destination_eq_ok_iff.mp goesTo
  have through := follow_append_eq_ok_iff.mpr ⟨parent, follows, leads⟩
  exact locate_eq_ok_iff.mpr ⟨outer ++ [last], parts, through⟩

theorem promote_eq_ok_iff {staged : Location} {target : Path} :
    tree.promote staged target = .ok after ↔
      '\x00' ∉ target.text.toList ∧ ∃ contents mode location,
        tree.node? staged = some (.file contents mode) ∧
        tree.destination target = .ok location ∧
        after = (tree.erase staged).put location (.file contents mode) := by
  rw [promote]
  constructor
  · intro promotes
    split at promotes
    · cases promotes
    rename_i noNul
    split at promotes
    · rename_i contents mode found
      obtain ⟨location, goesTo, puts⟩ := bind_eq_ok_iff.mp promotes
      exact ⟨noNul, contents, mode, location, found, goesTo,
        (Except.ok.inj puts).symm⟩
    · cases promotes
  · rintro ⟨noNul, contents, mode, location, found, goesTo, rfl⟩
    simp [noNul, found, goesTo, bind, Except.bind]

theorem Serves.promote {staged : Location}
    {target : Path} {reply : Except SystemError Unit}
    (serves : tree.Serves (.promote staged target) reply after) :
    (∃ cause, reply = .error cause ∧ after = tree) ∨
      reply = .ok () ∧ tree.promote staged target = .ok after := by
  cases serves with
  | unpromoted => exact .inl ⟨_, rfl, rfl⟩
  | granted =>
      rw [FileTree.reply]
      cases tree.promote staged target with
      | error cause => exact .inl ⟨cause, rfl, rfl⟩
      | ok tree => exact .inr ⟨rfl, rfl⟩

theorem Serves.discard {staged : Location} {reply : Unit}
    (serves : tree.Serves (.discard staged) reply after) :
    after = tree.erase staged := by
  cases serves with
  | granted => rfl

/-! ## Replacing a file -/

/-- A file has new contents, and nothing else has changed. -/
structure Replaced (target : Path) (contents : String) (location : Location)
    (before after : FileTree) : Prop where
  leads : after.locate target = .ok location
  holds : after.node? location = some (.file contents.toUTF8 0o600)
  others : ∀ other, location ≠ other → after.node? other = before.node? other
  keeps : before.Keeps after

section Staged

variable {between : FileTree} {directory target : Path} {contents : String}
  {staged : Location}

theorem keeps_of_stage
    (stages : tree.stage directory contents = .ok (staged, between)) :
    tree.Keeps between := by
  obtain ⟨missing, rfl, -⟩ := stage_eq_ok stages
  exact keeps_put (by simp [missing])

theorem keeps_of_promote (promotes : tree.promote staged target = .ok after) :
    tree.Keeps after := by
  obtain ⟨-, _, _, location, found, goesTo, rfl⟩ :=
    promote_eq_ok_iff.mp promotes
  obtain ⟨_, _, _, -, -, -, -, isFree⟩ := destination_eq_ok_iff.mp goesTo
  have erases : tree.Keeps (tree.erase staged) := keeps_erase (by simp [found])
  refine erases.trans (keeps_put ?_)
  by_cases same : staged = location
  · subst same
    rw [node?_erase, if_pos rfl]
    · simp
    · rintro rfl
      exact isFree (node?_root tree)
  · rwa [node?_erase_of_ne same]

theorem replaced_of_promote
    (stages : tree.stage directory contents = .ok (staged, between))
    (promotes : between.promote staged target = .ok after) :
    ∃ location, Replaced target contents location tree after := by
  have keepsAll := (keeps_of_stage stages).trans (keeps_of_promote promotes)
  obtain ⟨missing, rfl, -⟩ := stage_eq_ok stages
  have keepsLate := keeps_of_promote promotes
  obtain ⟨-, _, _, location, found, goesTo, rfl⟩ :=
    promote_eq_ok_iff.mp promotes
  have isFile :=
    found.symm.trans (node?_put_self (ne_root_of_node?_eq_none missing))
  have below : location ≠ [] := by
    rintro rfl
    obtain ⟨_, _, _, -, -, -, -, isFree⟩ := destination_eq_ok_iff.mp goesTo
    exact isFree (node?_root _)
  refine ⟨location, keepsLate.locate (locate_of_destination goesTo), ?_, ?_,
    keepsAll⟩
  · rw [node?_put_self below, isFile]
  · intro other isOther
    rw [node?_put_of_ne isOther]
    by_cases same : staged = other
    · subst same
      rw [node?_erase (ne_root_of_node?_eq_none missing), if_pos rfl, missing]
    · rw [node?_erase_of_ne same, node?_put_of_ne same]

theorem node?_discard
    (stages : tree.stage directory contents = .ok (staged, between))
    (other : Location) :
    (between.erase staged).node? other = tree.node? other := by
  obtain ⟨missing, rfl, -⟩ := stage_eq_ok stages
  by_cases same : staged = other
  · subst same
    rw [node?_erase (ne_root_of_node?_eq_none missing), if_pos rfl, missing]
  · rw [node?_erase_of_ne same, node?_put_of_ne same]

/-- A path that was given to a file can be given to another one in its place. -/
theorem exists_promote_again {later : FileTree}
    {again : Location} {directory' : Path} {contents' : String}
    (promotes : tree.promote staged target = .ok after)
    (stages : after.stage directory' contents' = .ok (again, later)) :
    ∃ last, later.promote again target = .ok last := by
  have keeps := (keeps_of_promote promotes).trans (keeps_of_stage stages)
  obtain ⟨noNul, contents, mode, location, found, goesTo, rfl⟩ :=
    promote_eq_ok_iff.mp promotes
  have below : location ≠ [] := by
    rintro rfl
    obtain ⟨_, _, _, -, -, -, -, isFree⟩ := destination_eq_ok_iff.mp goesTo
    exact isFree (node?_root _)
  have isFile :
      ((tree.erase staged).put location (.file contents mode)).node? location =
      some (.file contents mode) := node?_put_self below
  obtain ⟨missing, rfl, -⟩ := stage_eq_ok stages
  have isOther : again ≠ location := by
    rintro rfl
    rw [isFile] at missing
    cases missing
  refine ⟨_, promote_eq_ok_iff.mpr ⟨noNul, _, _, location,
    node?_put_self (ne_root_of_node?_eq_none missing),
    keeps.destination goesTo ?_, rfl⟩⟩
  rw [node?_put_of_ne isOther, isFile]
  simp

end Staged

end FileTree

/-! ## Surroundings with a disk -/

/-- A disk in surroundings, whatever else there is in their state. -/
structure Disk (surroundings : Surroundings σ) where
  tree : σ → FileTree
  serves : ∀ request state, (tree state).Serves request
    (surroundings.reply (.file request) state).1
    (tree (surroundings.next (.file request) state))

namespace Disk

variable {surroundings : Surroundings σ}

/-- A disk that refuses nothing which its tree allows. -/
def GrantsAll (disk : Disk surroundings) : Prop :=
  ∀ request state,
    (surroundings.reply (.file request) state).1 =
      ((disk.tree state).reply request).1 ∧
      disk.tree (surroundings.next (.file request) state) =
        ((disk.tree state).reply request).2

/-- The file tree that replies in place of other surroundings. -/
def ofFiles (others : Surroundings σ) : Disk others.withFiles where
  tree := Prod.fst
  serves request _ := .granted request

theorem grantsAll_ofFiles (others : Surroundings σ) :
    (ofFiles others).GrantsAll :=
  fun _ _ => ⟨rfl, rfl⟩

end Disk

end ClusterConsole
