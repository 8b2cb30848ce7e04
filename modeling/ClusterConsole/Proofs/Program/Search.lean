import Mathlib.Data.Nat.Bitwise
import Mathlib.Tactic.IntervalCases
import ClusterConsole.Program.Search
import ClusterConsole.Proofs.Files.Changes
import ClusterConsole.Proofs.Text.Lines

/-!
# How a program is found

A program is looked up directly if its name has more than one component, and
otherwise in the directories of the search path.  It makes no difference that
this is not the same as having a slash in the name: a name with a slash and a
single component ends at a directory, and no program has such a name, wherever
it is looked for.
-/

namespace ClusterConsole

namespace Path

/-! ## Slashes and components -/

section Components

variable {path : Path}

theorem innerComponent_eq_none_iff {piece : List Char} :
    innerComponent piece = none ↔ piece = [] ∨ piece = ['.'] := by
  unfold innerComponent
  split <;> simp_all

theorem pieces_of_no_slash (noSlash : '/' ∉ path.text.toList) :
    path.pieces = [path.text.toList] :=
  List.splitOn_eq_singleton noSlash

/-- The pieces up to the last slash, and the one after it. -/
theorem pieces_of_slash {front last : List Char}
    (split : path.text.toList = front ++ '/' :: last) (noSlash : '/' ∉ last) :
    path.pieces = front.splitOn '/' ++ [last] := by
  rw [pieces, split, List.splitOn_append_cons_self,
    List.splitOn_eq_singleton noSlash]

theorem exists_last_slash {chars : List Char} (slash : '/' ∈ chars) :
    ∃ front last, chars = front ++ '/' :: last ∧ '/' ∉ last := by
  obtain ⟨last, front, split, noSlash⟩ :=
    List.eq_append_cons_of_mem (List.mem_reverse.mpr slash)
  refine ⟨front.reverse, last.reverse, ?_, by simpa using noSlash⟩
  rw [← List.reverse_reverse chars, split]
  simp

theorem isAbsolute_of_pieces {piece : List Char} {rest : List (List Char)}
    (pieces : path.pieces = [] :: piece :: rest) : path.isAbsolute = true := by
  have joined : ['/'].intercalate path.pieces = path.text.toList :=
    List.intercalate_splitOn '/'
  rw [pieces] at joined
  rw [isAbsolute, ← joined]
  simp [List.intercalate]

theorem length_components_of_no_slash (noSlash : '/' ∉ path.text.toList) :
    path.components.length ≤ 1 := by
  unfold components
  split
  · rename_i rest isFirst
    rw [pieces_of_no_slash noSlash, List.cons.injEq] at isFirst
    obtain ⟨blank, rfl⟩ := isFirst
    simp [isAbsolute, blank]
  · rename_i rest isFirst
    rw [pieces_of_no_slash noSlash, List.cons.injEq] at isFirst
    obtain ⟨-, rfl⟩ := isFirst
    simp
  · rw [pieces_of_no_slash noSlash]
    exact List.length_filterMap_le ..

/-- The first piece of a path with a slash is a component, whatever it is. -/
theorem length_components_of_pieces {first second : List Char}
    {rest : List (List Char)} (pieces : path.pieces = first :: second :: rest) :
    path.components.length =
      ((second :: rest).filterMap innerComponent).length + 1 := by
  unfold components
  split
  · rename_i others isFirst
    rw [pieces, List.cons.injEq] at isFirst
    obtain ⟨rfl, rfl⟩ := isFirst
    simp [isAbsolute_of_pieces pieces]
  · rename_i others isFirst
    rw [pieces, List.cons.injEq] at isFirst
    obtain ⟨rfl, rfl⟩ := isFirst
    simp
  · rename_i notBlank notDot
    have isComponent : innerComponent first ≠ none := by
      rw [ne_eq, innerComponent_eq_none_iff, not_or]
      exact ⟨fun blank => notBlank _ (blank ▸ pieces),
        fun dot => notDot _ (dot ▸ pieces)⟩
    obtain ⟨component, isSome⟩ := Option.ne_none_iff_exists'.mp isComponent
    rw [pieces, List.filterMap_cons_some isSome, List.length_cons]

theorem namesDirectory_iff {front last : List Char}
    (split : path.text.toList = front ++ '/' :: last) (noSlash : '/' ∉ last) :
    path.namesDirectory = true ↔ last = [] ∨ last = ['.'] := by
  rw [namesDirectory, pieces_of_slash split noSlash, List.reverse_concat]
  cases pieces : (front.splitOn '/').reverse with
  | nil =>
    exact absurd (List.reverse_eq_nil_iff.mp pieces)
      (List.splitOn_ne_nil '/' front)
  | cons piece rest => simp

/-- A path with a slash and a single component ends in a slash, or in a dot
after one. -/
theorem namesDirectory_of_slash (slash : '/' ∈ path.text.toList)
    (single : path.components.length ≤ 1) : path.namesDirectory = true := by
  obtain ⟨front, last, split, noSlash⟩ := exists_last_slash slash
  rw [namesDirectory_iff split noSlash, ← innerComponent_eq_none_iff]
  have pieces := pieces_of_slash split noSlash
  obtain ⟨first, rest, atFront⟩ :=
    List.exists_cons_of_ne_nil (List.splitOn_ne_nil '/' front)
  obtain ⟨second, others, afterFirst⟩ :=
    List.exists_cons_of_ne_nil
      (List.append_ne_nil_of_right_ne_nil rest (List.cons_ne_nil last []))
  rw [atFront, List.cons_append, afterFirst] at pieces
  rw [length_components_of_pieces pieces, ← afterFirst] at single
  have noOther : (rest ++ [last]).filterMap innerComponent = [] :=
    List.length_eq_zero_iff.mp (by omega)
  exact List.filterMap_eq_nil_iff.mp noOther last (by simp)

/-- The last slash of a name is the last one of each path that ends in this
name. -/
theorem namesDirectory_child {directory : Path} {program : String}
    (slash : '/' ∈ program.toList) (ends : namesDirectory ⟨program⟩ = true) :
    (directory.child program).namesDirectory = true := by
  obtain ⟨front, last, split, noSlash⟩ := exists_last_slash slash
  have idle := (namesDirectory_iff split noSlash).mp ends
  rw [child, join]
  split
  · exact ends
  · have whole : (directory.text ++ directory.separator ++ program).toList =
        directory.text.toList ++ directory.separator.toList ++ front ++
          '/' :: last := by
      simp [split]
    exact (namesDirectory_iff whole noSlash).mpr idle

end Components

end Path

namespace FileTree

/-! ## Files that can be run -/

section Programs

variable {tree : FileTree} {here there : Location} {path : Path}

theorem node?_of_stepInto_idle {name : String} (idle : name = "" ∨ name = ".")
    (steps : tree.stepInto here name = .ok there) :
    tree.node? there = some .directory := by
  have isDirectory := node?_of_stepInto steps
  rw [stepInto, isDirectory] at steps
  simp only [idle, if_true, Except.ok.injEq] at steps
  rw [← steps, isDirectory]

theorem names_eq_ok {names : List String}
    (isNames : FileTree.names path = .ok names) :
    names = path.pieces.map String.ofList := by
  rw [FileTree.names] at isNames
  split at isNames
  · cases isNames
  · split at isNames
    · cases isNames
    · split at isNames
      · cases isNames
      · exact (Except.ok.inj isNames).symm

/-- A path that ends in a slash, or in a dot after one, leads to a directory if
anywhere. -/
theorem node?_of_namesDirectory (slash : '/' ∈ path.text.toList)
    (ends : path.namesDirectory = true) (leads : tree.locate path = .ok there) :
    tree.node? there = some .directory := by
  obtain ⟨front, last, split, noSlash⟩ := Path.exists_last_slash slash
  obtain ⟨names, isNames, follows⟩ := locate_eq_ok_iff.mp leads
  rw [names_eq_ok isNames, Path.pieces_of_slash split noSlash, List.map_append,
    follow_append_eq_ok_iff] at follows
  obtain ⟨middle, -, follows⟩ := follows
  obtain ⟨end_, steps, stays⟩ := follow_cons_eq_ok_iff.mp follows
  cases Except.ok.inj stays
  apply node?_of_stepInto_idle _ steps
  rcases (Path.namesDirectory_iff split noSlash).mp ends with rfl | rfl
  · exact .inl rfl
  · exact .inr rfl

def LeadsToFile (tree : FileTree) (path : Path) (mode : Nat) : Prop :=
  ∃ location contents, tree.locate path = .ok location ∧
    tree.node? location = some (.file contents mode)

/-- A path leads to a regular file that its owner, its group or others may
run. -/
def LeadsToProgram (tree : FileTree) (path : Path) : Prop :=
  ∃ mode, tree.LeadsToFile path mode ∧
    (mode.testBit 6 = true ∨ mode.testBit 3 = true ∨ mode.testBit 0 = true)

theorem testBit_executeBits {bit : Nat} :
    Nat.testBit 0o111 bit = true ↔ bit = 6 ∨ bit = 3 ∨ bit = 0 := by
  by_cases small : bit < 7
  · interval_cases bit <;> decide
  · have zero : Nat.testBit 0o111 bit = false :=
      Nat.testBit_lt_two_pow (Nat.lt_of_lt_of_le (by decide : 0o111 < 2 ^ 7)
        (Nat.pow_le_pow_right (by decide) (by omega)))
    simp only [zero, Bool.false_eq_true, false_iff]
    omega

theorem and_executeBits_ne_zero_iff {mode : Nat} :
    mode &&& 0o111 ≠ 0 ↔
      mode.testBit 6 = true ∨ mode.testBit 3 = true ∨
      mode.testBit 0 = true := by
  constructor
  · intro some
    obtain ⟨bit, isSet⟩ := Nat.exists_testBit_of_ne_zero some
    rw [Nat.testBit_and, Bool.and_eq_true, testBit_executeBits] at isSet
    obtain ⟨isSet, rfl | rfl | rfl⟩ := isSet
    · exact .inl isSet
    · exact .inr (.inl isSet)
    · exact .inr (.inr isSet)
  · intro isSet none
    have noBit {bit : Nat} (executes : bit = 6 ∨ bit = 3 ∨ bit = 0) :
        mode.testBit bit = false := by
      have both := Nat.testBit_and mode 0o111 bit
      rwa [none, Nat.zero_testBit, testBit_executeBits.mpr executes,
        Bool.and_true, eq_comm] at both
    rcases isSet with isSet | isSet | isSet
    · simp [noBit] at isSet
    · simp [noBit] at isSet
    · simp [noBit] at isSet

theorem isProgram_iff :
    tree.isProgram path = true ↔ tree.LeadsToProgram path := by
  have bits {mode : Nat} := @and_executeBits_ne_zero_iff mode
  constructor
  · intro isProgram
    rw [FileTree.isProgram] at isProgram
    split at isProgram
    · rename_i contents mode found
      obtain ⟨location, leads, isFile⟩ := lookup_eq_ok_iff.mp found
      exact ⟨mode, ⟨location, contents, leads, isFile⟩,
        bits.mp (by simpa using isProgram)⟩
    · cases isProgram
  · intro leadsToProgram
    obtain ⟨mode, ⟨location, contents, leads, isFile⟩, isSet⟩ := leadsToProgram
    rw [FileTree.isProgram, lookup_eq_ok_iff.mpr ⟨location, leads, isFile⟩]
    simpa using bits.mpr isSet

theorem not_leadsToFile_of_namesDirectory {mode : Nat}
    (slash : '/' ∈ path.text.toList) (ends : path.namesDirectory = true) :
    ¬ tree.LeadsToFile path mode := by
  intro leadsToFile
  obtain ⟨location, contents, leads, isFile⟩ := leadsToFile
  rw [node?_of_namesDirectory slash ends leads] at isFile
  cases isFile

end Programs

/-! ## The search path -/

/-- The directories that a search path consists of, with a colon between each
two of them. -/
structure Lists (search : String) (directories : List Path) : Prop where
  notEmpty : directories ≠ []
  noColon : ∀ directory ∈ directories, ':' ∉ directory.text.toList
  joined :
    [':'].intercalate (directories.map fun directory => directory.text.toList) =
    search.toList

section Search

variable {files : FileTree} {search : String} {search? : Option String}
  {program : String}
  {directories : List Path}

theorem map_searchDirectories (search : String) :
    ((searchDirectories search).map fun directory => directory.text.toList) =
      search.toList.splitOn ':' := by
  simp [searchDirectories, Function.comp_def]

theorem lists_searchDirectories (search : String) :
    Lists search (searchDirectories search) := by
  constructor
  · simp [searchDirectories, List.splitOn_ne_nil]
  · intro directory member
    obtain ⟨piece, isPiece, rfl⟩ := List.mem_map.mp member
    simpa using Text.not_mem_of_mem_splitOn isPiece
  · rw [map_searchDirectories, List.intercalate_splitOn]

/-- There is only one way to take a search path apart. -/
theorem Lists.eq (lists : Lists search directories) :
    directories = searchDirectories search := by
  have notEmpty :
      (directories.map fun directory => directory.text.toList) ≠ [] := by
    simpa using lists.notEmpty
  have noColon :
      ∀ piece ∈ directories.map fun directory => directory.text.toList,
      ':' ∉ piece := by
    simpa using lists.noColon
  have pieces := List.splitOn_intercalate ':' noColon notEmpty
  rw [lists.joined, ← map_searchDirectories] at pieces
  have injective (first second : Path)
      (same : first.text.toList = second.text.toList) :
      first = second := by
    cases first
    exact congrArg Path.mk (String.toList_inj.mp same)
  exact ((List.map_inj_right injective).mp pieces).symm

/-- What is found under the name of a program.  A name with a slash is a path,
and any other name is looked for in one directory after the other. -/
inductive Finds (files : FileTree) (search? : Option String)
    (program : String) :
    Option Path → Prop where
  | direct (slash : '/' ∈ program.toList)
      (leads : files.LeadsToProgram ⟨program⟩) :
      Finds files search? program (some ⟨program⟩)
  | missing (slash : '/' ∈ program.toList)
      (leadsNot : ¬ files.LeadsToProgram ⟨program⟩) :
      Finds files search? program none
  | first {search : String} {early late : List Path} {directory : Path}
      (noSlash : '/' ∉ program.toList) (isSearch : search? = some search)
      (lists : Lists search (early ++ directory :: late))
      (skipped : ∀ other ∈ early, ¬ files.LeadsToProgram (other.child program))
      (leads : files.LeadsToProgram (directory.child program)) :
      Finds files search? program (some (directory.child program))
  | nowhere {search : String} {directories : List Path}
      (noSlash : '/' ∉ program.toList)
      (isSearch : search? = some search) (lists : Lists search directories)
      (leadsNot : ∀ directory ∈ directories,
        ¬ files.LeadsToProgram (directory.child program)) :
      Finds files search? program none
  | unset (noSlash : '/' ∉ program.toList) (noSearch : search? = none) :
      Finds files search? program none

theorem isProgram_of_namesDirectory {path : Path}
    (slash : '/' ∈ path.text.toList) (ends : path.namesDirectory = true) :
    files.isProgram path = false := by
  rw [Bool.eq_false_iff, ne_eq, isProgram_iff]
  intro leads
  obtain ⟨mode, leadsToFile, -⟩ := leads
  exact not_leadsToFile_of_namesDirectory slash ends leadsToFile

theorem slash_mem_child {directory : Path} (slash : '/' ∈ program.toList) :
    '/' ∈ (directory.child program).text.toList := by
  rw [Path.child, Path.join]
  split
  · exact slash
  · simp [slash]

/-- A name with a slash is looked up directly, or else there is nothing of this
name anywhere. -/
theorem findProgram?_of_slash (slash : '/' ∈ program.toList) :
    files.findProgram? search? program =
      if files.isProgram ⟨program⟩ then some ⟨program⟩ else none := by
  unfold findProgram?
  split
  · rfl
  · rename_i single
    have ends : Path.namesDirectory ⟨program⟩ = true :=
      Path.namesDirectory_of_slash slash (by omega)
    have nowhere (directory : Path) :
        files.isProgram (directory.child program) = false :=
      isProgram_of_namesDirectory (slash_mem_child slash)
        (Path.namesDirectory_child slash ends)
    have notHere : files.isProgram ⟨program⟩ = false :=
      isProgram_of_namesDirectory slash ends
    rw [notHere]
    cases search? with
    | none => rfl
    | some search => simp [List.find?_eq_none, nowhere]

theorem findProgram?_of_no_slash (noSlash : '/' ∉ program.toList) :
    files.findProgram? search? program = search?.bind fun search =>
      ((searchDirectories search).map fun directory =>
        directory.child program).find?
        files.isProgram := by
  have single : ¬ 1 < (Path.components ⟨program⟩).length :=
    Nat.not_lt.mpr (Path.length_components_of_no_slash noSlash)
  unfold findProgram?
  rw [if_neg single]
  cases search? with
  | none => rfl
  | some search => rfl

theorem find?_children_eq_some_iff {found : Path} :
    (directories.map fun directory => directory.child program).find?
    files.isProgram = some found ↔
      ∃ early directory late, directories = early ++ directory :: late ∧
        directory.child program = found ∧ files.LeadsToProgram found ∧
        ∀ other ∈ early, ¬ files.LeadsToProgram (other.child program) := by
  simp only [← isProgram_iff]
  rw [List.find?_map, Option.map_eq_some_iff]
  constructor
  · intro first
    obtain ⟨directory, isFirst, rfl⟩ := first
    obtain ⟨leads, early, late, split, skipped⟩ :=
      List.find?_eq_some_iff_append.mp isFirst
    exact ⟨early, directory, late, split, rfl, leads, by simpa using skipped⟩
  · intro first
    obtain ⟨early, directory, late, split, rfl, leads, skipped⟩ := first
    exact ⟨directory, List.find?_eq_some_iff_append.mpr
      ⟨leads, early, late, split, by simpa using skipped⟩, rfl⟩

theorem find?_children_eq_none_iff :
    (directories.map fun directory => directory.child program).find?
    files.isProgram = none ↔
      ∀ directory ∈ directories,
      ¬ files.LeadsToProgram (directory.child program) := by
  simp only [← isProgram_iff, List.find?_eq_none, List.forall_mem_map]

theorem finds_findProgram? :
    Finds files search? program (files.findProgram? search? program) := by
  by_cases slash : '/' ∈ program.toList
  · rw [findProgram?_of_slash slash]
    by_cases isProgram : files.isProgram ⟨program⟩ = true
    · rw [if_pos isProgram]
      exact .direct slash (isProgram_iff.mp isProgram)
    · rw [if_neg isProgram]
      exact .missing slash (mt isProgram_iff.mpr isProgram)
  · rw [findProgram?_of_no_slash slash]
    cases search? with
    | none => exact .unset slash rfl
    | some search =>
        have lists := lists_searchDirectories search
        rw [Option.bind_some]
        cases found : ((searchDirectories search).map fun directory =>
            directory.child program).find? files.isProgram with
        | none =>
          exact .nowhere slash rfl lists (find?_children_eq_none_iff.mp found)
        | some path =>
            obtain ⟨early, directory, late, split, rfl, leads, skipped⟩ :=
              find?_children_eq_some_iff.mp found
            exact .first slash rfl (split ▸ lists) skipped leads

theorem Finds.findProgram?_eq {found? : Option Path}
    (finds : Finds files search? program found?) :
    files.findProgram? search? program = found? := by
  cases finds with
  | direct slash leads =>
    rw [findProgram?_of_slash slash, if_pos (isProgram_iff.mpr leads)]
  | missing slash leadsNot =>
      rw [findProgram?_of_slash slash, if_neg (mt isProgram_iff.mp leadsNot)]
  | first noSlash isSearch lists skipped leads =>
      rw [findProgram?_of_no_slash noSlash, isSearch, Option.bind_some,
        ← lists.eq]
      exact find?_children_eq_some_iff.mpr ⟨_, _, _, rfl, rfl, leads, skipped⟩
  | nowhere noSlash isSearch lists leadsNot =>
      rw [findProgram?_of_no_slash noSlash, isSearch, Option.bind_some,
        ← lists.eq]
      exact find?_children_eq_none_iff.mpr leadsNot
  | unset noSlash noSearch =>
    rw [findProgram?_of_no_slash noSlash, noSearch, Option.bind_none]

end Search

/-- A program is found exactly where its name says: directly if there is a slash
in it, and otherwise in the first directory of the search path that has a
program of this name.  A name with a slash and a single component is not that of
a regular file, and the directory without a name is the working directory. -/
theorem findProgram?_exact (files : FileTree) (search? : Option String)
    (program : String) :
    (∀ found?, files.findProgram? search? program = found? ↔
      Finds files search? program found?) ∧
      ('/' ∈ program.toList → (Path.components ⟨program⟩).length ≤ 1 →
        ∀ mode, ¬ files.LeadsToFile ⟨program⟩ mode) ∧
      Path.child ⟨""⟩ program = ⟨program⟩ ∧
      ('/' ∉ program.toList → files.start ⟨program⟩ = files.working) := by
  refine ⟨?_, ?_, ?_, ?_⟩
  · intro found?
    constructor
    · rintro rfl
      exact finds_findProgram?
    · exact Finds.findProgram?_eq
  · intro slash single mode
    exact not_leadsToFile_of_namesDirectory slash
      (Path.namesDirectory_of_slash slash single)
  · simp [Path.child, Path.join, Path.separator]
  · intro noSlash
    rw [start, if_neg]
    intro absolute
    rw [Path.isAbsolute, beq_iff_eq] at absolute
    exact noSlash (List.mem_of_mem_head? absolute)

/-- A file that nobody may run is passed over, and with a slash after its name
it is no file. -/
theorem findProgram?_exact_passedOver :
    let files : FileTree :=
      ⟨[(["bin"], .directory), (["bin", "tool"], .file .empty 0o755),
      (["tool"], .file .empty 0o644)], []⟩
    Finds files (some ":bin") "tool" (some ⟨"bin/tool"⟩) ∧
      files.start ⟨"tool"⟩ = files.working ∧
      Finds files (some ":bin") "tool/" none ∧
      ¬ files.LeadsToFile ⟨"tool/"⟩ 0o644 := by
  intro files
  obtain ⟨findsTool, -, -, startsHere⟩ :=
    findProgram?_exact files (some ":bin") "tool"
  obtain ⟨findsNone, isNoFile, -, -⟩ :=
    findProgram?_exact files (some ":bin") "tool/"
  refine ⟨?_, ?_, ?_, ?_⟩
  · exact (findsTool _).mp (by decide +kernel)
  · exact startsHere (by decide)
  · exact (findsNone _).mp (by decide +kernel)
  · exact isNoFile (by decide) (by decide +kernel) 0o644

end FileTree

end ClusterConsole
