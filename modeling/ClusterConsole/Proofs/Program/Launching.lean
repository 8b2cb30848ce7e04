import ClusterConsole.Program.Launch
import ClusterConsole.Proofs.Procedure.Ensures
import ClusterConsole.Proofs.Shell.Processes
import ClusterConsole.Proofs.Text.Decoding
import Mathlib.Tactic.SplitIfs

/-!
# What a command launches

A path starts a program of the system, or the program that the script there
names, which may be one for a script again.  Whatever it is, it gets the
arguments of the command as they are, and a name without a slash is one at the
first place of the search path that does not rule itself out.  The program comes
to an end, and the command is back in the directory that it came from.
-/

namespace ClusterConsole

/-- A file that a path leads to can be run with some words. -/
structure FileTree.Runs (files : FileTree) (path : String) (words : List String)
    (location : Location) (contents : ByteArray) : Prop where
  located : files.locate ⟨Raw.toText path⟩ = .ok location
  executable : ∃ mode, files.node? location = some (.file contents mode) ∧
    mode &&& 0o111 ≠ 0
  short : ∀ word ∈ words, word.length < FileTree.argumentLimit

/-- What a path starts, through at most so many scripts. -/
inductive FileTree.Starts (files : FileTree) :
    Nat → String → List String → Started → Prop
  | program {levels : Nat} {path program : String} {words : List String}
      {location : Location} {contents : ByteArray} :
      files.Runs path words location contents →
      FileTree.standardProgram? location = some program →
      FileTree.Starts files levels path words ⟨program, words⟩
  | script {levels : Nat} {path : String} {words : List String}
      {location : Location} {contents : ByteArray} {interpreter : Interpreter}
      {started : Started} :
      files.Runs path words location contents →
      FileTree.standardProgram? location = none →
      Interpreter.of? contents = some interpreter →
      interpreter.name ≠ "" →
      FileTree.Starts files levels interpreter.name
        (interpreter.words ++ path :: words.drop 1) started →
      FileTree.Starts files (levels + 1) path words started

/-- What a program left behind, seen from a directory. -/
def Launched.seenFrom (launched : Launched) (working : Location) : Launched :=
  { launched with files := { launched.files with working } }

namespace FileTree

variable {files : FileTree}

/-! ## Scripts -/

theorem runnable_eq_ok_iff {path : String} {words : List String}
    {location : Location} {contents : ByteArray} :
    files.runnable path words = .ok (location, contents) ↔
      files.Runs path words location contents := by
  rw [runnable, bind_eq_ok_iff]
  constructor
  · rintro ⟨place, located, isOk⟩
    split at isOk
    · cases isOk
    · cases isOk
    · cases isOk
    · rename_i held mode isFile
      split_ifs at isOk with isPlain isLong
      cases isOk
      exact ⟨located, ⟨mode, isFile, isPlain⟩, by simpa using isLong⟩
  · rintro ⟨located, ⟨mode, isFile, isExecutable⟩, isShort⟩
    have isShort :
        (words.any fun word => argumentLimit ≤ word.length) = false := by
      simpa using isShort
    refine ⟨location, located, ?_⟩
    simp [isFile, isExecutable, isShort]

theorem starts_of_resolveBy {levels : Nat}
    {further? : Option (String → List String → Except SystemError Started)}
    {path : String} {words : List String} {started : Started}
    (leads : ∀ further, further? = some further → ∃ fewer, levels = fewer + 1 ∧
      ∀ path words, further path words = .ok started →
        files.Starts fewer path words started)
    (isStarted : files.resolveBy further? path words = .ok started) :
    files.Starts levels path words started := by
  obtain ⟨⟨location, contents⟩, isRunnable, isStarted⟩ :=
    bind_eq_ok_iff.mp isStarted
  have runs := runnable_eq_ok_iff.mp isRunnable
  cases isProgram : standardProgram? location with
  | some program =>
      simp only [isProgram] at isStarted
      cases isStarted
      exact .program runs isProgram
  | none =>
      cases names : Interpreter.of? contents with
      | none => simp [isProgram, names] at isStarted
      | some interpreter =>
          cases isSome : further? with
          | none => simp [isProgram, names, isSome] at isStarted
          | some further =>
              obtain ⟨fewer, rfl, starts⟩ := leads further isSome
              simp only [isProgram, names, isSome] at isStarted
              split_ifs at isStarted with isNameless
              exact .script runs isProgram names isNameless
                (starts _ _ isStarted)

theorem resolve_eq_ok_iff {levels : Nat} {path : String} {words : List String}
    {started : Started} :
    files.resolve levels path words = .ok started ↔
      files.Starts levels path words started := by
  constructor
  · intro isStarted
    induction levels generalizing path words with
    | zero =>
        refine starts_of_resolveBy (fun further isSome => ?_) isStarted
        cases isSome
    | succ levels ih =>
        refine starts_of_resolveBy (fun further isSome => ?_) isStarted
        cases isSome
        exact ⟨levels, rfl, fun path words => ih⟩
  · intro starts
    induction starts with
    | @program levels _ _ _ _ _ runs isProgram =>
        cases levels <;>
          simp [resolve, resolveBy, runnable_eq_ok_iff.mpr runs, isProgram,
            bind, Except.bind]
    | script runs isScript names isNamed _ ih =>
        simpa [resolve, resolveBy, runnable_eq_ok_iff.mpr runs, isScript, names,
          isNamed, bind, Except.bind] using ih

theorem Starts.isStandard {levels : Nat} {path : String} {words : List String}
    {started : Started} (starts : files.Starts levels path words started) :
    started.program ∈ standardPrograms := by
  induction starts with
  | program _ isProgram =>
      unfold standardProgram? at isProgram
      split at isProgram
      · split_ifs at isProgram with isKnown
        cases isProgram
        exact (by simpa using isKnown : _ ∧ _).1
      · cases isProgram
  | script _ _ _ _ _ ih => exact ih

/-- The arguments of a command come last among the words of what is started. -/
theorem Starts.suffix {levels : Nat} {path : String} {words : List String}
    {started : Started} (starts : files.Starts levels path words started) :
    words.drop 1 <:+ started.words := by
  induction starts with
  | program => exact List.drop_suffix 1 _
  | @script levels path words location contents interpreter started _ _ _
    _ _ ih =>
      -- The interpreter has a name, so that the word that is dropped is this
      -- one.
      refine List.IsSuffix.trans ?_ ih
      exact ⟨interpreter.argument?.toList ++ [path],
        by simp [Interpreter.words]⟩

/-! ## Names -/

/-- A cause for which the next place of a search path is tried. -/
def IsPassedOver (cause : SystemError) : Prop :=
  cause = .permissionDenied ∨ cause = .notFound ∨ cause = .notADirectory

/-- What is started at the first of some places that is not passed over. -/
def StartsFirst (files : FileTree) (paths words : List String)
    (started : Started) : Prop :=
  ∃ before path after, paths = before ++ path :: after ∧
    (∀ earlier ∈ before, ∃ cause, IsPassedOver cause ∧
      files.started earlier words = .error cause) ∧
    files.Starts scriptLimit path words started

theorem startedFirst_cons_of_passedOver {first : String} {words : List String}
    {cause : SystemError} (isPassedOver : IsPassedOver cause)
    (failed : files.started first words = .error cause)
    (otherwise : SystemError) (rest : List String) :
    ∃ later, files.startedFirst words otherwise (first :: rest) =
      files.startedFirst words later rest := by
  rw [startedFirst, failed]
  by_cases isDenied : cause = .permissionDenied
  · exact ⟨cause, if_pos isDenied⟩
  · refine ⟨otherwise, ?_⟩
    simp only [if_neg isDenied]
    exact if_pos (isPassedOver.resolve_left isDenied)

theorem startedFirst_eq_ok_iff {words : List String} (otherwise : SystemError)
    {paths : List String} {started : Started} :
    files.startedFirst words otherwise paths = .ok started ↔
      files.StartsFirst paths words started := by
  constructor
  · intro isStarted
    induction paths generalizing otherwise with
    | nil => cases isStarted
    | cons first rest ih =>
        cases tried : files.started first words with
        | ok found =>
            rw [startedFirst, tried] at isStarted
            cases isStarted
            exact ⟨[], first, rest, rfl, by simp, resolve_eq_ok_iff.mp tried⟩
        | error cause =>
            by_cases isPassedOver : IsPassedOver cause
            · obtain ⟨later, next⟩ :=
                startedFirst_cons_of_passedOver isPassedOver tried
                  otherwise rest
              rw [next] at isStarted
              obtain ⟨before, path, after, rfl, passed, starts⟩ :=
                ih _ isStarted
              exact ⟨first :: before, path, after, rfl,
                List.forall_mem_cons.mpr ⟨⟨cause, isPassedOver, tried⟩, passed⟩,
                starts⟩
            · obtain ⟨isOther, isLast⟩ := not_or.mp isPassedOver
              simp [startedFirst, tried, isOther, isLast] at isStarted
  · rintro ⟨before, path, after, rfl, passed, starts⟩
    induction before generalizing otherwise with
    | nil =>
        rw [List.nil_append, startedFirst,
          show files.started path words = .ok started from
            resolve_eq_ok_iff.mpr starts]
    | cons first before ih =>
        obtain ⟨⟨cause, isPassedOver, failed⟩, passed⟩ :=
          List.forall_mem_cons.mp passed
        obtain ⟨later, next⟩ :=
          startedFirst_cons_of_passedOver isPassedOver failed
          otherwise (before ++ path :: after)
        rw [List.cons_append, next]
        exact ih _ passed

/-- What the first of some words names, on the search path or as a path. -/
theorem startedBy_eq_ok_iff {name : String} {arguments : List String}
    {started : Started} :
    files.startedBy (name :: arguments) = .ok started ↔
      name ≠ "" ∧
        if '/' ∈ name.toList then
          files.Starts scriptLimit name (name :: arguments) started
        else
          name.length ≤ nameLimit ∧
            files.StartsFirst (candidates launchSearch name)
              (name :: arguments) started := by
  by_cases isEmpty : name = ""
  · simp [startedBy, isEmpty]
  · by_cases isPath : '/' ∈ name.toList
    · have isPathToo : Shell.Lookup.isPath name = true := by
        simpa [Shell.Lookup.isPath] using isPath
      simp only [startedBy, List.headD_cons, isEmpty, if_false, isPathToo,
        if_true, isPath, ne_eq, not_false_eq_true, true_and]
      exact resolve_eq_ok_iff
    · have isPathToo : Shell.Lookup.isPath name = false := by
        simpa [Shell.Lookup.isPath] using isPath
      simp only [startedBy, List.headD_cons, isEmpty, if_false, isPathToo,
        Bool.false_eq_true, isPath, ne_eq, not_false_eq_true, true_and]
      rw [← Nat.not_lt, ← startedFirst_eq_ok_iff .notFound]
      by_cases isLong : nameLimit < name.length
      · simp [isLong]
      · simp only [isLong, if_false, not_false_eq_true, true_and]

/-! ## Commands -/

/-- Where a command is launched from, and what it starts there. -/
structure LaunchesAs (files : FileTree) (invocation : Invocation)
    (inside : FileTree) (started : Started) : Prop where
  withoutNul : ∀ text ∈ invocation.program :: invocation.arguments ++
    (invocation.directory?.map Path.text).toList, '\x00' ∉ text.toList
  inside_eq : match invocation.directory? with
    | none => inside = files
    | some directory => ∃ location, files.locate directory = .ok location ∧
        files.node? location = some .directory ∧
        inside = { files with working := location }
  starts : inside.startedBy
    ((invocation.program :: invocation.arguments).map Raw.ofText) = .ok started

theorem enter_eq_ok_iff {directory : Path} {inside : FileTree} :
    files.enter directory = .ok inside ↔
      ∃ location, files.locate directory = .ok location ∧
        files.node? location = some .directory ∧
        inside = { files with working := location } := by
  rw [enter, bind_eq_ok_iff]
  refine exists_congr fun location => and_congr_right fun _ => ?_
  split
  · simp [*]
  · simp [*, eq_comm]
  · simp_all

/-- Launching part by part. -/
theorem launch_eq (files : FileTree) (invocation : Invocation) :
    files.launch invocation =
      if (invocation.program :: invocation.arguments ++
          (invocation.directory?.map Path.text).toList).any fun text =>
            text.toList.contains '\x00' then
        .error .nulInArgument
      else
        (match invocation.directory? with
          | none => .ok files
          | some directory => files.enter directory) >>= fun inside =>
        inside.startedBy
          ((invocation.program :: invocation.arguments).map Raw.ofText) >>=
            fun started =>
        .ok ((inside.run started).seenFrom files.working) := by
  unfold launch
  cases invocation.directory? <;> rfl

/-- A command launches what its words start in its directory, and what that
leaves behind is seen from where the command was launched. -/
theorem launch_eq_ok_iff {invocation : Invocation} {launched : Launched} :
    files.launch invocation = .ok launched ↔
      ∃ inside started, files.LaunchesAs invocation inside started ∧
        launched = (inside.run started).seenFrom files.working := by
  have enters : ∀ inside, (match invocation.directory? with
      | none => Except.ok files
      | some directory => files.enter directory) = .ok inside ↔
      match invocation.directory? with
      | none => inside = files
      | some directory => ∃ location, files.locate directory = .ok location ∧
          files.node? location = some .directory ∧
          inside = { files with working := location } := by
    intro inside
    cases invocation.directory? with
    | none => simp [eq_comm]
    | some directory => exact enter_eq_ok_iff
  rw [launch_eq]
  constructor
  · intro isLaunched
    split_ifs at isLaunched with hasNul
    obtain ⟨inside, isInside, isLaunched⟩ := bind_eq_ok_iff.mp isLaunched
    obtain ⟨started, isStarted, isLaunched⟩ := bind_eq_ok_iff.mp isLaunched
    cases isLaunched
    exact ⟨inside, started,
      ⟨by simpa only [Bool.not_eq_true, List.any_eq_false,
          List.contains_iff_mem]
        using hasNul, (enters inside).mp isInside, isStarted⟩, rfl⟩
  · rintro ⟨inside, started, ⟨withoutNul, inside_eq, isStarted⟩, rfl⟩
    rw [if_neg (by simpa only [Bool.not_eq_true, List.any_eq_false,
      List.contains_iff_mem] using withoutNul), (enters inside).mpr inside_eq]
    exact bind_eq_ok_iff.mpr
      ⟨inside, rfl, bind_eq_ok_iff.mpr ⟨started, isStarted, rfl⟩⟩

/-! ## Endings -/

theorem ending_run (files : FileTree) (started : Started) :
    (files.run started).ending.IsPossible := by
  obtain ⟨ending, after, isOk, isPossible, -⟩ :=
    Shell.Run.isolates_runner Shell.Run.depth
      (files.launchState started).process
      (carryOut (Shell.Run.runner Shell.Run.depth) started)
      (files.launchState started)
  have run_eq : ((Shell.Run.runner Shell.Run.depth).process
      (files.launchState started).process
      (carryOut (Shell.Run.runner Shell.Run.depth) started)).run.run
        (files.launchState started) = (.ok ending, after) := isOk
  simp only [run, run_eq]
  exact isPossible

/-- A command that is launched comes to a possible ending in the directory that
it was launched from, as a program of the system that got all its arguments. -/
theorem launch_sound {invocation : Invocation} {launched : Launched}
    (isLaunched : files.launch invocation = .ok launched) :
    launched.ending.IsPossible ∧ launched.files.working = files.working ∧
      ∃ inside started, files.LaunchesAs invocation inside started ∧
        started.program ∈ standardPrograms ∧
        invocation.arguments <:+ started.words.map Raw.toText := by
  obtain ⟨inside, started, launches, rfl⟩ := launch_eq_ok_iff.mp isLaunched
  refine ⟨ending_run inside started, rfl, inside, started, launches, ?_⟩
  obtain ⟨levels, path, starts⟩ : ∃ levels path, inside.Starts levels path
      ((invocation.program :: invocation.arguments).map Raw.ofText)
        started := by
    have starts := launches.starts
    rw [List.map_cons, startedBy_eq_ok_iff] at starts
    obtain ⟨-, starts⟩ := starts
    split_ifs at starts with isPath
    · exact ⟨_, _, starts⟩
    · obtain ⟨-, _, path, _, -, -, starts⟩ := starts
      exact ⟨_, path, starts⟩
  have arguments := starts.suffix.map Raw.toText
  rw [List.map_cons, List.drop_one, List.tail_cons, List.map_map,
    show Raw.toText ∘ Raw.ofText = id from funext Raw.toText_ofText,
    List.map_id] at arguments
  exact ⟨starts.isStandard, arguments⟩

end FileTree

end ClusterConsole
