import ClusterConsole.Proofs.Files.Disk
import ClusterConsole.Proofs.Session.FailStop
import ClusterConsole.Rehearsal.Basic

/-!
# Writing the secret as a whole

Whatever a disk refuses, the manifest of the secret is replaced as a whole or
not at all: after a success it holds the document made from the environment
source, after a failure it is what it was before, and in both cases nothing else
has changed, except that directories above it may have been made.  Writing it
once more changes nothing.
-/

namespace ClusterConsole

namespace FileTree

/-- The values that an environment source gives.  One that is not there gives
none, so that all credentials have their fallbacks, and one that cannot be read
does not tell. -/
def overrides? (tree : FileTree) (source : Path) : Option Overrides :=
  match tree.readText source with
  | .ok text => some (.parse text)
  | .error cause => if cause = .notFound then some .empty else none

/-- The manifest of the secret that an environment source stands for. -/
def manifest? (tree : FileTree) (source : Path) (namespaceName : String) :
    Option String :=
  (tree.overrides? source).map fun overrides =>
    (SecretMaterial.resolve overrides).render namespaceName

/-- A location is as it was before, or it had nothing and now has one of the
directories above a path. -/
def Spares (path : Path) (before after : FileTree) (location : Location) :
    Prop :=
  after.node? location = before.node? location ∨
    before.node? location = none ∧ after.node? location = some .directory ∧
      ∃ outer ∈ path.directory.ancestors, after.locate outer = .ok location

/-- What is there after the secret was written, and what it was made from. -/
structure Materialized (source : Path) (namespaceName : String) (output : Path)
    (before after : FileTree) (written : WrittenSecret) : Prop where
  path_eq : written.path = output
  hasSource_iff : written.hasSource = false ↔
    before.lookup source = .error .notFound
  /-- The output holds the manifest and nothing else. -/
  holds : ∃ document, before.manifest? source namespaceName = some document ∧
    after.lookup output = .ok (.file document.toUTF8 0o600)
  /-- There is no other file that was not there before. -/
  others : ∀ location, after.locate output ≠ .ok location →
    Spares output before after location

variable {tree before after : FileTree}

theorem readText_eq_notFound_iff {path : Path} :
    tree.readText path = .error .notFound ↔
      tree.lookup path = .error .notFound := by
  have noDirectory : SystemError.isADirectory ≠ SystemError.notFound :=
    by decide
  have noText : SystemError.invalidText ≠ SystemError.notFound := by decide
  rw [readText, read]
  cases found : tree.lookup path with
  | error cause => simp [bind, Except.bind]
  | ok node =>
      cases node with
      | directory => simp [bind, Except.bind, noDirectory]
      | device =>
          simp only [bind, Except.bind]
          split <;> simp [noText]
      | file contents mode =>
          simp only [bind, Except.bind]
          split <;> simp [noText]

theorem overrides?_eq {source : Path} {text : String}
    (read : sourceText? (tree.readText source) = some text) :
    tree.overrides? source = some (.parse text) := by
  rw [overrides?]
  cases reply : tree.readText source with
  | ok contents =>
      rw [reply] at read
      cases read
      rfl
  | error cause =>
      rw [reply] at read
      by_cases absent : cause = .notFound
      · simp only [sourceText?, absent, if_true, Option.some.injEq] at read
        subst read
        simp [absent]
        rfl
      · simp [sourceText?, absent] at read

theorem manifest?_eq {source : Path} {text namespaceName : String}
    (read : sourceText? (tree.readText source) = some text) :
    tree.manifest? source namespaceName =
      some ((SecretMaterial.resolve (.parse text)).render namespaceName) := by
  rw [manifest?, overrides?_eq read]
  rfl

/-- A path is ready for a file that takes the place of the one it leads to. -/
structure Ready (tree : FileTree) (path : Path) : Prop where
  directory : ∃ location, tree.locate path.directory = .ok location ∧
    tree.node? location = some .directory
  promotes : ∀ contents staged staging,
    tree.stage path.directory contents = .ok (staged, staging) →
    ∃ last, staging.promote staged path = .ok last

theorem readText_congr {path : Path}
    (same : after.lookup path = before.lookup path) :
    after.readText path = before.readText path := by
  rw [readText, read, same, readText, read]

/-- A source is read again as before if it is not where the output is, and has
not come to be there meanwhile. -/
theorem lookup_eq_of_spares {source output : Path} {text : String}
    (spares : ∀ location, after.locate output ≠ .ok location →
      Spares output before after location)
    (keeps : before.Keeps after)
    (elsewhere : after.locate source ≠ after.locate output)
    (stillMissing : before.lookup source = .error .notFound →
      after.lookup source = .error .notFound)
    (read : sourceText? (before.readText source) = some text) :
    after.lookup source = before.lookup source := by
  cases found : before.lookup source with
  | error cause =>
      have absent : cause = .notFound := by
        by_contra isOther
        simp [readText, FileTree.read, found, bind, Except.bind, sourceText?,
          isOther] at read
      subst absent
      exact stillMissing found
  | ok node =>
      obtain ⟨location, leads, there⟩ := lookup_eq_ok_iff.mp found
      have leadsAgain := keeps.locate leads
      have isOther : after.locate output ≠ .ok location := fun same =>
        elsewhere (leadsAgain.trans same.symm)
      rcases spares location isOther with same | ⟨missing, -, -⟩
      · exact lookup_eq_ok_iff.mpr ⟨location, leadsAgain, same.trans there⟩
      · rw [missing] at there
        cases there

abbrev GrowsAbove (path : Path) (before after : FileTree) : Prop :=
  before.Grows (fun location => ∃ outer ∈ path.directory.ancestors,
    after.locate outer = .ok location) after

theorem growsAbove_of_same {path : Path} {made : FileTree}
    (grows : GrowsAbove path before made)
    (working : after.working = made.working)
    (same : ∀ location, after.node? location = made.node? location) :
    GrowsAbove path before after := by
  have keeps : made.Keeps after :=
    ⟨working, fun location isDirectory => (same location).trans isDirectory⟩
  refine ⟨working.trans grows.working, fun location => ?_⟩
  rcases grows.nodes location with unchanged |
    ⟨missing, isMade, outer, member, leads⟩
  · exact .inl ((same location).trans unchanged)
  · exact .inr ⟨missing, (same location).trans isMade, outer, member,
      keeps.locate leads⟩

end FileTree

/-! ## The requests of a replacement -/

namespace Disk

open FileTree

variable {surroundings : Surroundings σ} {target : Path} {contents : String}
  {trace : List Exchange} {failure? : Option Failure} {state : σ}

theorem serves_head (disk : Disk surroundings)
    {request : FileRequest} {reply : request.Reply}
    (replies : surroundings.Replies (⟨.file request, reply⟩ :: trace) state) :
    (disk.tree state).Serves request reply
      (disk.tree (surroundings.next (.file request) state)) := by
  obtain rfl : reply = (surroundings.reply (.file request) state).1 := by
    simpa [Surroundings.exchange] using replies.1
  exact disk.serves request state

/-- How a file is replaced on a disk: the tree after the directories were made,
and the one at the end. -/
inductive Replaces (target : Path) (contents : String) (before : FileTree) :
    FileTree → Option Failure → Prop where
  | spared {after : FileTree} {failure : Failure}
      (grows : GrowsAbove target before after) :
      Replaces target contents before after (some failure)
  | replaced {made after : FileTree} {location : Location}
      (makes : before.Serves (.makeDirectories target.directory) (.ok ()) made)
      (replaced : Replaced target contents location made after)
      (ready : after.Ready target) :
      Replaces target contents before after none

theorem replaces (disk : Disk surroundings)
    (replacement : Replacement target contents trace failure?)
    (replies : surroundings.Replies trace state) :
    Replaces target contents (disk.tree state)
      (disk.tree (surroundings.after trace state))
      failure? := by
  cases replacement with
  | unplaced => exact .spared (disk.serves_head replies).makeDirectories
  | unstaged =>
      have grows := (disk.serves_head replies).makeDirectories
      rcases (disk.serves_head replies.2).stage with ⟨_, -, same⟩ |
        ⟨_, granted, -⟩
      · refine .spared (growsAbove_of_same grows ?_ ?_)
        · exact congrArg FileTree.working same
        · exact fun location => congrArg (·.node? location) same
      · cases granted
  | unpromoted =>
      have grows := (disk.serves_head replies).makeDirectories
      rcases (disk.serves_head replies.2).stage with ⟨_, refused, -⟩ |
        ⟨_, granted, stages⟩
      · cases refused
      · cases granted
        rcases (disk.serves_head replies.2.2).promote with ⟨_, -, same⟩ |
          ⟨granted, -⟩
        · have discards := (disk.serves_head replies.2.2.2).discard
          rw [same] at discards
          refine .spared (growsAbove_of_same grows ?_ fun location => ?_)
          · exact (congrArg FileTree.working discards).trans
              (keeps_of_stage stages).working
          · exact (congrArg (·.node? location) discards).trans
              (node?_discard stages location)
        · cases granted
  | replaced =>
      have makes := disk.serves_head replies
      rcases (disk.serves_head replies.2).stage with ⟨_, refused, -⟩ |
        ⟨_, granted, stages⟩
      · cases refused
      · cases granted
        rcases (disk.serves_head replies.2.2).promote with ⟨_, refused, -⟩ |
          ⟨-, promotes⟩
        · cases refused
        · obtain ⟨location, replaced⟩ := replaced_of_promote stages promotes
          obtain ⟨-, -, directory, leads, isDirectory⟩ := stage_eq_ok stages
          refine .replaced makes replaced
            ⟨⟨directory, replaced.keeps.locate leads,
            replaced.keeps.directories directory isDirectory⟩, ?_⟩
          intro contents again staging stagesAgain
          exact exists_promote_again promotes stagesAgain

theorem Replaces.spares {before after : FileTree} {failure : Failure}
    (replaces : Replaces target contents before after (some failure))
    (location : Location) :
    Spares target before after location := by
  cases replaces with
  | spared grows => exact grows.nodes location

theorem Replaces.done {before after : FileTree}
    (replaces : Replaces target contents before after none) :
    after.lookup target = .ok (.file contents.toUTF8 0o600) ∧
      (∀ location, after.locate target ≠ .ok location →
        Spares target before after location) ∧
      before.Keeps after ∧ after.Ready target := by
  cases replaces with
  | @replaced made _ location makes replaced ready =>
      refine ⟨?_, ?_, makes.makeDirectories.keeps.trans replaced.keeps, ready⟩
      · exact lookup_eq_ok_iff.mpr ⟨location, replaced.leads, replaced.holds⟩
      · intro other isOther
        have isElsewhere : location ≠ other := by
          rintro rfl
          exact isOther replaced.leads
        have same := replaced.others other isElsewhere
        rcases makes.makeDirectories.nodes other with unchanged |
          ⟨missing, isMade, isAbove⟩
        · exact .inl (same.trans unchanged)
        · obtain ⟨outer, member, leads⟩ := isAbove
          exact .inr ⟨missing, same.trans isMade, outer, member,
            replaced.keeps.locate leads⟩

/-- Where the path is ready for it, no directory is made. -/
theorem Replaces.again {before after : FileTree} (ready : before.Ready target)
    (replaces : Replaces target contents before after none) :
    ∃ location, Replaced target contents location before after := by
  cases replaces with
  | @replaced made _ location makes replaced readyAgain =>
      obtain ⟨directory, leads, isDirectory⟩ := ready.directory
      cases makes.eq_of_isDirectory rfl leads isDirectory
      exact ⟨location, replaced⟩

theorem GrantsAll.head {disk : Disk surroundings} (grantsAll : disk.GrantsAll)
    {request : FileRequest} {reply : request.Reply}
    (replies : surroundings.Replies (⟨.file request, reply⟩ :: trace) state) :
    reply = ((disk.tree state).reply request).1 ∧
      disk.tree (surroundings.next (.file request) state) =
        ((disk.tree state).reply request).2 := by
  obtain rfl : reply = (surroundings.reply (.file request) state).1 := by
    simpa [Surroundings.exchange] using replies.1
  exact grantsAll request state

/-- Where the path is ready for it, nothing is in the way of a replacement. -/
theorem GrantsAll.replaces {disk : Disk surroundings}
    (grantsAll : disk.GrantsAll) (ready : (disk.tree state).Ready target)
    (replacement : Replacement target contents trace failure?)
    (replies : surroundings.Replies trace state) : failure? = none := by
  obtain ⟨directory, leads, isDirectory⟩ := ready.directory
  have makes : (disk.tree state).reply (.makeDirectories target.directory) =
      (.ok (), disk.tree state) :=
        makeDirectories_of_isDirectory leads isDirectory
  obtain ⟨staged, stages⟩ := stage_of_isDirectory contents leads isDirectory
  obtain ⟨last, promotes⟩ := ready.promotes contents staged _ stages
  have staging : (disk.tree state).reply (.stage target.directory contents) =
      (.ok staged, (disk.tree state).put staged
          (.file contents.toUTF8 0o600)) := by
    rw [FileTree.reply, stages]
  have promoting :
      ((disk.tree state).put staged (.file contents.toUTF8 0o600)).reply
      (.promote staged target) = (.ok (), last) := by
    rw [FileTree.reply, promotes]
  cases replacement with
  | unplaced =>
      have made := (grantsAll.head replies).1
      rw [makes] at made
      cases made
  | unstaged =>
      have made := (grantsAll.head replies).2
      have putThere := (grantsAll.head replies.2).1
      rw [makes] at made
      rw [made, staging] at putThere
      cases putThere
  | unpromoted =>
      have made := (grantsAll.head replies).2
      have putThere := grantsAll.head replies.2
      have moved := (grantsAll.head replies.2.2).1
      rw [makes] at made
      rw [made, staging] at putThere
      cases putThere.1
      rw [putThere.2, promoting] at moved
      cases moved
  | replaced => rfl

theorem GrantsAll.writes {disk : Disk surroundings}
    (grantsAll : disk.GrantsAll) {source : Path}
    {namespaceName text : String} (ready : (disk.tree state).Ready target)
    (read : sourceText? ((disk.tree state).readText source) = some text)
    (write : SecretWrite source target namespaceName trace failure?)
    (replies : surroundings.Replies trace state) : failure? = none := by
  cases write with
  | unread unreadable =>
      have isReply : .error _ = (disk.tree state).readText source :=
        (grantsAll.head replies).1
      rw [isReply, read] at unreadable
      cases unreadable
  | rewritten readAgain replacement =>
      have same :
          disk.tree (surroundings.next (.file (.readText source)) state) =
          disk.tree state := (grantsAll.head replies).2
      exact grantsAll.replaces (same.symm ▸ ready) replacement replies.2

/-- Writing the secret reads the source as it is, or stops there. -/
theorem writes (disk : Disk surroundings)
    {source : Path} {namespaceName : String}
    (write : SecretWrite source target namespaceName trace failure?)
    (replies : surroundings.Replies trace state) :
    (disk.tree (surroundings.after trace state) = disk.tree state ∧
      failure? ≠ none) ∨
      ∃ text, sourceText? ((disk.tree state).readText source) = some text ∧
        trace.head? =
          some ⟨.file (.readText source), (disk.tree state).readText source⟩ ∧
        Replaces target ((SecretMaterial.resolve (.parse text)).render
            namespaceName)
          (disk.tree state) (disk.tree (surroundings.after trace state))
            failure? := by
  cases write with
  | unread unreadable =>
    exact .inl ⟨(disk.serves_head replies).readText.1, by simp⟩
  | @rewritten reply text exchanges _ read replacement =>
      obtain ⟨same, isReply⟩ := (disk.serves_head replies).readText
      have replaces := disk.replaces replacement replies.2
      rw [same] at replaces
      rcases isReply with rfl | ⟨cause, isOther, rfl⟩
      · exact .inr ⟨text, read, rfl, replaces⟩
      · simp [sourceText?, isOther] at read

theorem stops_unread (disk : Disk surroundings) {source : Path}
    {namespaceName : String} {cause : SystemError}
    (write : SecretWrite source target namespaceName trace failure?)
    (replies : surroundings.Replies trace state)
    (unreadable : (surroundings.reply (.file (.readText source)) state).1 =
      .error cause) (isOther : cause ≠ .notFound) :
    failure? = some (.system cause) ∧
      disk.tree (surroundings.after trace state) = disk.tree state := by
  cases write with
  | unread =>
      obtain rfl := by simpa [Surroundings.exchange, unreadable] using replies.1
      exact ⟨rfl, (disk.serves_head replies).readText.1⟩
  | rewritten read replacement =>
      obtain rfl := by simpa [Surroundings.exchange, unreadable] using replies.1
      simp [sourceText?, isOther] at read

end Disk

namespace Operation

/-- That there was no source is told exactly when none was found. -/
theorem ensures_writeSecret_value (source : Path) (namespaceName : String)
    (output : Path) :
    Ensures (writeSecret source namespaceName output) fun trace result =>
      ∀ written, result = .ok written → written.path = output ∧
        ∀ reply, trace.head? = some ⟨.file (.readText source), reply⟩ →
          (written.hasSource = false ↔ reply = .error .notFound) := by
  have writes {found : Option String} (first : Exchange)
      (tells : ∀ reply, first = ⟨.file (.readText source), reply⟩ →
        (found.isSome = false ↔ reply = .error .notFound)) :
      Ensures (do
        replaceFile output ((SecretMaterial.resolve
              (.parse (found.getD ""))).render namespaceName)
        return (⟨output, found.isSome⟩ : WrittenSecret)) fun later result =>
          ∀ written, result = .ok written → written.path = output ∧
            ∀ reply, (first :: later).head? =
              some ⟨.file (.readText source), reply⟩ →
              (written.hasSource = false ↔ reply = .error .notFound) := by
    apply Ensures.bind (ensures_replaceFile output _)
    · intro trace failure _ written same
      cases same
    · intro trace _ _
      apply ensures_pure
      intro written same
      cases same
      exact ⟨rfl, fun reply head => tells reply (Option.some.inj head)⟩
  apply ensures_bind
  apply ensures_bind
  apply ensures_request
  intro reply
  cases reply with
  | ok text =>
      apply writes
      intro reply same
      cases same
      simp
  | error cause =>
      by_cases absent : cause = .notFound
      · subst absent
        apply writes
        intro reply same
        cases same
        simp
      · have stops : Ensures
            (throw (.system cause) : Operation (Option String)) fun _ result =>
            ∀ found, result ≠ .ok found :=
          ensures_throw fun _ => nofun
        simp only [absent, if_false]
        apply Ensures.mono stops
        intro trace result never
        cases result with
        | error failure => nofun
        | ok found => exact absurd rfl (never found)

end Operation

/-! ## All or nothing -/

namespace Disk

open FileTree

variable {surroundings : Surroundings σ}

/-- Writing the secret from one state of a disk to another one. -/
def writing (_ : Disk surroundings) (source : Path) (namespaceName : String)
    (output : Path) (state : σ) : Run σ (Except Failure WrittenSecret) :=
  (Operation.writeSecret source namespaceName output).toProcedure.run
    surroundings state

variable (disk : Disk surroundings) (source : Path) (namespaceName : String)
  (output : Path)
  (state : σ)

theorem secretWrite_writing :
    SecretWrite source output namespaceName
      (disk.writing source namespaceName output state).trace
      (failureOf (disk.writing source namespaceName output state).value) :=
  (Operation.ensures_writeSecret source namespaceName output).run
    surroundings state

theorem replies_writing :
    surroundings.Replies (disk.writing source namespaceName output state).trace
      state :=
  Procedure.replies_run surroundings _ state

theorem state_writing :
    (disk.writing source namespaceName output state).state =
      surroundings.after (disk.writing source namespaceName output state).trace
        state :=
  Procedure.state_run surroundings _ state

/-- Either the source could not be read, or the disk replaced the output, or
spared it. -/
theorem writing_cases :
    (disk.tree (disk.writing source namespaceName output state).state =
      disk.tree state ∧
        ∃ failure, (disk.writing source namespaceName output state).value =
          .error failure) ∨
      ∃ text, sourceText? ((disk.tree state).readText source) = some text ∧
        (∀ written, (disk.writing source namespaceName output state).value =
          .ok written →
          written.path = output ∧ (written.hasSource = false ↔
            (disk.tree state).readText source = .error .notFound)) ∧
        Replaces output ((SecretMaterial.resolve (.parse text)).render
            namespaceName)
          (disk.tree state)
            (disk.tree (disk.writing source namespaceName output state).state)
          (failureOf (disk.writing source namespaceName output
                state).value) := by
  have write := disk.secretWrite_writing source namespaceName output state
  have replies := disk.replies_writing source namespaceName output state
  have tells :=
    (Operation.ensures_writeSecret_value source namespaceName output).run
    surroundings state
  rw [state_writing]
  rcases disk.writes write replies with ⟨same, failed⟩ |
    ⟨text, read, head, replaces⟩
  · refine .inl ⟨same, ?_⟩
    cases result : (disk.writing source namespaceName output state).value with
    | error failure => exact ⟨failure, rfl⟩
    | ok written => simp [result, failureOf] at failed
  · refine .inr ⟨text, read, fun written completes => ?_, replaces⟩
    obtain ⟨path, sourced⟩ := tells written completes
    exact ⟨path, sourced _ head⟩

theorem materialized_writing {written : WrittenSecret}
    (completes :
      (disk.writing source namespaceName output state).value = .ok written) :
    Materialized source namespaceName output (disk.tree state)
        (disk.tree (disk.writing source namespaceName output state).state)
          written ∧
      (disk.tree state).Keeps
        (disk.tree (disk.writing source namespaceName output state).state) ∧
      (disk.tree (disk.writing source namespaceName output state).state).Ready
        output := by
  rcases disk.writing_cases source namespaceName output state with
    ⟨-, failure, failed⟩ | ⟨text, read, tells, replaces⟩
  · rw [completes] at failed
    cases failed
  · rw [completes] at replaces
    obtain ⟨holds, others, keeps, ready⟩ := replaces.done
    obtain ⟨path, sourced⟩ := tells written completes
    refine ⟨⟨path, sourced.trans readText_eq_notFound_iff, ?_, others⟩,
      keeps, ready⟩
    exact ⟨_, manifest?_eq read, holds⟩

theorem spares_writing {failure : Failure}
    (fails : (disk.writing source namespaceName output state).value =
      .error failure) (location : Location) :
    Spares output (disk.tree state)
      (disk.tree (disk.writing source namespaceName output state).state)
        location := by
  rcases disk.writing_cases source namespaceName output state with
    ⟨same, -⟩ | ⟨text, -, -, replaces⟩
  · rw [same]
    exact .inl rfl
  · rw [fails] at replaces
    exact replaces.spares location

theorem writing_of_unread {cause : SystemError}
    (unreadable : (surroundings.reply (.file (.readText source)) state).1 =
      .error cause) (isOther : cause ≠ .notFound) :
    (disk.writing source namespaceName output state).value =
        .error (.system cause) ∧
      disk.tree (disk.writing source namespaceName output state).state =
        disk.tree state := by
  have write := disk.secretWrite_writing source namespaceName output state
  have replies := disk.replies_writing source namespaceName output state
  obtain ⟨stops, same⟩ := disk.stops_unread write replies unreadable isOther
  rw [state_writing]
  refine ⟨?_, same⟩
  cases result : (disk.writing source namespaceName output state).value with
  | error failure =>
      rw [result] at stops
      cases stops
      rfl
  | ok written =>
      rw [result] at stops
      cases stops

section Again

variable {written : WrittenSecret}

/-- A source that is not where the output is stays as it was, if the first time
has not put anything there. -/
theorem lookup_source_writing
    (completes :
      (disk.writing source namespaceName output state).value = .ok written)
    (elsewhere : (disk.tree (disk.writing source namespaceName output
            state).state).locate source ≠
      (disk.tree (disk.writing source namespaceName output state).state).locate
        output)
    (stillMissing : (disk.tree state).lookup source = .error .notFound →
      (disk.tree (disk.writing source namespaceName output state).state).lookup
        source =
          .error .notFound) :
    (disk.tree (disk.writing source namespaceName output state).state).lookup
      source =
      (disk.tree state).lookup source := by
  rcases disk.writing_cases source namespaceName output state with
    ⟨-, failure, failed⟩ | ⟨text, read, -, replaces⟩
  · rw [completes] at failed
    cases failed
  · rw [completes] at replaces
    obtain ⟨-, spares, keeps, -⟩ := replaces.done
    exact lookup_eq_of_spares spares keeps elsewhere stillMissing read

/-- The second time no directory is made, and the output is replaced by the
same. -/
theorem writing_again {again : WrittenSecret}
    (completes :
      (disk.writing source namespaceName output state).value = .ok written)
    (sameSource : (disk.tree (disk.writing source namespaceName output
            state).state).lookup source =
      (disk.tree state).lookup source)
    (completesAgain : (disk.writing source namespaceName output
      (disk.writing source namespaceName output state).state).value =
        .ok again) :
    again = written ∧ ∀ location,
      (disk.tree (disk.writing source namespaceName output
        (disk.writing source namespaceName output state).state).state).node?
          location =
      (disk.tree (disk.writing source namespaceName output state).state).node?
        location := by
  have first :=
    disk.materialized_writing source namespaceName output state completes
  generalize (disk.writing source namespaceName output state).state =
    middle at *
  have second := (disk.materialized_writing source namespaceName output middle
      completesAgain).1
  obtain ⟨document, isDocument, holds⟩ := first.1.holds
  constructor
  · have sameFlag : again.hasSource = false ↔ written.hasSource = false := by
      rw [second.hasSource_iff, first.1.hasSource_iff, sameSource]
    have samePath := second.path_eq.trans first.1.path_eq.symm
    obtain ⟨path, hasSource⟩ := again
    obtain ⟨ownPath, ownSource⟩ := written
    cases hasSource <;> cases ownSource <;> simp_all
  · rcases disk.writing_cases source namespaceName output middle with
      ⟨-, failure, failed⟩ | ⟨text, read, -, replaces⟩
    · rw [completesAgain] at failed
      cases failed
    rw [completesAgain] at replaces
    obtain ⟨location, replaced⟩ := replaces.again first.2.2
    rw [readText_congr sameSource] at read
    obtain rfl : document = _ :=
      Option.some.inj (isDocument.symm.trans (manifest?_eq read))
    intro other
    by_cases same : location = other
    · obtain ⟨own, leads, isFile⟩ := lookup_eq_ok_iff.mp holds
      cases Except.ok.inj
        ((replaced.keeps.locate leads).symm.trans replaced.leads)
      rw [← same, replaced.holds, isFile]
    · exact replaced.others other same

theorem completes_again (grantsAll : disk.GrantsAll)
    (completes :
      (disk.writing source namespaceName output state).value = .ok written)
    (sameSource : (disk.tree (disk.writing source namespaceName output
            state).state).lookup source =
      (disk.tree state).lookup source) :
    ∃ again, (disk.writing source namespaceName output
      (disk.writing source namespaceName output state).state).value =
        .ok again := by
  have ready :=
    (disk.materialized_writing source namespaceName output state completes).2.2
  rcases disk.writing_cases source namespaceName output state with
    ⟨-, failure, failed⟩ | ⟨text, read, -, -⟩
  · rw [completes] at failed
    cases failed
  generalize (disk.writing source namespaceName output state).state =
    middle at *
  rw [← readText_congr sameSource] at read
  have finishes := grantsAll.writes ready read
    (disk.secretWrite_writing source namespaceName output middle)
    (disk.replies_writing source namespaceName output middle)
  cases result : (disk.writing source namespaceName output middle).value with
  | error failure =>
      rw [result] at finishes
      cases finishes
  | ok again => exact ⟨again, rfl⟩

/-- Two successes tell alike whether there was a source. -/
theorem lookup_eq_notFound_of_again
    (completes :
      (disk.writing source namespaceName output state).value = .ok written)
    (again : (disk.writing source namespaceName output
      (disk.writing source namespaceName output state).state).value =
        .ok written)
    (missing : (disk.tree state).lookup source = .error .notFound) :
    (disk.tree (disk.writing source namespaceName output state).state).lookup
      source =
      .error .notFound := by
  have first :=
    (disk.materialized_writing source namespaceName output state completes).1
  have second :=
    (disk.materialized_writing source namespaceName output _ again).1
  have unsourced : written.hasSource = false := first.hasSource_iff.mpr missing
  exact second.hasSource_iff.mp unsourced

end Again

/-- What it means that writing the secret is all or nothing. -/
structure WritesWhole : Prop where
  written : ∀ written, (disk.writing source namespaceName output state).value =
    .ok written →
    Materialized source namespaceName output (disk.tree state)
      (disk.tree (disk.writing source namespaceName output state).state) written
  failed : ∀ failure, (disk.writing source namespaceName output state).value =
    .error failure →
    ∀ location, Spares output (disk.tree state)
      (disk.tree (disk.writing source namespaceName output state).state)
        location
  /-- A source that is there and cannot be read stops everything before it has
  begun. -/
  unread : ∀ cause, (surroundings.reply (.file (.readText source)) state).1 =
    .error cause →
    cause ≠ .notFound →
    (disk.writing source namespaceName output state).value =
      .error (.system cause) ∧
      disk.tree (disk.writing source namespaceName output state).state =
        disk.tree state
  /-- Right after a success, another one is the same and changes nothing, unless
  the first one has put something where there was no source.  The output must
  not be the source itself. -/
  again : ∀ written, (disk.writing source namespaceName output state).value =
    .ok written →
    let middle := (disk.writing source namespaceName output state).state
    (disk.tree middle).locate source ≠ (disk.tree middle).locate output →
    let second := disk.writing source namespaceName output middle
    ∀ again, second.value = .ok again →
      (again = written ↔ ((disk.tree state).lookup source = .error .notFound →
        (disk.tree middle).lookup source = .error .notFound)) ∧
      (again = written →
        ∀ location, (disk.tree second.state).node? location =
          (disk.tree middle).node? location)
  /-- A disk that refuses nothing always has another success then. -/
  repeats : disk.GrantsAll → ∀ written,
    (disk.writing source namespaceName output state).value = .ok written →
    let middle := (disk.writing source namespaceName output state).state
    (disk.tree middle).locate source ≠ (disk.tree middle).locate output →
    ((disk.tree state).lookup source = .error .notFound →
      (disk.tree middle).lookup source = .error .notFound) →
    (disk.writing source namespaceName output middle).value = .ok written

theorem writing_all_or_nothing :
    disk.WritesWhole source namespaceName output state where
  written _ completes :=
    (disk.materialized_writing source namespaceName output state completes).1
  failed _ fails := disk.spares_writing source namespaceName output state fails
  unread _ unreadable isOther :=
    disk.writing_of_unread source namespaceName output state unreadable isOther
  again written completes elsewhere again completesAgain := by
    have sameSource :=
      disk.lookup_source_writing source namespaceName output state completes
        elsewhere
    have missing (same : again = written) :=
      disk.lookup_eq_notFound_of_again source namespaceName
      output state completes (same ▸ completesAgain)
    constructor
    · constructor
      · exact missing
      · intro stillMissing
        exact (disk.writing_again source namespaceName output state completes
          (sameSource stillMissing) completesAgain).1
    · intro same
      exact (disk.writing_again source namespaceName output state completes
        (sameSource (missing same)) completesAgain).2
  repeats grantsAll written completes elsewhere stillMissing := by
    have sameSource :=
      disk.lookup_source_writing source namespaceName output state completes
      elsewhere stillMissing
    obtain ⟨again, completesAgain⟩ :=
      disk.completes_again source namespaceName output state grantsAll completes
        sameSource
    obtain ⟨rfl, -⟩ :=
      disk.writing_again source namespaceName output state completes sameSource
        completesAgain
    exact completesAgain

/-- A disk on which no file can be given its path. -/
def withoutPermission (others : Surroundings σ) :
    Surroundings (FileTree × σ) where
  reply
    | .file (.promote _ _), state => (.error .permissionDenied, state)
    | request, state => others.withFiles.reply request state

def ofLocked (others : Surroundings σ) : Disk (withoutPermission others) where
  tree := Prod.fst
  serves request state := by
    cases request with
    | promote staged target => exact .unpromoted
    | readText path => exact .granted (.readText path)
    | isFile path => exact .granted (.isFile path)
    | makeDirectories path => exact .granted (.makeDirectories path)
    | stage directory contents => exact .granted (.stage directory contents)
    | discard staged => exact .granted (.discard staged)

/-- There is an environment source, and no directory for the manifest. -/
def bareFiles : FileTree × Rehearsal :=
  ((FileTree.empty []).plant [".env"] (.text "POSTGRES_USER=a\n"),
    .ofScript .empty)

/-- The secret is written into a new directory, and again; and a locked disk
keeps nothing of it but the directory. -/
theorem writing_all_or_nothing_bareFiles :
    let open' := ofFiles Rehearsal.performers
    let locked := ofLocked Rehearsal.performers
    let first := open'.writing ⟨".env"⟩ "ns" ⟨"k8s/secret.yaml"⟩ bareFiles
    let second := open'.writing ⟨".env"⟩ "ns" ⟨"k8s/secret.yaml"⟩ first.state
    let refused := locked.writing ⟨".env"⟩ "ns" ⟨"k8s/secret.yaml"⟩ bareFiles
    (∃ written, first.value = .ok written ∧ written.hasSource = true ∧
      Materialized ⟨".env"⟩ "ns" ⟨"k8s/secret.yaml"⟩ bareFiles.1 first.state.1
        written ∧
      second.value = .ok written) ∧
    refused.value = .error (.system .permissionDenied) ∧
      refused.state.1.node? ["k8s"] = some .directory ∧
      ∀ location, Spares ⟨"k8s/secret.yaml"⟩ bareFiles.1 refused.state.1
        location := by
  intro open' locked first second refused
  have whole :=
    writing_all_or_nothing open' ⟨".env"⟩ "ns" ⟨"k8s/secret.yaml"⟩ bareFiles
  have completes : first.value = .ok ⟨⟨"k8s/secret.yaml"⟩, true⟩ := by
    decide +kernel
  have elsewhere : first.state.1.locate ⟨".env"⟩ ≠
      first.state.1.locate ⟨"k8s/secret.yaml"⟩ := by
    decide +kernel
  have found : bareFiles.1.readText ⟨".env"⟩ ≠ .error .notFound := by
    decide +kernel
  have again :=
    whole.repeats (grantsAll_ofFiles _) _ completes elsewhere fun missing =>
    absurd (readText_eq_notFound_iff.mpr missing) found
  have fails : refused.value = .error (.system .permissionDenied) := by
    decide +kernel
  refine ⟨⟨_, completes, rfl, whole.written _ completes, again⟩, fails, rfl, ?_⟩
  exact (writing_all_or_nothing locked ⟨".env"⟩ "ns" ⟨"k8s/secret.yaml"⟩
      bareFiles).failed _ fails

end Disk

end ClusterConsole
