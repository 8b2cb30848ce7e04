import ClusterConsole.Console.Run
import ClusterConsole.Proofs.Console.Commands

/-!
# Running the console

The prerequisites stand before everything that needs the tools: where they are
not met the console does nothing but say so.  The exit code tells whether all
was done, and no failure but that of the prerequisites stops the program.
-/

namespace ClusterConsole

def Request.usesTools : Request → Bool
  | .run _ _ => true
  | .find _ => true
  | _ => false

theorem AnnouncedWrite.usesNoTools {config : Config} {trace : List Exchange}
    {failure? : Option Failure} (write : AnnouncedWrite config trace failure?)
    {exchange : Exchange} (member : exchange ∈ trace) :
    exchange.request.usesTools = false := by
  rcases write.exchange_eq member with ⟨asked, reply, rfl⟩ | ⟨event, rfl⟩
  · rfl
  · rfl

/-- What depends on the tools: the menu, and every command but three. -/
def NeedsTools (command? : Option Command) : Prop :=
  command? ≠ some .services ∧ command? ≠ some .secrets ∧ command? ≠ some .check

instance (command? : Option Command) : Decidable (NeedsTools command?) :=
  inferInstanceAs (Decidable (_ ∧ _ ∧ _))

namespace Console

open Operation

theorem needsPrerequisites_iff {command? : Option Command} :
    needsPrerequisites command? = true ↔ NeedsTools command? := by
  cases command? with
  | none => simp [needsPrerequisites, NeedsTools]
  | some command =>
      cases command <;> simp [needsPrerequisites, Command.needsPrerequisites,
        NeedsTools]

/-- Carries out a command or shows the menu, when the prerequisites are met. -/
def carryOut (console : Console) : Option Command → Operation Unit
  | some command => console.perform command
  | none => console.menu

variable (console : Console) (command? : Option Command)
  (surroundings : Surroundings σ)
  (state : σ)

def checking : Run σ (Except Failure Unit) :=
  (checkPrerequisites console.config).toProcedure.run surroundings state

def beginning : σ :=
  if NeedsTools command? then (console.checking surroundings state).state
  else state

/-- How a command goes, where it may begin. -/
def carriedOut : Run σ (Except Failure Unit) :=
  (console.carryOut command?).toProcedure.run surroundings
    (console.beginning command? surroundings state)

def executed : Run σ Nat :=
  (console.execute command?).run surroundings state

def attempted : Run σ (Except Failure Unit) :=
  (console.attempt command?).toProcedure.run surroundings state

theorem attempt_of_needs (needs : NeedsTools command?) :
    console.attempt command? =
      checkPrerequisites console.config >>= fun _ =>
        console.carryOut command? := by
  have isNeeded := needsPrerequisites_iff.mpr needs
  cases command? with
  | none => rfl
  | some command => simp only [attempt, isNeeded, if_true, carryOut]

theorem attempt_of_not_needs (needsNot : ¬NeedsTools command?) :
    console.attempt command? = console.carryOut command? := by
  cases isNeeded : needsPrerequisites command? with
  | true => exact absurd (needsPrerequisites_iff.mp isNeeded) needsNot
  | false =>
      cases command? with
      | none => cases isNeeded
      | some command => simp [attempt, isNeeded, carryOut]

/-- After the attempt there is only writing, and the exit code tells how it
went. -/
theorem executed_ends :
    ∃ writes : List Exchange,
      (∀ exchange ∈ writes, exchange.request.isWrite = true) ∧
      (console.executed command? surroundings state).trace =
        (console.attempted command? surroundings state).trace ++ writes ∧
      (console.executed command? surroundings state).value =
        if failureOf (console.attempted command? surroundings state).value =
          none then 0
        else 1 := by
  have whole : console.executed command? surroundings state = _ :=
    Procedure.run_bind (console.attempt command?).toProcedure _ state
  rw [whole, attempted]
  dsimp only
  cases (Procedure.run surroundings (console.attempt command?).toProcedure
      state).value with
  | ok => exact ⟨[], nofun, rfl, rfl⟩
  | error failure =>
      have told : (Procedure.writing
          ((Message.ofFailure failure).flatMap console.voice.speak)
          (.done 1)).Ensures fun trace value =>
          (∀ exchange ∈ trace, exchange.request.isWrite = true) ∧
            value = 1 := by
        apply Procedure.ensures_writing
        intro writes onlyWrites
        exact ⟨by simpa using onlyWrites, rfl⟩
      obtain ⟨onlyWrites, isOne⟩ := told.run surroundings
        (Procedure.run surroundings (console.attempt command?).toProcedure
            state).state
      exact ⟨_, onlyWrites, rfl, isOne⟩

theorem attempted_of_unmet (needs : NeedsTools command?) {failure : Failure}
    (unmet : (console.checking surroundings state).value = .error failure) :
    (console.attempted command? surroundings state).trace =
        (console.checking surroundings state).trace ∧
      (console.attempted command? surroundings state).value =
        .error failure := by
  rw [checking] at unmet ⊢
  rw [attempted, attempt_of_needs console command? needs, run_bind]
  simp only [unmet, and_self]

theorem attempted_of_met
    (met : NeedsTools command? →
      (console.checking surroundings state).value = .ok ()) :
    (console.attempted command? surroundings state).trace =
        (if NeedsTools command? then (console.checking surroundings state).trace
            else []) ++
          (console.carriedOut command? surroundings state).trace ∧
      (console.attempted command? surroundings state).value =
        (console.carriedOut command? surroundings state).value := by
  by_cases needs : NeedsTools command?
  · have passed := met needs
    rw [checking] at passed
    simp only [attempted, carriedOut, beginning, checking, if_pos needs,
      attempt_of_needs console command? needs, run_bind, passed, and_self]
  · simp only [attempted, carriedOut, beginning, if_neg needs,
      attempt_of_not_needs console command? needs, List.nil_append, and_self]

/-- What it means that the prerequisites stand before everything. -/
structure Guarded : Prop where
  checked : Checked console.config (console.checking surroundings state).trace
    (console.checking surroundings state).value
  fatal :
    ∀ failure, (console.checking surroundings state).value = .error failure →
    failure.isFatal = true
  /-- After a failed check nothing is done but to write of it. -/
  stopped : NeedsTools command? → ∀ failure,
    (console.checking surroundings state).value = .error failure →
    (console.executed command? surroundings state).value = 1 ∧
      ∃ writes, (console.executed command? surroundings state).trace =
        (console.checking surroundings state).trace ++ writes ∧
        ∀ exchange ∈ writes, exchange.request.isWrite = true
  /-- The check comes first, then all the rest. -/
  goesOn : (NeedsTools command? →
      (console.checking surroundings state).value = .ok ()) →
    ∃ writes, (console.executed command? surroundings state).trace =
      (if NeedsTools command? then (console.checking surroundings state).trace
          else []) ++
        (console.carriedOut command? surroundings state).trace ++ writes ∧
      ∀ exchange ∈ writes, exchange.request.isWrite = true
  /-- Two commands can do without any tool. -/
  withoutTools : command? = some .services ∨ command? = some .secrets →
    ∀ exchange ∈ (console.executed command? surroundings state).trace,
      exchange.request.usesTools = false
  exit_le_one : (console.executed command? surroundings state).value ≤ 1
  exit_eq_zero : (console.executed command? surroundings state).value = 0 ↔
    (NeedsTools command? →
      (console.checking surroundings state).value = .ok ()) ∧
    failureOf (console.carriedOut command? surroundings state).value = none
  /-- A command that makes one call goes as the call does. -/
  calls : ∀ command call, command? = some command → command.call? = some call →
    failureOf (console.carriedOut command? surroundings state).value =
      failureOf ((call.operation console.config).toProcedure.run surroundings
        (console.beginning command? surroundings state)).value
  /-- What is shown again and again is shown as long as its commands start. -/
  watches : ∀ command, command? = some command → command.watches = true →
    (failureOf (console.carriedOut command? surroundings state).value = none ↔
      ∀ exchange ∈ (console.carriedOut command? surroundings state).trace,
        exchange.isUnstarted = false)
  logs : ∀ target follows, command? = some (.logs target follows) →
    (failureOf (console.carriedOut command? surroundings state).value = none ↔
      (console.config.logTarget? (Text.trim target)).isSome = true ∧
        ∀ exchange ∈ (console.carriedOut command? surroundings state).trace,
          exchange.isUnstarted = false)
  services : command? = some .services →
    failureOf (console.carriedOut command? surroundings state).value = none
  /-- The menu fails only where the operator cannot be asked. -/
  menu : command? = none → console.EndsAtQuestion
    (console.carriedOut command? surroundings state).trace
    (console.carriedOut command? surroundings state).value
  mild : command? ≠ some .check → ∀ failure,
    failureOf (console.carriedOut command? surroundings state).value =
      some failure →
    failure.isFatal = false
  mildCall : ∀ (call : Call) (before : σ) (failure : Failure),
    call ≠ .checkPrerequisites →
    failureOf ((call.operation console.config).toProcedure.run surroundings
        before).value =
      some failure → failure.isFatal = false
  mildEntry : ∀ entry before failure,
    failureOf ((console.dispatch entry).toProcedure.run surroundings
        before).value =
      some failure → failure.isFatal = false

theorem exit_eq_zero_iff :
    (console.executed command? surroundings state).value ≤ 1 ∧
      ((console.executed command? surroundings state).value = 0 ↔
        (NeedsTools command? →
          (console.checking surroundings state).value = .ok ()) ∧
        failureOf (console.carriedOut command? surroundings state).value =
          none) := by
  obtain ⟨-, -, -, exit⟩ := console.executed_ends command? surroundings state
  by_cases met : NeedsTools command? →
      (console.checking surroundings state).value = .ok ()
  · rw [(console.attempted_of_met command? surroundings state met).2] at exit
    rw [exit]
    constructor
    · split <;> decide
    · simpa using fun _ => met
  · obtain ⟨needs, unmet⟩ := Classical.not_imp.mp met
    cases result : (console.checking surroundings state).value with
    | ok => exact absurd result unmet
    | error failure =>
        rw [(console.attempted_of_unmet command? surroundings state needs
              result).2] at exit
        rw [exit]
        simp [needs, failureOf]

theorem withoutTools
    (isOne : command? = some .services ∨ command? = some .secrets) :
    ∀ exchange ∈ (console.executed command? surroundings state).trace,
      exchange.request.usesTools = false := by
  have writes : ∀ request : Request, request.isWrite = true →
      request.usesTools = false := by
    intro request isWrite
    cases request with
    | write => rfl
    | _ => cases isWrite
  have attempts : AsksOnly (fun request => request.usesTools = false)
      (console.attempt command?) := by
    rcases isOne with rfl | rfl
    · exact asksOnly_say _ _ writes
    · have materializes : AsksOnly (fun request => request.usesTools = false)
          (materializeSecret console.config) :=
        Ensures.mono (ensures_materializeSecret console.config)
          fun _ _ write _ member =>
          write.usesNoTools member
      exact asksOnly_bind materializes fun _ => asksOnly_say _ _ writes
  obtain ⟨told, onlyWrites, trace, -⟩ :=
    console.executed_ends command? surroundings state
  intro exchange member
  rw [trace] at member
  rcases List.mem_append.mp member with early | late
  · exact attempts.run surroundings state exchange early
  · exact writes _ (onlyWrites exchange late)

/-- Whatever the console is told to do and whatever the tools do, the
prerequisites stand before it. -/
theorem execute_guarded : console.Guarded command? surroundings state where
  checked := (ensures_checkPrerequisites console.config).run surroundings state
  fatal failure unmet := by
    have checked :=
      (ensures_checkPrerequisites console.config).run surroundings state
    rw [checking] at unmet
    rw [unmet] at checked
    exact checked.isFatal
  stopped needs failure unmet := by
    obtain ⟨writes, onlyWrites, trace, exit⟩ :=
      console.executed_ends command? surroundings state
    obtain ⟨sameTrace, sameValue⟩ :=
      console.attempted_of_unmet command? surroundings state needs unmet
    rw [sameValue] at exit
    rw [sameTrace] at trace
    exact ⟨exit, writes, trace, onlyWrites⟩
  goesOn met := by
    obtain ⟨writes, onlyWrites, trace, -⟩ :=
      console.executed_ends command? surroundings state
    rw [(console.attempted_of_met command? surroundings state met).1] at trace
    exact ⟨writes, trace, onlyWrites⟩
  withoutTools := console.withoutTools command? surroundings state
  exit_le_one := (console.exit_eq_zero_iff command? surroundings state).1
  exit_eq_zero := (console.exit_eq_zero_iff command? surroundings state).2
  calls command call isCommand makes := by
    subst isCommand
    exact console.endsLike_perform makes surroundings _
  watches command isCommand isWatch := by
    subst isCommand
    exact (console.failsUnstarted_watch isWatch).run surroundings _
  logs target follows isCommand := by
    subst isCommand
    exact (console.ensures_logs target follows).run surroundings _
  services isCommand := by
    subst isCommand
    exact (console.neverFails_say _).run surroundings _
  menu isMenu := by
    subst isMenu
    exact console.ensures_menu.run surroundings _
  mild noCheck failure fails := by
    cases command? with
    | none =>
        obtain ⟨reason, -, rfl, -⟩ :=
          console.ensures_menu.run surroundings _ failure fails
        rfl
    | some command =>
        have isOther : command ≠ .check := fun same =>
          noCheck (congrArg some same)
        exact (console.isMild_perform command isOther).run surroundings _
          failure fails
  mildCall call before failure noCheck fails :=
    (isMild_call console.config noCheck).run surroundings before failure fails
  mildEntry entry before failure fails :=
    (console.isMild_dispatch entry).run surroundings before failure fails

end Console

end ClusterConsole
