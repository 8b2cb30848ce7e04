import ClusterConsole.Console.Menu
import ClusterConsole.Proofs.Procedure.AsksOnly
import ClusterConsole.Proofs.Session.Basic
import ClusterConsole.Proofs.Session.Prerequisites

/-!
# How commands end

A command of the console carries out an operation and tells how it went.
Telling never fails, so the command fails if and only if the operation does.
The menu outlives every failure of an entry; it only ends in failure when the
operator cannot be asked what to do.
-/

namespace ClusterConsole

/-! ## Writing -/

def Request.isWrite : Request → Bool
  | .write _ _ => true
  | _ => false

theorem Procedure.ensures_writing {next : Procedure α}
    {after : List Exchange → α → Prop} (emissions : List Emission)
    (goesOn : ∀ writes : List Exchange,
      (∀ exchange ∈ writes, exchange.request.isWrite = true) →
      next.Ensures fun trace value => after (writes ++ trace) value) :
    (writing emissions next).Ensures after := by
  induction emissions generalizing after with
  | nil => exact goesOn [] nofun
  | cons emission rest ih =>
      intro reply
      apply ih
      intro writes onlyWrites
      apply goesOn (⟨.write emission.channel emission.text, reply⟩ :: writes)
      intro exchange member
      rcases List.mem_cons.mp member with rfl | later
      · rfl
      · exact onlyWrites exchange later

namespace Operation

theorem ensures_say {voice : Voice} {messages : List Message}
    {after : List Exchange → Except Failure Unit → Prop}
    (told : ∀ writes : List Exchange,
      (∀ exchange ∈ writes, exchange.request.isWrite = true) →
      after writes (.ok ())) :
    Ensures (say voice messages) after := by
  apply Procedure.ensures_bind_iff.mpr
  apply Procedure.ensures_writing
  intro writes onlyWrites
  show after (writes ++ [] ++ []) (.ok ())
  simpa using told writes onlyWrites

theorem asksOnly_say {allowed : Request → Prop}
    (voice : Voice) (messages : List Message)
    (writes : ∀ request, request.isWrite = true → allowed request) :
    AsksOnly allowed (say voice messages) :=
  ensures_say fun _ onlyWrites exchange member =>
    writes _ (onlyWrites exchange member)

theorem isMild_say (voice : Voice) (messages : List Message) :
    IsMild (say voice messages) :=
  ensures_say fun _ _ => nofun

/-! ## Ending like an operation -/

/-- Whatever the replies are, there is no failure. -/
def NeverFails (operation : Operation α) : Prop :=
  Ensures operation fun _ result => failureOf result = none

/-- Whatever the replies are, there is a certain failure. -/
def FailsWith (failure : Failure) (operation : Operation α) : Prop :=
  Ensures operation fun _ result => failureOf result = some failure

theorem neverFails_say (voice : Voice) (messages : List Message) :
    NeverFails (say voice messages) :=
  ensures_say fun _ _ => rfl

theorem neverFails_bind {operation : Operation α} {next : α → Operation β}
    (first : NeverFails operation) (rest : ∀ value, NeverFails (next value)) :
    NeverFails (operation >>= next) := by
  apply Ensures.bind first
  · intro trace failure fails
    cases fails
  · intro trace value _
    exact rest value

theorem failsWith_bind {operation : Operation α} {next : α → Operation β}
    {failure : Failure} (first : NeverFails operation)
    (rest : ∀ value, FailsWith failure (next value)) :
    FailsWith failure (operation >>= next) := by
  apply Ensures.bind first
  · intro trace own fails
    cases fails
  · intro trace value _
    exact rest value

theorem failsWith_throw (failure : Failure) :
    FailsWith failure (throw failure : Operation α) :=
  ensures_throw rfl

theorem run_bind (operation : Operation α) (next : α → Operation β)
    (surroundings : Surroundings σ) (state : σ) :
    (operation >>= next).toProcedure.run surroundings state =
      let first := operation.toProcedure.run surroundings state
      match first.value with
      | .error failure => ⟨.error failure, first.trace, first.state⟩
      | .ok value =>
        let second := (next value).toProcedure.run surroundings first.state
        ⟨second.value, first.trace ++ second.trace, second.state⟩ := by
  refine (Procedure.run_bind operation.toProcedure _ state).trans ?_
  dsimp only
  cases (operation.toProcedure.run surroundings state).value with
  | error failure =>
      show (⟨.error failure, _ ++ [], _⟩ : Run σ (Except Failure β)) = _
      rw [List.append_nil]
      rfl
  | ok value => rfl

theorem run_result (operation : Operation α)
    (surroundings : Surroundings σ) (state : σ) :
    (result operation).toProcedure.run surroundings state =
      let first := operation.toProcedure.run surroundings state
      ⟨.ok first.value, first.trace, first.state⟩ := by
  refine (Procedure.run_bind operation.toProcedure _ state).trans ?_
  show (⟨_, _ ++ [], _⟩ : Run σ (Except Failure (Except Failure α))) = _
  rw [List.append_nil]
  rfl

/-- Against any surroundings, both fail alike or not at all. -/
def EndsLike (operation : Operation α) (other : Operation β) : Prop :=
  ∀ {σ : Type} (surroundings : Surroundings σ) (state : σ),
    failureOf (operation.toProcedure.run surroundings state).value =
      failureOf (other.toProcedure.run surroundings state).value

theorem endsLike_bind {operation : Operation α} {next : α → Operation β}
    (rest : ∀ value, NeverFails (next value)) :
    EndsLike (operation >>= next) operation := by
  intro σ surroundings state
  rw [run_bind]
  dsimp only
  cases (operation.toProcedure.run surroundings state).value with
  | error failure => rfl
  | ok value => exact (rest value).run surroundings _

/-- A failure is told of, and passed on. -/
theorem endsLike_handled {operation : Operation α}
    {next : Except Failure α → Operation β}
    (failed : ∀ failure, FailsWith failure (next (.error failure)))
    (succeeded : ∀ value, NeverFails (next (.ok value))) :
    EndsLike (result operation >>= next) operation := by
  intro σ surroundings state
  rw [run_bind, run_result]
  dsimp only
  cases (operation.toProcedure.run surroundings state).value with
  | error failure => exact (failed failure).run surroundings _
  | ok value => exact (succeeded value).run surroundings _

end Operation

/-! ## Commands that do not start -/

/-- Whether a command is run that does not start. -/
def Exchange.isUnstarted : Exchange → Bool
  | ⟨.run _ _, .error _⟩ => true
  | _ => false

namespace Operation

/-- Whatever the replies are, there is a failure if and only if a command does
not start. -/
def FailsUnstarted (operation : Operation α) : Prop :=
  Ensures operation fun trace result =>
    failureOf result = none ↔ ∀ exchange ∈ trace, exchange.isUnstarted = false

section Unstarted

variable {operation : Operation α}

theorem failsUnstarted_pure (value : α) : FailsUnstarted (pure value) :=
  ensures_pure (by simp [failureOf])

theorem failsUnstarted_request {asked : Request}
    (starts : ∀ reply, Exchange.isUnstarted ⟨asked, reply⟩ = false) :
    FailsUnstarted (request asked) :=
  ensures_request fun reply => by simp [failureOf, starts reply]

theorem failsUnstarted_bind {next : α → Operation β}
    (first : FailsUnstarted operation)
    (rest : ∀ value, FailsUnstarted (next value)) :
    FailsUnstarted (operation >>= next) := by
  apply Ensures.bind first
  · intro trace failure fails
    exact fails
  · intro trace value succeeds
    have started := succeeds.mp rfl
    apply Ensures.mono (rest value)
    intro later result fails
    rw [fails]
    simp only [List.mem_append, or_imp, forall_and]
    exact (and_iff_right started).symm

theorem failsUnstarted_say (voice : Voice) (messages : List Message) :
    FailsUnstarted (say voice messages) := by
  apply ensures_say
  intro writes onlyWrites
  refine ⟨fun _ exchange member => ?_, fun _ => rfl⟩
  have isWrite := onlyWrites exchange member
  obtain ⟨request, reply⟩ := exchange
  cases request with
  | write => rfl
  | _ => cases isWrite

theorem failsUnstarted_invoke {invocation : Invocation} {options : RunOptions}
    (unchecked : options.check = false) :
    FailsUnstarted (invoke invocation options) := by
  apply ensures_invoke
  intro reply
  cases reply with
  | error cause => simp [Invocation.result, failureOf, Exchange.isUnstarted]
  | ok output =>
      simp [Invocation.result, Invocation.checked, unchecked, failureOf,
        Exchange.isUnstarted]

/-- A failure is told of, and passed on. -/
theorem failsUnstarted_handled {next : Except Failure α → Operation β}
    (first : FailsUnstarted operation)
    (failed : ∀ failure, FailsWith failure (next (.error failure)))
    (succeeded : ∀ value, FailsUnstarted (next (.ok value))) :
    FailsUnstarted (result operation >>= next) := by
  apply ensures_bind
  apply ensures_result
  apply Ensures.mono first
  intro trace result fails
  cases result with
  | error failure =>
      apply Ensures.mono (failed failure)
      intro later result isFailure
      simp only [failureOf, reduceCtorEq, false_iff] at fails
      simp only [isFailure, reduceCtorEq, false_iff]
      intro started
      exact fails fun exchange member =>
        started exchange (List.mem_append_left _ member)
  | ok value =>
      have started := fails.mp rfl
      apply Ensures.mono (succeeded value)
      intro later result failsLater
      rw [failsLater]
      simp only [List.mem_append, or_imp, forall_and]
      exact (and_iff_right started).symm

/-- The end of a display loop does not change how it went. -/
theorem failsUnstarted_interruptible (body : FailsUnstarted operation) :
    FailsUnstarted (interruptible operation) := by
  apply failsUnstarted_bind (failsUnstarted_request fun _ => rfl)
  intro _
  apply ensures_bind
  apply ensures_result
  apply Ensures.mono body
  intro trace result fails
  apply ensures_bind
  apply ensures_request
  intro reply
  apply ensures_ofResult
  have isStarted : Exchange.isUnstarted ⟨.display .finish, reply⟩ = false := rfl
  rw [fails]
  simp [or_imp, forall_and, isStarted]

end Unstarted

end Operation

namespace Operation

/-! ## Display loops -/

/-- A property that a sequence has if its parts have it, and that no part lacks
which runs no command. -/
structure Composes (holds : ∀ {α : Type}, Operation α → Prop) : Prop where
  pure : ∀ {α : Type} (value : α), holds (pure value)
  bind : ∀ {α β : Type} {operation : Operation α} {next : α → Operation β},
    holds operation → (∀ value, holds (next value)) → holds (operation >>= next)
  request : ∀ {asked : Request},
    (∀ reply, Exchange.isUnstarted ⟨asked, reply⟩ = false) →
    holds (request asked)
  say : ∀ voice messages, holds (say voice messages)

theorem composes_failsUnstarted : Composes FailsUnstarted :=
  ⟨failsUnstarted_pure, failsUnstarted_bind, failsUnstarted_request,
    failsUnstarted_say⟩

theorem composes_isMild : Composes IsMild :=
  ⟨isMild_pure, isMild_bind, fun _ => isMild_request _, isMild_say⟩

variable {holds : ∀ {α : Type}, Operation α → Prop}

theorem Composes.pause (composes : Composes holds) (slices : List Nat) :
    holds (Display.pause slices) := by
  induction slices with
  | nil => exact composes.pure ()
  | cons first rest ih =>
      apply composes.bind (composes.request fun _ => rfl)
      intro isStopped
      cases isStopped with
      | true => exact composes.pure ()
      | false => exact composes.bind (composes.request fun _ => rfl) fun _ => ih

theorem Composes.frames (composes : Composes holds) {fetch : Operation String}
    (fetches : holds fetch) (voice : Voice) (title : String) (horizon : Nat) :
    holds (Display.frames voice title fetch horizon) := by
  induction horizon with
  | zero => exact composes.pure ()
  | succ horizon ih =>
      apply composes.bind (composes.request fun _ => rfl)
      intro isStopped
      cases isStopped with
      | true => exact composes.pure ()
      | false =>
          apply composes.bind fetches
          intro text
          apply composes.bind (composes.request fun _ => rfl)
          intro isStopped
          cases isStopped with
          | true => exact composes.pure ()
          | false =>
              apply composes.bind (composes.say _ _)
              intro _
              exact composes.bind (composes.pause _) fun _ => ih

end Operation

/-! ## The commands -/

/-- The call that a command makes, if it makes just one. -/
def Command.call? : Command → Option Call
  | .bootstrap => some (.undertake .bootstrap)
  | .build => some .buildAll
  | .deployInfra => some (.undertake .deployInfrastructure)
  | .deploy => some (.undertake .deployServices)
  | .ship service => some (.undertake (.ship service))
  | .applyConfig _ => some (.undertake .applyConfig)
  | .status false => some .status
  | .top scope false => some (.metrics scope)
  | .teardown => some (.undertake .teardown)
  | .secrets => some .writeSecret
  | .check => some .checkPrerequisites
  | _ => none

/-- Whether a command shows something again and again. -/
def Command.watches : Command → Bool
  | .status watches => watches
  | .top _ watches => watches
  | _ => false

namespace Console

open Operation

variable (console : Console)

theorem neverFails_say (messages : List Message) :
    NeverFails (console.say messages) :=
  Operation.neverFails_say _ _

theorem isMild_say (messages : List Message) : IsMild (console.say messages) :=
  Operation.isMild_say _ _

theorem failsWith_told (messages : List Message) (failure : Failure) :
    FailsWith failure (do
      console.say messages
      throw failure : Operation Unit) :=
  failsWith_bind (console.neverFails_say _) fun _ => failsWith_throw failure

section EndsLike

theorem endsLike_summarize (command done : String)
    (operation : Operation Outcome) :
    EndsLike (console.summarize command done operation) operation :=
  endsLike_bind fun _ => console.neverFails_say _

theorem endsLike_bootstrap :
    EndsLike console.bootstrap (Operation.bootstrap console.config) := by
  apply endsLike_handled
  · intro failure
    exact console.failsWith_told _ failure
  · intro outcome
    dsimp only
    cases outcome.warnings.any isAboutSetup with
    | true =>
      exact neverFails_bind (console.neverFails_say _) fun _ =>
        console.neverFails_say _
    | false => exact console.neverFails_say _

theorem endsLike_build : EndsLike console.build (buildAll console.config) := by
  apply endsLike_handled
  · intro failure
    exact console.failsWith_told _ failure
  · intro report
    exact console.neverFails_say _

theorem endsLike_check :
    EndsLike console.check (checkPrerequisites console.config) := by
  apply endsLike_handled
  · intro failure
    exact console.failsWith_told _ failure
  · intro _
    exact console.neverFails_say _

theorem endsLike_once (title : String) (fetch : Operation String) :
    EndsLike (console.present false title fetch) fetch :=
  endsLike_bind fun _ => Operation.neverFails_say _ _

/-- A command that makes one call ends like it. -/
theorem endsLike_perform {command : Command} {call : Call}
    (calls : command.call? = some call) :
    EndsLike (console.perform command) (call.operation console.config) := by
  cases command with
  | bootstrap =>
      cases calls
      exact console.endsLike_bootstrap
  | build =>
      cases calls
      exact console.endsLike_build
  | deployInfra =>
      cases calls
      exact console.endsLike_summarize _ _ _
  | deploy =>
      cases calls
      exact console.endsLike_summarize _ _ _
  | ship service =>
      cases calls
      exact console.endsLike_summarize _ _ _
  | applyConfig restarts =>
      cases calls
      exact console.endsLike_summarize _ _ _
  | status watches =>
      cases watches with
      | true => cases calls
      | false =>
          cases calls
          exact console.endsLike_once _ _
  | logs target follows => cases calls
  | top scope watches =>
      cases watches with
      | true => cases calls
      | false =>
          cases calls
          exact console.endsLike_once _ _
  | teardown =>
      cases calls
      exact console.endsLike_summarize _ _ _
  | services => cases calls
  | secrets =>
      cases calls
      exact endsLike_bind fun _ => console.neverFails_say _
  | check =>
      cases calls
      exact console.endsLike_check

end EndsLike

theorem failsUnstarted_snapshot (query : Invocation) :
    FailsUnstarted (snapshot query) :=
  failsUnstarted_bind (failsUnstarted_invoke rfl) fun _ => failsUnstarted_pure _

theorem failsUnstarted_watch {command : Command}
    (watches : command.watches = true) :
    FailsUnstarted (console.perform command) := by
  cases command with
  | status own =>
      cases watches
      exact failsUnstarted_interruptible
        (composes_failsUnstarted.frames (failsUnstarted_snapshot _) _ _ _)
  | top scope own =>
      cases watches
      exact failsUnstarted_interruptible
        (composes_failsUnstarted.frames (failsUnstarted_snapshot _) _ _ _)
  | _ => cases watches

/-- Logs can be shown of what is known, if all commands start; that no pod runs
is no failure. -/
theorem ensures_logs (target : String) (follows : Bool) :
    Ensures (console.perform (.logs target follows)) fun trace result =>
      (failureOf result = none ↔
        (console.config.logTarget? (Text.trim target)).isSome = true ∧
          ∀ exchange ∈ trace, exchange.isUnstarted = false) := by
  cases found : console.config.logTarget? (Text.trim target) with
  | none =>
      have unknown :
          findPod console.config target = throw
          (.unknownService (Text.trim target)) := by
        simp [findPod, found]
      have fails :
          FailsWith (.unknownService (Text.trim target))
          (console.logs target follows) := by
        unfold logs
        rw [unknown]
        apply ensures_bind
        apply ensures_result
        apply ensures_throw
        exact console.failsWith_told _ _
      apply Ensures.mono fails
      intro trace result isFailure
      simp [isFailure]
  | some workload =>
      have finds : FailsUnstarted (findPod console.config target) := by
        have invoked : FailsUnstarted
            (invoke (console.config.podCommand workload) .probe) :=
          failsUnstarted_invoke rfl
        simpa [findPod, found] using failsUnstarted_bind invoked fun _ =>
          failsUnstarted_pure _
      have shows (pod : String) (follow : Bool) :
          FailsUnstarted (streamLogs console.config pod follow) :=
        failsUnstarted_bind (failsUnstarted_invoke rfl) fun _ =>
          failsUnstarted_pure ()
      have whole : FailsUnstarted (console.logs target follows) := by
        apply failsUnstarted_handled finds
        · intro failure
          exact console.failsWith_told _ failure
        · intro pod?
          cases pod? with
          | none => exact failsUnstarted_say _ _
          | some pod =>
              apply failsUnstarted_bind (failsUnstarted_say _ _)
              intro _
              cases follows with
              | true => exact failsUnstarted_interruptible (shows pod true)
              | false => exact shows pod false
      apply Ensures.mono whole
      intro trace result fails
      simpa using fails

/-! ## Failures that stop the program -/

theorem isMild_told (messages : List Message) {failure : Failure}
    (isMild : failure.isFatal = false) :
    IsMild (do
      console.say messages
      throw failure : Operation Unit) :=
  isMild_bind (console.isMild_say _) fun _ => isMild_throw isMild

theorem isMild_summarize (command done : String) (undertaking : Undertaking) :
    IsMild (console.summarize command done
        (undertaking.operation console.config)) :=
  isMild_bind (isMild_undertaking _ undertaking) fun _ => console.isMild_say _

theorem isMild_interruptible {operation : Operation α}
    (body : IsMild operation) :
    IsMild (interruptible operation) := by
  apply isMild_bind (isMild_request _)
  intro _
  apply isMild_handled body
  · intro failure isMild
    exact isMild_bind (isMild_request _) fun _ => isMild_throw isMild
  · intro value
    exact isMild_bind (isMild_request _) fun _ => isMild_pure value

theorem isMild_present (watches : Bool) (title : String)
    {fetch : Operation String} (fetches : IsMild fetch) :
    IsMild (console.present watches title fetch) := by
  cases watches with
  | true => exact isMild_interruptible (composes_isMild.frames fetches _ _ _)
  | false => exact isMild_bind fetches fun _ => Operation.isMild_say _ _

theorem isMild_logs (target : String) (follows : Bool) :
    IsMild (console.logs target follows) := by
  apply isMild_handled (isMild_findPod _ _)
  · intro failure isMild
    exact console.isMild_told _ isMild
  · intro pod?
    cases pod? with
    | none => exact console.isMild_say _
    | some pod =>
        apply isMild_bind (console.isMild_say _)
        intro _
        cases follows with
        | true => exact isMild_interruptible (isMild_streamLogs _ _ _)
        | false => exact isMild_streamLogs _ _ _

/-- Only the check can stop the program. -/
theorem isMild_perform (command : Command) (noCheck : command ≠ .check) :
    IsMild (console.perform command) := by
  cases command with
  | bootstrap =>
      apply isMild_handled (isMild_undertaking console.config .bootstrap)
      · intro failure isMild
        exact console.isMild_told _ isMild
      · intro outcome
        dsimp only
        cases outcome.warnings.any isAboutSetup with
        | true =>
          exact isMild_bind (console.isMild_say _) fun _ => console.isMild_say _
        | false => exact console.isMild_say _
  | build =>
      apply isMild_handled (isMild_continueBatch console.config .empty _)
      · intro failure isMild
        exact console.isMild_told _ isMild
      · intro report
        exact console.isMild_say _
  | deployInfra => exact console.isMild_summarize _ _ .deployInfrastructure
  | deploy => exact console.isMild_summarize _ _ .deployServices
  | ship service => exact console.isMild_summarize _ _ (.ship service)
  | applyConfig restarts => exact console.isMild_summarize _ _ .applyConfig
  | status watches => exact console.isMild_present watches _ (isMild_snapshot _)
  | logs target follows => exact console.isMild_logs target follows
  | top scope watches =>
    exact console.isMild_present watches _ (isMild_metrics _ scope)
  | teardown => exact console.isMild_summarize _ _ .teardown
  | services => exact console.isMild_say _
  | secrets =>
    exact isMild_bind (isMild_materializeSecret _) fun _ => console.isMild_say _
  | check => exact absurd rfl noCheck

theorem isMild_select (items : List String) : IsMild (select items) :=
  isMild_bind (isMild_request _) fun _ => isMild_bind (isMild_ofAnswer _)
    fun _ => isMild_pure _

theorem isMild_dispatch (entry : MenuEntry) :
    IsMild (console.dispatch entry) := by
  cases entry with
  | bootstrap => exact console.isMild_perform .bootstrap nofun
  | buildAll => exact console.isMild_perform .build nofun
  | deployInfrastructure => exact console.isMild_perform .deployInfra nofun
  | deployServices => exact console.isMild_perform .deploy nofun
  | ship =>
      exact isMild_bind (isMild_select _) fun service =>
        console.isMild_perform (.ship service) nofun
  | applyConfig => exact console.isMild_perform (.applyConfig false) nofun
  | watchStatus => exact console.isMild_perform (.status true) nofun
  | logs =>
      apply isMild_bind (isMild_select _)
      intro target
      apply isMild_bind (isMild_request _)
      intro reply
      apply isMild_bind (isMild_ofAnswer _)
      intro follows
      exact console.isMild_perform (.logs target follows) nofun
  | nodeMetrics => exact console.isMild_perform (.top .nodes true) nofun
  | podMetrics => exact console.isMild_perform (.top .pods true) nofun
  | teardown => exact console.isMild_perform .teardown nofun
  | exit => exact isMild_pure ()

def menuQuestion (console : Console) : Request :=
  .choose "Select an option" (MenuEntry.all.map (MenuEntry.item console.voice))
    MenuEntry.start true

/-- A failure comes from the question of the menu, and ends it. -/
def EndsAtQuestion (console : Console) (trace : List Exchange)
    (result : Except Failure Unit) :
    Prop :=
  ∀ failure, failureOf result = some failure →
    ∃ reason early, failure = .prompt reason ∧
    trace = early ++ [⟨console.menuQuestion, .error reason⟩]

theorem EndsAtQuestion.append {console : Console} {early late : List Exchange}
    {result : Except Failure Unit} (ends : console.EndsAtQuestion late result) :
    console.EndsAtQuestion (early ++ late) result := by
  intro failure fails
  obtain ⟨reason, before, isPrompt, rfl⟩ := ends failure fails
  exact ⟨reason, early ++ before, isPrompt, (List.append_assoc ..).symm⟩

theorem ensures_entry (entry : MenuEntry) {next : Operation Unit}
    (rest : Ensures next console.EndsAtQuestion) :
    Ensures (do
      match ← result (console.dispatch entry) with
      | .ok () => next
      | .error failure =>
        if failure.isFatal then throw failure
        console.say (Message.ofFailure failure)
        next) console.EndsAtQuestion := by
  apply ensures_bind
  apply ensures_result
  apply Ensures.mono (console.isMild_dispatch entry)
  intro trace result mild
  cases result with
  | ok => exact Ensures.mono rest fun _ _ => .append
  | error failure =>
      simp only [mild failure rfl, Bool.false_eq_true, if_false]
      apply ensures_bind
      apply ensures_say
      intro writes _
      apply Ensures.mono rest
      intro later result ends
      exact ends.append.append

theorem ensures_menuRounds (rounds : Nat) :
    Ensures (console.menuRounds rounds) console.EndsAtQuestion := by
  induction rounds with
  | zero => exact ensures_pure nofun
  | succ rounds ih =>
      apply ensures_bind
      apply ensures_request
      intro reply
      apply ensures_bind
      cases reply with
      | error reason =>
          apply ensures_throw
          rintro failure ⟨⟩
          exact ⟨reason, [], rfl, rfl⟩
      | ok place? =>
          apply ensures_pure
          dsimp only
          have left :
              Ensures (pure () : Operation Unit) console.EndsAtQuestion :=
            ensures_pure nofun
          cases place?.bind fun place => MenuEntry.all[place]? with
          | none => exact Ensures.mono left fun _ _ => .append
          | some entry =>
              have goesOn := console.ensures_entry entry ih
              cases entry with
              | exit => exact Ensures.mono left fun _ _ => .append
              | _ => exact Ensures.mono goesOn fun _ _ => .append

theorem ensures_menu : Ensures console.menu console.EndsAtQuestion := by
  apply ensures_bind
  apply ensures_say
  intro header _
  apply Ensures.bind (console.ensures_menuRounds console.horizon)
  · intro trace failure ends
    exact ends.append
  · intro trace _ _
    apply ensures_say
    intro goodbye _
    exact nofun

end Console

end ClusterConsole
