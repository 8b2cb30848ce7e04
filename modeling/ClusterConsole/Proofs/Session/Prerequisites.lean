import ClusterConsole.Proofs.Session.Steps

/-!
# Prerequisites

The check looks for every tool, in a fixed order, and asks for the container
runtime only if none is missing.  Its two failures are the only ones that stop
the program, and no other operation has them.
-/

namespace ClusterConsole

/-! ## The check -/

/-- The searches for some tools, with the answers. -/
def searches (answers : List (String × Bool)) : List Exchange :=
  answers.map fun answer => ⟨.find answer.1, answer.2⟩

/-- The tools that were not found. -/
def unavailable (answers : List (String × Bool)) : List String :=
  (answers.filter fun answer => !answer.2).map Prod.fst

/-- The command that asks for the container runtime. -/
def Config.runtimeQuery (config : Config) : Invocation :=
  config.inRoot config.tools.build ["info"]

/-- How the check can go.  The tools are looked for in the order of the text
that is told if some are missing. -/
inductive Checked (config : Config) :
    List Exchange → Except Failure Unit → Prop where
  | incomplete {answers : List (String × Bool)}
      (asked : answers.map Prod.fst =
        [config.tools.cluster, config.tools.control, config.tools.build])
      (isMissing : unavailable answers ≠ []) :
      Checked config (searches answers)
        (.error (.missingTools (unavailable answers)))
  | down {answers : List (String × Bool)}
      {reply : Except SystemError CommandOutput}
      (asked : answers.map Prod.fst =
        [config.tools.cluster, config.tools.control, config.tools.build])
      (found : unavailable answers = [])
      (fails : ∀ output, reply = .ok output → output.exitCode ≠ 0) :
      Checked config (searches answers ++
        [⟨.run config.runtimeQuery .probe, reply⟩])
        (.error (.runtimeUnavailable config.tools.build))
  | passed {answers : List (String × Bool)} {output : CommandOutput}
      (asked : answers.map Prod.fst =
        [config.tools.cluster, config.tools.control, config.tools.build])
      (found : unavailable answers = []) (succeeds : output.exitCode = 0) :
      Checked config (searches answers ++
        [⟨.run config.runtimeQuery .probe, .ok output⟩])
        (.ok ())

theorem Checked.isFatal {config : Config} {trace : List Exchange}
    {failure : Failure} (checked : Checked config trace (.error failure)) :
    failure.isFatal = true := by
  cases checked with
  | incomplete => rfl
  | down => rfl

namespace Operation

theorem ensures_missingTools (tools : List String) :
    Ensures (missingTools tools) fun trace result =>
      ∃ answers, answers.map Prod.fst = tools ∧ trace = searches answers ∧
        result = .ok (unavailable answers) := by
  induction tools with
  | nil => exact ensures_pure ⟨[], rfl, rfl, rfl⟩
  | cons tool rest ih =>
      apply ensures_bind
      apply ensures_request
      intro isFound
      apply Ensures.bind ih
      · rintro trace failure ⟨answers, -, -, same⟩
        cases same
      · rintro trace missing ⟨answers, asked, rfl, same⟩
        cases same
        apply ensures_pure
        refine ⟨(tool, isFound) :: answers, congrArg (tool :: ·) asked,
          by simp [searches], ?_⟩
        cases isFound with
        | true => rfl
        | false => rfl

theorem ensures_checkPrerequisites (config : Config) :
    Ensures (checkPrerequisites config) (Checked config) := by
  apply Ensures.bind (ensures_missingTools _)
  · rintro trace failure ⟨answers, -, -, same⟩
    cases same
  · rintro trace missing ⟨answers, asked, rfl, same⟩
    cases same
    cases isMissing : unavailable answers with
    | cons tool rest =>
        have incomplete := Checked.incomplete asked (by simp [isMissing])
        rw [isMissing] at incomplete
        apply ensures_bind
        exact ensures_throw (by simpa using incomplete)
    | nil =>
        apply ensures_bind
        apply ensures_result
        apply ensures_invoke
        intro reply
        cases reply with
        | error cause => exact ensures_throw (.down asked isMissing nofun)
        | ok output =>
            have goesOn : Ensures (if output.isSuccess then pure ()
                else
                  throw (.runtimeUnavailable config.tools.build))
                    fun later result =>
                  Checked config (searches answers ++
                    ([⟨.run config.runtimeQuery .probe, .ok output⟩] ++ later))
                      result := by
              cases up : output.isSuccess with
              | true =>
                  exact ensures_pure
                    (.passed asked isMissing (beq_iff_eq.mp up))
              | false =>
                  have isDown : output.exitCode ≠ 0 := beq_eq_false_iff_ne.mp up
                  exact ensures_throw
                    (.down asked isMissing (by simpa using isDown))
            exact goesOn

/-! ## Failures that stop the program -/

/-- Whatever the replies are, no failure stops the program. -/
def IsMild (operation : Operation α) : Prop :=
  Ensures operation fun _ result =>
    ∀ failure, failureOf result = some failure → failure.isFatal = false

section Rules

variable {operation : Operation α}

theorem isMild_pure (value : α) : IsMild (pure value) :=
  ensures_pure nofun

theorem isMild_throw {failure : Failure} (isMild : failure.isFatal = false) :
    IsMild (throw failure : Operation α) := by
  apply ensures_throw
  rintro own ⟨⟩
  exact isMild

theorem isMild_bind {next : α → Operation β} (first : IsMild operation)
    (rest : ∀ value, IsMild (next value)) : IsMild (operation >>= next) := by
  apply Ensures.bind first
  · intro trace failure mild
    exact mild
  · intro trace value _
    exact rest value

theorem isMild_handled {next : Except Failure α → Operation β}
    (first : IsMild operation) (failed : ∀ failure, failure.isFatal = false →
      IsMild (next (.error failure)))
    (succeeded : ∀ value, IsMild (next (.ok value))) :
    IsMild (result operation >>= next) := by
  apply ensures_bind
  apply ensures_result
  apply Ensures.mono first
  intro trace result mild
  cases result with
  | error failure => exact failed failure (mild failure rfl)
  | ok value => exact succeeded value

theorem isMild_request (asked : Request) : IsMild (request asked) :=
  ensures_request nofun

theorem isMild_ofAnswer (reply : Except String α) :
    IsMild (ofAnswer reply) := by
  cases reply with
  | error reason => exact isMild_throw rfl
  | ok answer => exact isMild_pure answer

end Rules

end Operation

theorem SecretWrite.not_fatal {source target : Path} {namespaceName : String}
    {trace : List Exchange} {failure? : Option Failure}
    (write : SecretWrite source target namespaceName trace failure?)
    (failure : Failure) (fails : failure? = some failure) :
    failure.isFatal = false := by
  cases write with
  | unread =>
      cases fails
      rfl
  | rewritten read replacement =>
      cases replacement with
      | replaced => cases fails
      | _ =>
          cases fails
          rfl

/-- No way that a task can go has a failure that stops the program. -/
theorem Task.Goes.not_fatal {task : Task} {trace : List Exchange}
    {failure? : Option Failure} (goes : task.Goes trace failure?)
    (failure : Failure) (fails : failure? = some failure) :
    failure.isFatal = false := by
  cases goes with
  | unknown missing =>
      cases fails
      rfl
  | @command invocation options reply =>
      cases reply with
      | error cause =>
          cases fails
          rfl
      | ok output =>
          rw [Invocation.failure?] at fails
          split at fails
          · cases fails
            rfl
          · cases fails
  | unanswered reason =>
      cases fails
      rfl
  | writeSecret write => exact write.not_fatal failure fails
  | _ => cases fails

theorem Follows.not_fatal {plan : List PlanStep} {earlier trace : List Exchange}
    {stop? : Option Failure} (follows : Follows plan earlier trace stop?)
    (failure : Failure) (stopped : stop? = some failure) :
    failure.isFatal = false := by
  induction follows with
  | finished => cases stopped
  | passedOver notDue rest ih => exact ih stopped
  | carriedOut due goes goesOn rest ih => exact ih stopped
  | @stopped step _ _ _ own stop due goes stops =>
      obtain rfl := Option.some.inj stopped
      cases severity : step.severity with
      | mandatory =>
          rw [severity] at stops
          obtain rfl := Option.some.inj stops
          exact goes.not_fatal _ rfl
      | tolerated =>
          rw [severity] at stops
          cases stops
      | imageLoad service image =>
          rw [severity] at stops
          obtain rfl := Option.some.inj stops
          rfl

namespace Operation

variable (config : Config)

theorem isMild_undertaking (undertaking : Undertaking) :
    IsMild (undertaking.operation config) :=
  Ensures.mono (realizes_undertaking config undertaking) fun _ _ follows =>
    follows.not_fatal

theorem isMild_materializeSecret : IsMild (materializeSecret config) :=
  Ensures.mono (realizes_materializeSecret config []) fun _ _ follows =>
    follows.not_fatal

theorem isMild_invoke (invocation : Invocation) (options : RunOptions) :
    IsMild (invoke invocation options) := by
  apply ensures_invoke
  intro reply
  rw [← Invocation.failure?_eq]
  exact (Task.Goes.command reply).not_fatal

theorem isMild_step (action : Action) (target : String)
    (invocation : Invocation) :
    IsMild (step action target invocation) :=
  isMild_bind (isMild_request _) fun _ =>
    isMild_bind (isMild_invoke _ _) fun _ => isMild_request _

theorem isMild_continueBatch (report : ImageReport) (services : List Service) :
    IsMild (continueBatch config report services) := by
  induction services generalizing report with
  | nil => exact isMild_pure report
  | cons service rest ih =>
      apply isMild_handled (isMild_step _ _ _)
      · intro failure _
        exact ih _
      · intro _
        apply isMild_handled (isMild_step _ _ _)
        · intro failure _
          exact isMild_throw rfl
        · intro _
          exact ih _

theorem isMild_snapshot (query : Invocation) : IsMild (snapshot query) :=
  isMild_bind (isMild_invoke _ _) fun _ => isMild_pure _

theorem isMild_metrics (scope : MetricsScope) : IsMild (metrics config scope) :=
  isMild_snapshot _

theorem isMild_findPod (query : String) : IsMild (findPod config query) := by
  cases found : config.logTarget? (Text.trim query) with
  | none => simpa [findPod, found] using isMild_throw rfl
  | some workload =>
      have finds := isMild_bind
          (isMild_invoke (config.podCommand workload) .probe) fun output =>
        isMild_pure output.name?
      simpa [findPod, found] using finds

theorem isMild_streamLogs (pod : String) (follow : Bool) :
    IsMild (streamLogs config pod follow) :=
  isMild_bind (isMild_invoke _ _) fun _ => isMild_pure ()

/-- Only the check itself has a failure that stops the program. -/
theorem isMild_call {call : Call} (noCheck : call ≠ .checkPrerequisites) :
    IsMild (call.operation config) := by
  cases call with
  | undertake undertaking => exact isMild_undertaking config undertaking
  | buildAll => exact isMild_continueBatch config _ _
  | writeSecret => exact isMild_materializeSecret config
  | checkPrerequisites => exact absurd rfl noCheck
  | status => exact isMild_snapshot _
  | metrics scope => exact isMild_metrics config scope
  | findPod query => exact isMild_findPod config query
  | streamLogs pod follow => exact isMild_streamLogs config pod follow

end Operation

end ClusterConsole
