import ClusterConsole.Proofs.Session.Plan

/-!
# Every undertaking follows its plan

An operation realizes a plan if each of its traces follows the plan and its
result is the failure that the plan stops with, if there is one.  The rules
below take an operation apart along its plan, one step after the other.
-/

namespace ClusterConsole

def failureOf : Except Failure α → Option Failure
  | .error failure => some failure
  | .ok _ => none

theorem visible_append (early late : List Exchange) :
    visible (early ++ late) = visible early ++ visible late :=
  List.filter_append ..

/-! ## Commands -/

namespace Invocation

variable {invocation : Invocation} {options : RunOptions}
  {reply : Except SystemError CommandOutput}

theorem failure?_eq (invocation : Invocation) (options : RunOptions)
    (reply : Except SystemError CommandOutput) :
    invocation.failure? options reply =
      failureOf (invocation.result options reply) := by
  cases reply with
  | error cause => rfl
  | ok output =>
      by_cases failed : options.check = true ∧ output.exitCode ≠ 0
      · simp [failure?, result, checked, CommandOutput.isSuccess,
          failureOf, failed]
      · have passes : (options.check && !output.isSuccess) = false := by
          simpa [CommandOutput.isSuccess] using failed
        simp only [failure?, failed, result, checked, passes]
        rfl

theorem goes_failed {failure : Failure}
    (failed : invocation.result options reply = .error failure) :
    (Task.command invocation options).Goes [⟨.run invocation options, reply⟩]
      (some failure) := by
  have same : invocation.failure? options reply = some failure := by
    rw [failure?_eq, failed, failureOf]
  rw [← same]
  exact .command reply

theorem goes_succeeded {output : CommandOutput}
    (succeeded : invocation.result options reply = .ok output) :
    (Task.command invocation options).Goes
    [⟨.run invocation options, reply⟩] none := by
  have same : invocation.failure? options reply = none := by
    rw [failure?_eq, succeeded, failureOf]
  rw [← same]
  exact .command reply

/-- A checked command that does not fail has succeeded. -/
theorem isSuccess_of_succeeded {output : CommandOutput}
    (succeeded : invocation.result .checked reply = .ok output) :
    Exchange.isSuccess ⟨.run invocation .checked, reply⟩ = true := by
  obtain ⟨rfl, isSuccess⟩ := result_eq_ok_iff.mp succeeded
  exact isSuccess rfl

theorem isSuccess_of_failed {failure : Failure}
    (failed : invocation.result .checked reply = .error failure) :
    Exchange.isSuccess ⟨.run invocation .checked, reply⟩ = false := by
  obtain ⟨cause, rfl, -⟩ | ⟨output, rfl, -, notSuccess, -⟩ :=
    result_eq_error_iff.mp failed
  · rfl
  · exact notSuccess

end Invocation

/-! ## When a step is due -/

namespace Due

variable {earlier : List Exchange} {invocation : Invocation}
  {options : RunOptions}
  {reply : Except SystemError CommandOutput} {question : String} {answer : Bool}

theorem withConsent_answer :
    withConsent (earlier ++ [⟨.confirm question false, .ok answer⟩]) =
      answer := by
  cases answer with
  | _ => simp [withConsent, Exchange.isQuestion, Exchange.isConsent]

theorem withConsent_run :
    withConsent (earlier ++ [⟨.run invocation options, reply⟩]) =
      withConsent earlier := by
  simp [withConsent, Exchange.isQuestion]

theorem unlessRefused_run :
    unlessRefused (earlier ++ [⟨.run invocation options, reply⟩]) =
      unlessRefused earlier := by
  simp [unlessRefused, Exchange.isQuestion]

theorem whenFound_lookUp {path : Path} {isThere : Bool} :
    whenFound (earlier ++ [⟨.file (.isFile path), isThere⟩]) = isThere := by
  simp [whenFound, Exchange.isLookup, Exchange.isFound]

theorem whenFound_run :
    whenFound (earlier ++ [⟨.run invocation options, reply⟩]) =
      whenFound earlier := by
  simp [whenFound, Exchange.isLookup]

theorem afterSuccess_succeeded {output : CommandOutput}
    (succeeded : invocation.result .checked reply = .ok output) :
    afterSuccess (earlier ++ [⟨.run invocation .checked, reply⟩]) = true := by
  simp [afterSuccess, Invocation.isSuccess_of_succeeded succeeded]

theorem afterSuccess_failed {failure : Failure}
    (failed : invocation.result .checked reply = .error failure) :
    afterSuccess (earlier ++ [⟨.run invocation .checked, reply⟩]) = false := by
  simp [afterSuccess, Invocation.isSuccess_of_failed failed]

end Due

/-! ## Plans in a row -/

theorem Follows.append {front back : List PlanStep}
    {earlier trace later : List Exchange} {first? stop? : Option Failure}
    (first : Follows front earlier trace first?) (finishes : first? = none)
    (second : Follows back (earlier ++ trace) later stop?) :
    Follows (front ++ back) earlier (trace ++ later) stop? := by
  -- The induction goes along the first plan; that it stops is excluded by
  -- `finishes`.
  induction first with
  | finished => simpa using second
  | passedOver notDue rest ih => exact .passedOver notDue (ih finishes second)
  | @carriedOut step plan earlier exchanges trace failure? stop? due goes goesOn
    rest ih =>
      have later := ih finishes (by simpa [List.append_assoc] using second)
      simpa [List.append_assoc] using Follows.carriedOut due goes goesOn later
  | stopped due goes stops => cases finishes

theorem Follows.append_stopped {front back : List PlanStep}
    {earlier trace : List Exchange} {failure? : Option Failure}
    (first : Follows front earlier trace failure?)
    (isStopped : failure? ≠ none) :
    Follows (front ++ back) earlier trace failure? := by
  induction first with
  | finished => exact absurd rfl isStopped
  | passedOver notDue rest ih => exact .passedOver notDue (ih isStopped)
  | carriedOut due goes goesOn rest ih =>
    exact .carriedOut due goes goesOn (ih isStopped)
  | stopped due goes stops => exact .stopped due goes stops

namespace Operation

/-- Whatever the replies are, an operation follows a plan after `earlier`. -/
def Realizes (plan : List PlanStep) (earlier : List Exchange)
    (operation : Operation α) : Prop :=
  Ensures operation fun trace result =>
    Follows plan earlier (visible trace) (failureOf result)

section Rules

variable {plan : List PlanStep} {earlier : List Exchange}
  {isDue : List Exchange → Bool}

theorem realizes_pure {value : α} : Realizes [] earlier (pure value) :=
  ensures_pure .finished

theorem realizes_passOver {task : Task} {severity : Severity}
    {operation : Operation α} (notDue : isDue earlier = false)
    (rest : Realizes plan earlier operation) :
    Realizes (⟨task, isDue, severity⟩ :: plan) earlier operation :=
  Ensures.mono rest fun _ _ => .passedOver notDue

/-- A part of an operation realizes a part of the plan. -/
theorem realizes_bind {front back : List PlanStep} {first : Operation α}
    {next : α → Operation β} (realizes : Realizes front earlier first)
    (rest : ∀ trace value, Realizes back (earlier ++ trace) (next value)) :
    Realizes (front ++ back) earlier (first >>= next) := by
  apply Ensures.bind realizes
  · intro trace failure follows
    exact follows.append_stopped (by simp [failureOf])
  · intro trace value follows
    apply Ensures.mono (rest (visible trace) value)
    intro later result second
    simpa [visible_append] using follows.append rfl second

theorem realizes_announce {event : Event} {next : Unit → Operation α}
    (rest : Realizes plan earlier (next ())) :
    Realizes plan earlier (announce event >>= next) :=
  ensures_bind (ensures_announce rest)

/-- A command that has to succeed, and that is announced. -/
theorem realizes_step {action : Action} {target : String}
    {invocation : Invocation} {next : Unit → Operation α}
    (due : isDue earlier = true)
    (rest : ∀ reply output, invocation.result .checked reply = .ok output →
      Realizes plan (earlier ++ [⟨.run invocation .checked, reply⟩])
        (next ())) :
    Realizes (⟨.command invocation .checked, isDue, .mandatory⟩ :: plan) earlier
      (step action target invocation >>= next) := by
  apply ensures_bind
  apply ensures_step
  · intro reply failure failed
    exact .stopped due (Invocation.goes_failed failed) rfl
  · intro reply output succeeded
    apply Ensures.mono (rest reply output succeeded)
    intro later result follows
    exact .carriedOut due (Invocation.goes_succeeded succeeded) rfl follows

/-- A command that has to start, and to succeed if that is checked. -/
theorem realizes_invoke {invocation : Invocation} {options : RunOptions}
    {next : CommandOutput → Operation α} (due : isDue earlier = true)
    (rest : ∀ reply output, invocation.result options reply = .ok output →
      Realizes plan (earlier ++ [⟨.run invocation options, reply⟩])
        (next output)) :
    Realizes (⟨.command invocation options, isDue, .mandatory⟩ :: plan) earlier
      (invoke invocation options >>= next) := by
  apply ensures_bind
  apply ensures_invoke
  intro reply
  cases result : invocation.result options reply with
  | error failure => exact .stopped due (Invocation.goes_failed result) rfl
  | ok output =>
      apply Ensures.mono (rest reply output result)
      intro later end? follows
      exact .carriedOut due (Invocation.goes_succeeded result) rfl follows

theorem realizes_tolerated {invocation : Invocation} {options : RunOptions}
    {next : Except Failure CommandOutput → Operation α}
    (due : isDue earlier = true)
    (rest : ∀ reply, Realizes plan
        (earlier ++ [⟨.run invocation options, reply⟩])
      (next (invocation.result options reply))) :
    Realizes (⟨.command invocation options, isDue, .tolerated⟩ :: plan) earlier
      (result (invoke invocation options) >>= next) := by
  apply ensures_bind
  apply ensures_result
  apply ensures_invoke
  intro reply
  apply Ensures.mono (rest reply)
  intro later end? follows
  have goesOn :
      (invocation.failure? options reply).bind Severity.tolerated.stop? =
        none := by
    cases invocation.failure? options reply with
    | none => rfl
    | some failure => rfl
  exact .carriedOut due (.command reply) goesOn follows

/-- A command whose failure is tolerated, and that is announced. -/
theorem realizes_attempt {action : Action} {target : String}
    {invocation : Invocation} {next : Except Failure Unit → Operation α}
    (due : isDue earlier = true)
    (failed : ∀ reply failure, invocation.result .checked reply =
      .error failure →
      Realizes plan (earlier ++ [⟨.run invocation .checked, reply⟩])
        (next (.error failure)))
    (succeeded : ∀ reply output, invocation.result .checked reply = .ok output →
      Realizes plan (earlier ++ [⟨.run invocation .checked, reply⟩])
        (next (.ok ()))) :
    Realizes (⟨.command invocation .checked, isDue, .tolerated⟩ :: plan) earlier
      (result (step action target invocation) >>= next) := by
  apply ensures_bind
  apply ensures_result
  apply ensures_step
  · intro reply failure result
    apply Ensures.mono (failed reply failure result)
    intro later end? follows
    exact .carriedOut due (Invocation.goes_failed result) rfl follows
  · intro reply output result
    apply Ensures.mono (succeeded reply output result)
    intro later end? follows
    exact .carriedOut due (Invocation.goes_succeeded result) rfl follows

theorem realizes_consent {question : String} {next : Bool → Operation α}
    (due : isDue earlier = true)
    (rest : ∀ answer, Realizes plan
        (earlier ++ [⟨.confirm question false, .ok answer⟩])
      (next answer)) :
    Realizes (⟨.ask question, isDue, .mandatory⟩ :: plan) earlier
      (consent question >>= next) := by
  apply ensures_consent
  · intro reason
    exact .stopped due (.unanswered reason) rfl
  · intro answer
    apply Ensures.mono (rest answer)
    intro later end? follows
    exact .carriedOut due (.answered answer) rfl follows

end Rules

/-! ## The parts of the undertakings -/

variable (config : Config) (earlier : List Exchange)

theorem realizes_applyManifest (manifest : Path) :
    Realizes [config.applyStep manifest] earlier
      (applyManifest config manifest) := by
  have realizes : Realizes [config.applyStep manifest] earlier
      (applyManifest config manifest >>= pure) :=
    realizes_step rfl fun _ _ _ => realizes_pure
  simpa using realizes

/-- The namespace is created only when the query says that it is not there. -/
theorem realizes_ensureNamespace :
    Realizes
      [.must (.command config.namespaceQuery .probe),
        ⟨.command config.namespaceCommand .checked, Due.afterNegative,
          .mandatory⟩]
      earlier (ensureNamespace config) := by
  apply realizes_invoke rfl
  intro reply output result
  cases (Invocation.result_eq_ok_iff.mp result).1
  cases found : output.isSuccess with
  | true =>
      have notDue : Due.afterNegative
          (earlier ++ [⟨.run config.namespaceQuery .probe, .ok output⟩]) =
            false := by
        simp [Due.afterNegative, Exchange.isNegative, found]
      have nothing : Realizes []
          (earlier ++ [⟨.run config.namespaceQuery .probe, .ok output⟩])
          (pure () : Operation Unit) := realizes_pure
      simpa [found] using realizes_passOver notDue nothing
  | false =>
      have due : Due.afterNegative
          (earlier ++ [⟨.run config.namespaceQuery .probe, .ok output⟩]) =
            true := by
        simp [Due.afterNegative, Exchange.isNegative, found]
      have creates : Realizes
          [⟨.command config.namespaceCommand .checked, Due.afterNegative,
            .mandatory⟩]
          (earlier ++ [⟨.run config.namespaceQuery .probe, .ok output⟩])
          (step .createNamespace config.namespaceName
            config.namespaceCommand >>= pure) :=
        realizes_step due fun _ _ _ => realizes_pure
      simpa [found] using creates

theorem realizes_settle : Realizes [] earlier (settle config) := by
  unfold settle
  by_cases none : config.readiness.settleMs = 0
  · have nothing : Realizes [] earlier (pure () : Operation Unit) :=
      realizes_pure
    simpa [none] using nothing
  · have pauses :
        Realizes [] earlier (request (.settle config.readiness.settleMs)) :=
      ensures_request fun _ => .finished
    simpa [none] using pauses

theorem realizes_awaitReady (probe : Probe) (outcome : Outcome)
    {isDue : List Exchange → Bool} (due : isDue earlier = true) :
    Realizes [config.waitStep probe isDue] earlier
      (awaitReady config probe outcome) := by
  show Realizes [⟨.command (config.waitCommand probe) .unchecked, isDue,
      .tolerated⟩] earlier _
  unfold awaitReady wait
  simp only [bind_assoc]
  apply realizes_announce
  apply realizes_tolerated due
  intro reply
  cases (config.waitCommand probe).result .unchecked reply with
  | error failure => exact realizes_announce realizes_pure
  | ok output =>
      cases ready : output.isSuccess with
      | true =>
          simp only [ready, if_true, bind_assoc]
          exact realizes_announce realizes_pure
      | false =>
          simp only [ready, Bool.false_eq_true, if_false]
          exact realizes_announce realizes_pure

/-! ## Writing the secret -/

theorem ensures_replaceFile (path : Path) (contents : String) :
    Ensures (replaceFile path contents) fun trace result =>
      Replacement path contents trace (failureOf result) := by
  apply ensures_bind
  apply ensures_request
  intro made
  apply ensures_bind
  cases made with
  | error cause => exact .unplaced
  | ok =>
      apply ensures_pure
      apply ensures_bind
      apply ensures_request
      intro reply
      apply ensures_bind
      cases reply with
      | error cause => exact .unstaged
      | ok staged =>
          apply ensures_pure
          apply ensures_bind
          apply ensures_request
          intro promoted
          cases promoted with
          | error cause =>
            exact ensures_bind (ensures_request fun _ => .unpromoted)
          | ok => exact .replaced

theorem ensures_writeSecret (source : Path) (namespaceName : String)
    (output : Path) :
    Ensures (writeSecret source namespaceName output) fun trace result =>
      SecretWrite source output namespaceName trace (failureOf result) := by
  have rewrites {reply : Except SystemError String} {text : String}
      (hasSource : Bool)
      (read : sourceText? reply = some text) :
      Ensures (do
        replaceFile output
          ((SecretMaterial.resolve (.parse text)).render namespaceName)
        return (⟨output, hasSource⟩ : WrittenSecret)) fun later result =>
          SecretWrite source output namespaceName
            (⟨.file (.readText source), reply⟩ :: later)
              (failureOf result) := by
    apply Ensures.bind (ensures_replaceFile output _)
    · intro trace failure replacement
      exact .rewritten read replacement
    · intro trace _ replacement
      exact ensures_pure (by simpa using .rewritten read replacement)
  apply ensures_bind
  apply ensures_bind
  apply ensures_request
  intro reply
  cases reply with
  | ok text => exact rewrites true rfl
  | error cause =>
      by_cases absent : cause = .notFound
      · subst absent
        exact rewrites false rfl
      · have unreadable : sourceText? (.error cause) = none := by
          simp [sourceText?, absent]
        simpa [absent] using ensures_throw (.unread unreadable)

theorem visible_replacement {target : Path} {contents : String}
    {trace : List Exchange} {failure? : Option Failure}
    (replacement : Replacement target contents trace failure?) :
    visible trace = trace := by
  cases replacement with
  | _ => rfl

theorem visible_secretWrite {source target : Path} {namespaceName : String}
    {trace : List Exchange} {failure? : Option Failure}
    (write : SecretWrite source target namespaceName trace failure?) :
    visible trace = trace := by
  cases write with
  | unread unreadable => rfl
  | rewritten read replacement =>
    exact congrArg _ (visible_replacement replacement)

theorem realizes_materializeSecret :
    Realizes [config.secretStep] earlier (materializeSecret config) := by
  have writes : Realizes [config.secretStep] earlier
      (writeSecret config.sourcePath config.namespaceName
          config.secretPath) := by
    apply Ensures.mono (ensures_writeSecret _ _ _)
    intro trace result write
    rw [visible_secretWrite write]
    cases result with
    | error failure => exact .stopped rfl (.writeSecret write) rfl
    | ok written =>
        have follows : Follows [config.secretStep] earlier (trace ++ []) none :=
          .carriedOut rfl (.writeSecret write) rfl .finished
        simpa [failureOf] using follows
  apply realizes_announce
  apply realizes_bind writes
  intro trace written
  have finishes : Realizes [] (earlier ++ trace) (do
      announce (.finished .writeSecrets config.secretPath.text)
      return written) := realizes_announce realizes_pure
  cases sourced : written.hasSource with
  | true => simpa [sourced] using finishes
  | false => simpa [sourced] using realizes_announce finishes

/-! ## The undertakings -/

theorem realizes_deployInfrastructure :
    Realizes (Undertaking.deployInfrastructure.plan config) earlier
      (deployInfrastructure config) := by
  apply realizes_bind (realizes_ensureNamespace config earlier)
  intro _ _
  apply realizes_bind (realizes_applyManifest config _ _)
  intro _ _
  apply realizes_bind (realizes_settle config _)
  intro _ _
  apply realizes_bind (realizes_applyManifest config _ _)
  intro _ _
  apply realizes_bind (realizes_materializeSecret config _)
  intro _ _
  apply realizes_bind (realizes_applyManifest config _ _)
  intro _ _
  apply realizes_bind (realizes_applyManifest config _ _)
  intro _ _
  exact realizes_awaitReady config _ config.datastoreProbe .completed rfl

theorem realizes_deployServices :
    Realizes (Undertaking.deployServices.plan config) earlier
      (deployServices config) := by
  apply realizes_bind (realizes_applyManifest config _ _)
  intro _ _
  apply realizes_bind (realizes_applyManifest config _ _)
  intro _ _
  exact realizes_pure

theorem realizes_restartAll (due : Due.withConsent earlier = true) :
    Realizes
      [⟨.command (config.restartCommand "deployment") .checked, Due.withConsent,
          .mandatory⟩,
        ⟨.command (config.restartCommand "statefulset") .checked,
          Due.withConsent, .mandatory⟩]
      earlier (restartAll config) := by
  apply realizes_step due
  intro reply output _
  have last : Realizes
      [⟨.command (config.restartCommand "statefulset") .checked,
          Due.withConsent, .mandatory⟩]
      (earlier ++ [⟨.run (config.restartCommand "deployment") .checked, reply⟩])
      (restart config "statefulset" >>= pure) :=
    realizes_step (Due.withConsent_run.trans due) fun _ _ _ => realizes_pure
  simpa using last

/-- Nothing but the question comes before the deletion. -/
theorem realizes_teardown :
    Realizes (Undertaking.teardown.plan config) [] (teardown config) := by
  apply realizes_consent rfl
  intro answer
  cases answer with
  | true => exact realizes_step rfl fun _ _ _ => realizes_pure
  | false => exact realizes_passOver rfl realizes_pure

theorem realizes_applyConfig :
    Realizes (Undertaking.applyConfig.plan config) earlier
      (applyConfig config) := by
  apply realizes_bind (realizes_materializeSecret config _)
  intro _ _
  apply realizes_bind (realizes_applyManifest config _ _)
  intro _ _
  apply realizes_consent rfl
  intro answer
  cases answer with
  | true =>
      exact realizes_bind (realizes_restartAll config _ Due.withConsent_answer)
        fun _ _ => realizes_pure
  | false =>
      exact realizes_passOver Due.withConsent_answer
        (realizes_passOver Due.withConsent_answer realizes_pure)

theorem realizes_installBaseline (outcome : Outcome)
    (due : Due.unlessRefused earlier = true) :
    Realizes config.setUpPlan.tail earlier
      (installBaseline config outcome) := by
  show Realizes
    [⟨.command config.ingressCommand .checked, Due.unlessRefused, .tolerated⟩,
      config.waitStep config.ingressProbe Due.afterSuccess] earlier _
  apply realizes_announce
  apply realizes_tolerated due
  intro reply
  cases result : config.ingressCommand.result .checked reply with
  | error failure =>
      apply realizes_passOver (Due.afterSuccess_failed result)
      exact realizes_announce realizes_pure
  | ok output =>
      apply realizes_announce
      exact realizes_awaitReady config _ _ outcome
        (Due.afterSuccess_succeeded result)

theorem realizes_setUpCluster (due : Due.unlessRefused earlier = true) :
    Realizes config.setUpPlan earlier (setUpCluster config) := by
  apply realizes_step due
  intro reply output _
  exact realizes_installBaseline config _ .completed
    (Due.unlessRefused_run.trans due)

/-- An existing cluster is deleted with consent only, and without it nothing is
created. -/
theorem realizes_bootstrap :
    Realizes (Undertaking.bootstrap.plan config) [] (bootstrap config) := by
  unfold bootstrap clusterState
  simp only [bind_assoc, pure_bind]
  apply realizes_invoke rfl
  intro reply output result
  -- Whether the next steps are due is read off the reply, which is the output
  -- itself.
  cases (Invocation.result_eq_ok_iff.mp result).1
  cases listed : ClusterState.ofListing config.cluster.name output.stdout with
  | absent =>
      have notListed : Due.whenListed config.cluster.name
          ([] ++ [⟨.run config.listCommand .captured, .ok output⟩]) =
            false := by
        simp [Due.whenListed, Exchange.lists, listed]
      apply realizes_passOver notListed
      apply realizes_passOver rfl
      exact realizes_setUpCluster config _ rfl
  | present =>
      have isListed : Due.whenListed config.cluster.name
          ([] ++ [⟨.run config.listCommand .captured, .ok output⟩]) = true := by
        simp [Due.whenListed, Exchange.lists, listed]
      apply realizes_consent isListed
      intro answer
      cases answer with
      | true =>
        exact realizes_step rfl fun _ _ _ => realizes_setUpCluster config _ rfl
      | false =>
          apply realizes_passOver rfl
          apply realizes_passOver rfl
          apply realizes_passOver rfl
          exact realizes_passOver rfl realizes_pure

theorem buildCommand_eq (service : Service) :
    config.buildCommand
      (service.buildArgumentList (service.imageTag config.registry)) =
      config.imageBuild service := by
  obtain ⟨name, alias?, context?, dockerfile?, buildArguments?⟩ := service
  cases context? <;> cases dockerfile? <;> cases buildArguments? <;> rfl

theorem buildImage_eq (service : Service) :
    buildImage config service =
      step .buildImage (config.tag service) (config.imageBuild service) :=
  congrArg (step .buildImage (config.tag service))
    (buildCommand_eq config service)

/-- A load that fails is the failure to load the image of the service. -/
theorem realizes_buildAndLoad (service : Service) :
    Realizes [config.buildStep service, config.loadStep service] earlier
      (buildAndLoad config [service]) := by
  unfold buildAndLoad continueBatch
  rw [buildImage_eq]
  apply realizes_attempt rfl
  · intro reply failure failed
    apply realizes_passOver (Due.afterSuccess_failed failed)
    exact realizes_pure
  · intro reply output succeeded
    have due : (config.loadStep service).isDue
        (earlier ++ [⟨.run _ .checked, reply⟩]) = true :=
      Due.afterSuccess_succeeded succeeded
    -- The failure is replaced by another one, so none of the rules for steps
    -- applies.
    apply ensures_bind
    apply ensures_result
    apply ensures_step
    · intro later failure failed
      exact .stopped due (Invocation.goes_failed failed) rfl
    · intro later output loaded
      apply ensures_pure
      show Follows [config.loadStep service] _
        ([⟨.run _ .checked, later⟩] ++ []) none
      exact .carriedOut due (Invocation.goes_succeeded loaded) rfl .finished

/-- Without a manifest there is nothing to apply and nothing to restart. -/
theorem realizes_deployService (service : Service) :
    Realizes ((config.shipPlan service).drop 2) earlier
      (deployService config service) := by
  -- The first two steps of the plan are done before, and the look-up is the
  -- third one.
  apply ensures_bind
  apply ensures_request
  intro isThere
  have found : Due.whenFound (earlier ++ [⟨.file (.isFile
      (config.resolve (service.manifest config.layout.services))),
      isThere⟩]) = isThere :=
    Due.whenFound_lookUp
  have deploys : Realizes ((config.shipPlan service).drop 3)
      (earlier ++ [⟨.file (.isFile
        (config.resolve (service.manifest config.layout.services))), isThere⟩])
      (if isThere then do
        applyManifest config (service.manifest config.layout.services)
        restart config ("deployment/" ++ service.name)
        return Outcome.completed
      else
        degrade .completed
          (.noManifest (service.manifest config.layout.services))) := by
    cases isThere with
    | true =>
        exact realizes_step found fun _ _ _ =>
          realizes_step (Due.whenFound_run.trans found) fun _ _ _ =>
            realizes_pure
    | false =>
        apply realizes_passOver found
        apply realizes_passOver found
        exact realizes_announce realizes_pure
  apply Ensures.mono deploys
  intro later result follows
  exact .carriedOut rfl (.lookUp isThere) rfl follows

theorem realizes_ship (query : String) :
    Realizes ((Undertaking.ship query).plan config) [] (ship config query) := by
  cases found : config.roster.resolve? query with
  | none =>
      simp only [Undertaking.plan, ship, found]
      apply ensures_throw
      exact .stopped rfl (.unknown found) rfl
  | some service =>
      simp only [Undertaking.plan, ship, found]
      have ships : Realizes (config.shipPlan service) [] (do
          let report ← buildAndLoad config [service]
          let deployed ← deployService config service
          return (Outcome.completed.recordImages report).absorb deployed) := by
        apply realizes_bind (realizes_buildAndLoad config _ service)
        intro trace report
        exact realizes_bind (realizes_deployService config _ service) fun _ _ =>
          realizes_pure
      apply Ensures.mono ships
      intro trace result follows
      show Follows (.must (.resolve config.roster query) ::
        config.shipPlan service) []
        ([] ++ visible trace) _
      exact .carriedOut rfl (.known found) rfl follows

theorem realizes_undertaking (undertaking : Undertaking) :
    Realizes (undertaking.plan config) [] (undertaking.operation config) := by
  cases undertaking with
  | bootstrap => exact realizes_bootstrap config
  | teardown => exact realizes_teardown config
  | deployInfrastructure => exact realizes_deployInfrastructure config []
  | deployServices => exact realizes_deployServices config []
  | ship query => exact realizes_ship config query
  | applyConfig => exact realizes_applyConfig config []

end Operation

/-- Against any surroundings, an undertaking does what its plan says up to the
first failure that is not tolerated, and this failure is its result; without one
it has an outcome. -/
theorem Undertaking.run_follows_plan (undertaking : Undertaking)
    (config : Config) (surroundings : Surroundings σ) (state : σ) :
    Follows (undertaking.plan config) []
      (visible ((undertaking.operation config).toProcedure.run surroundings
            state).trace)
      (failureOf ((undertaking.operation config).toProcedure.run surroundings
            state).value) :=
  (Operation.realizes_undertaking config undertaking).run surroundings state

end ClusterConsole
