import ClusterConsole.Proofs.Procedure.AsksOnly
import ClusterConsole.Proofs.Session.Basic
import ClusterConsole.Rehearsal.Basic

/-!
# Announced warnings

A step that is not done and not fatal is announced as a warning, and the same
warning is kept in the outcome.  The two lists agree in every undertaking but
one: the failed build of a service that is shipped is kept in the outcome
without an announcement.
-/

namespace ClusterConsole

def announced (trace : List Exchange) : List Warning :=
  trace.filterMap fun
    | ⟨.announce event, _⟩ => event.warning?
    | _ => none

theorem announced_append (early late : List Exchange) :
    announced (early ++ late) = announced early ++ announced late :=
  List.filterMap_append

/-- Whether a request announces no warning. -/
def Request.isSilent : Request → Bool
  | .announce event => event.warning?.isNone
  | _ => true

theorem Request.isSilent_of_isQuiet (request : Request)
    (quiet : request.isQuiet = true) :
    request.isSilent = true := by
  cases request with
  | announce => exact quiet
  | _ => rfl

theorem announced_eq_nil {trace : List Exchange}
    (silent : ∀ exchange ∈ trace, exchange.request.isSilent = true) :
    announced trace = [] := by
  apply List.filterMap_eq_nil_iff.mpr
  intro exchange member
  have isSilent := silent exchange member
  obtain ⟨request, reply⟩ := exchange
  cases request with
  | announce event => exact Option.isNone_iff_eq_none.mp isSilent
  | _ => rfl

theorem ImageReport.append_empty (report : ImageReport) :
    report ++ empty = report := by
  show ImageReport.mk (report.results ++ []) = report
  simp

/-- The warnings that an outcome has for the failed images of a report. -/
def ImageReport.warnings (report : ImageReport) : List Warning :=
  report.failures.map fun result => .imageFailed result.service

section Shipped

variable {report : ImageReport} {deployed : Outcome}

theorem Outcome.shipped_images (noImages : deployed.images = .empty) :
    ((completed.recordImages report).absorb deployed).images = report := by
  show ImageReport.empty ++ report ++ deployed.images = report
  rw [noImages]
  exact report.append_empty

theorem Outcome.shipped_warnings :
    ((completed.recordImages report).absorb deployed).warnings =
      report.warnings ++ deployed.warnings :=
  rfl

end Shipped

def Request.isBuild : Request → Bool
  | .run invocation _ => ["build"].isPrefixOf invocation.arguments
  | _ => false

/-- Whether the build of an image is tried in vain. -/
def Exchange.isFailedBuild : Exchange → Bool
  | ⟨.run invocation options, .ok output⟩ =>
    (Request.run invocation options).isBuild && !output.isSuccess
  | ⟨request, _⟩ => request.isBuild

theorem Exchange.not_isFailedBuild {exchange : Exchange}
    (noBuild : exchange.request.isBuild = false) :
    exchange.isFailedBuild = false := by
  obtain ⟨request, reply⟩ := exchange
  cases request with
  | run invocation options =>
      have none : (Request.run invocation options).isBuild = false := noBuild
      cases reply with
      | error cause => exact none
      | ok output => simp [isFailedBuild, none]
  | _ => rfl

section Checked

variable {invocation : Invocation} {reply : Except SystemError CommandOutput}

theorem Exchange.isFailedBuild_of_failed {failure : Failure}
    (isBuild : (Request.run invocation .checked).isBuild = true)
    (failed : invocation.result .checked reply = .error failure) :
    isFailedBuild ⟨.run invocation .checked, reply⟩ = true := by
  cases reply with
  | error cause => exact isBuild
  | ok output =>
      cases isSuccess : output.isSuccess with
      | true =>
        simp [Invocation.result_eq_ok_iff.mpr ⟨rfl, fun _ => isSuccess⟩]
          at failed
      | false => simp [isFailedBuild, isSuccess, isBuild]

theorem Exchange.isFailedBuild_of_succeeded {output : CommandOutput}
    (succeeded : invocation.result .checked reply = .ok output) :
    isFailedBuild ⟨.run invocation .checked, reply⟩ = false := by
  obtain ⟨rfl, isSuccess⟩ := Invocation.result_eq_ok_iff.mp succeeded
  simp [isFailedBuild, isSuccess rfl]

end Checked

namespace Operation

/-- Whatever the replies are, no warning is announced. -/
abbrev Silent (operation : Operation α) : Prop :=
  AsksOnly (fun request => request.isSilent = true) operation

theorem Quiet.silent {operation : Operation α} (quiet : Quiet operation) :
    Silent operation :=
  AsksOnly.mono quiet Request.isSilent_of_isQuiet

theorem silent_step {action : Action} {target : String}
    {invocation : Invocation} :
    Silent (step action target invocation) :=
  asksOnly_step rfl rfl rfl

/-- Whatever the replies are, an outcome has the warnings of `start` and then
those that were announced. -/
def Tells (start : Outcome) (operation : Operation Outcome) : Prop :=
  Ensures operation fun trace result => ∀ outcome, result = .ok outcome →
    outcome.warnings = start.warnings ++ announced trace ∧
    outcome.images = start.images

section Telling

variable {start : Outcome}

theorem tells_pure {outcome : Outcome}
    (sameWarnings : outcome.warnings = start.warnings)
    (sameImages : outcome.images = start.images) :
    Tells start (pure outcome) := by
  apply ensures_pure
  rintro own same
  cases same
  exact ⟨by simpa [announced] using sameWarnings, sameImages⟩

theorem tells_degrade (warning : Warning) :
    Tells start (degrade start warning) := by
  apply ensures_bind
  apply ensures_announce
  apply ensures_pure
  rintro own same
  cases same
  exact ⟨rfl, rfl⟩

theorem tells_bind {first : Operation α} {next : α → Operation Outcome}
    (silent : Silent first) (rest : ∀ value, Tells start (next value)) :
    Tells start (first >>= next) := by
  apply Ensures.bind silent
  · intro trace failure early outcome same
    cases same
  · intro trace value early
    apply Ensures.mono (rest value)
    intro later result tells outcome same
    have none : announced trace = [] := announced_eq_nil early
    simpa [announced_append, none] using tells outcome same

theorem tells_consent {question : String} {next : Bool → Operation Outcome}
    (rest : ∀ answer, Tells start (next answer)) :
    Tells start (consent question >>= next) := by
  apply ensures_consent
  · intro reason outcome same
    cases same
  · intro answer
    exact Ensures.mono (rest answer) fun _ _ tells => tells

end Telling

/-! ## The parts of the undertakings -/

variable (config : Config)

/-- The wait announces the very warning that is then added to the outcome. -/
theorem tells_awaitReady (probe : Probe) (start : Outcome) :
    Tells start (awaitReady config probe start) := by
  unfold awaitReady wait
  simp only [bind_assoc]
  apply tells_bind (asksOnly_announce rfl)
  intro _
  apply tells_bind (asksOnly_result (asksOnly_invoke rfl))
  intro result
  cases result with
  | error failure => exact tells_degrade (.notReady probe)
  | ok output =>
      cases ready : output.isSuccess with
      | true =>
          simp only [ready, if_true, bind_assoc]
          exact tells_bind (asksOnly_announce rfl) fun _ => tells_pure rfl rfl
      | false =>
          simp only [ready, Bool.false_eq_true, if_false]
          exact tells_degrade (.notReady probe)

theorem tells_setUpCluster : Tells .completed (setUpCluster config) := by
  apply tells_bind silent_step
  intro _
  apply tells_bind (asksOnly_announce rfl)
  intro _
  apply tells_bind (asksOnly_result (asksOnly_invoke rfl))
  intro result
  cases result with
  | error failure => exact tells_degrade _
  | ok output =>
      exact tells_bind (asksOnly_announce rfl) fun _ =>
        tells_awaitReady config _ _

theorem tells_bootstrap : Tells .completed (bootstrap config) := by
  have listing : Silent (clusterState config) :=
    asksOnly_bind (asksOnly_invoke rfl) fun _ => asksOnly_pure _
  apply tells_bind listing
  intro clusterState
  cases clusterState with
  | absent => exact tells_setUpCluster config
  | present =>
      apply tells_consent
      intro answer
      cases answer with
      | true => exact tells_bind silent_step fun _ => tells_setUpCluster config
      | false => exact tells_pure rfl rfl

theorem tells_teardown : Tells .completed (teardown config) := by
  apply tells_consent
  intro answer
  cases answer with
  | true => exact tells_bind silent_step fun _ => tells_pure rfl rfl
  | false => exact tells_pure rfl rfl

theorem tells_deployInfrastructure :
    Tells .completed (deployInfrastructure config) := by
  apply tells_bind (quiet_ensureNamespace config).silent
  intro _
  apply tells_bind silent_step
  intro _
  apply tells_bind (quiet_settle config).silent
  intro _
  apply tells_bind silent_step
  intro _
  apply tells_bind (quiet_materializeSecret config).silent
  intro _
  apply tells_bind silent_step
  intro _
  apply tells_bind silent_step
  intro _
  exact tells_awaitReady config _ _

theorem tells_deployServices : Tells .completed (deployServices config) :=
  tells_bind silent_step fun _ => tells_bind silent_step fun _ =>
    tells_pure rfl rfl

theorem tells_applyConfig : Tells .completed (applyConfig config) := by
  apply tells_bind (quiet_materializeSecret config).silent
  intro _
  apply tells_bind silent_step
  intro _
  apply tells_consent
  intro answer
  cases answer with
  | true =>
      have restarts : Silent (restartAll config) :=
        asksOnly_bind silent_step fun _ => silent_step
      exact tells_bind restarts fun _ => tells_pure rfl rfl
  | false => exact tells_pure rfl rfl

theorem tells_deployService (service : Service) :
    Tells .completed (deployService config service) := by
  apply tells_bind (asksOnly_request rfl)
  intro isThere
  cases isThere with
  | true =>
      exact tells_bind silent_step fun _ => tells_bind silent_step fun _ =>
        tells_pure rfl rfl
  | false => exact tells_degrade _

/-! ## Shipping a service -/

/-- Deploying a service builds nothing. -/
theorem deployService_builds_nothing (service : Service) :
    AsksOnly (fun request => request.isBuild = false)
      (deployService config service) := by
  have looksUp : AsksOnly (fun request => request.isBuild = false)
      (request (.file (.isFile
              (config.resolve (service.manifest config.layout.services))))) :=
    asksOnly_request rfl
  apply asksOnly_bind looksUp
  intro isThere
  cases isThere with
  | true =>
      exact asksOnly_bind (asksOnly_step rfl rfl rfl) fun _ =>
        asksOnly_bind (asksOnly_step rfl rfl rfl) fun _ => asksOnly_pure _
  | false =>
    exact asksOnly_bind (asksOnly_announce rfl) fun _ => asksOnly_pure _

/-- The report tells of a failure exactly when the build has failed; after a
failed load there is no report. -/
theorem ensures_buildAndLoad (service : Service) :
    Ensures (buildAndLoad config [service]) fun trace result =>
      ∀ report, result = .ok report →
        (report.failures = [] ↔
          ∀ exchange ∈ trace, exchange.isFailedBuild = false) := by
  have announces (event : Event) :
    Exchange.isFailedBuild ⟨.announce event, ()⟩ = false := rfl
  apply ensures_bind
  apply ensures_result
  -- A failed build is put into the report, and a failed load is an error
  -- without one.
  apply ensures_step
  · intro reply failure failed
    have fails := Exchange.isFailedBuild_of_failed rfl failed
    apply ensures_pure
    intro report same
    cases same
    simp [ImageReport.failures, ImageReport.push, ImageReport.empty,
      Service.result, ImageOutcome.isFailure, fails]
  · intro reply output succeeded
    have builds := Exchange.isFailedBuild_of_succeeded succeeded
    apply ensures_bind
    apply ensures_result
    apply ensures_step
    · intro later failure failed report same
      cases same
    · intro later output loaded
      have loads := Exchange.isFailedBuild_of_succeeded loaded
      apply ensures_pure
      intro report same
      cases same
      simp [ImageReport.failures, ImageReport.push, ImageReport.empty,
        Service.result, ImageOutcome.isFailure, builds, loads, announces]

theorem ensures_ship (query : String) :
    Ensures (ship config query) fun trace result =>
      ∀ outcome, result = .ok outcome →
      outcome.warnings = outcome.images.warnings ++ announced trace ∧
        (outcome.images.warnings = [] ↔
          ∀ exchange ∈ trace, exchange.isFailedBuild = false) := by
  unfold ship
  cases config.roster.resolve? query with
  | none =>
      apply ensures_throw
      intro outcome same
      cases same
  | some service =>
      have builds := (quiet_continueBatch config .empty [service]).silent.and
        (ensures_buildAndLoad config service)
      have deploys := (tells_deployService config service).and
        (deployService_builds_nothing config service)
      apply Ensures.bind builds
      · intro early failure _ outcome same
        cases same
      · rintro early report ⟨silent, reports⟩
        apply Ensures.bind deploys
        · intro late failure _ outcome same
          cases same
        · rintro late deployed ⟨tells, buildsNothing⟩
          apply ensures_pure
          intro outcome same
          cases same
          obtain ⟨warnings, noImages⟩ := tells deployed rfl
          have nothingTold : announced early = [] := announced_eq_nil silent
          -- A build can fail in the first part only, and only the second part
          -- announces.
          have failedBuilds : (∀ exchange ∈ early ++ (late ++ []),
            exchange.isFailedBuild = false) ↔
              ∀ exchange ∈ early, exchange.isFailedBuild = false := by
            rw [List.append_nil, List.forall_mem_append]
            exact and_iff_left fun exchange member =>
              Exchange.not_isFailedBuild (buildsNothing exchange member)
          rw [failedBuilds, ← reports report rfl,
            Outcome.shipped_images noImages, Outcome.shipped_warnings, warnings]
          refine ⟨?_, List.map_eq_nil_iff⟩
          simp [announced_append, nothingTold, Outcome.completed]

/-- Only a failed image build of a service that is shipped has a warning that is
not announced. -/
theorem ensures_announced (undertaking : Undertaking) :
    Ensures (undertaking.operation config) fun trace result =>
      ∀ outcome, result = .ok outcome →
        outcome.warnings = outcome.images.warnings ++ announced trace ∧
          (outcome.images.warnings = [] ↔ ∀ query, undertaking = .ship query →
            ∀ exchange ∈ trace, exchange.isFailedBuild = false) := by
  have builds_none (tells : Tells .completed (undertaking.operation config))
      (isOther : ∀ query, undertaking ≠ .ship query) :
      Ensures (undertaking.operation config) fun trace result =>
        ∀ outcome, result = .ok outcome →
          outcome.warnings = outcome.images.warnings ++ announced trace ∧
            (outcome.images.warnings = [] ↔ ∀ query, undertaking = .ship query →
              ∀ exchange ∈ trace, exchange.isFailedBuild = false) := by
    apply Ensures.mono tells
    intro trace result tells outcome same
    obtain ⟨warnings, images⟩ := tells outcome same
    have none : outcome.images.warnings = [] := by
      rw [images]
      rfl
    refine ⟨by rw [none,
        warnings]; rfl, fun _ query isShip => absurd isShip (isOther query), ?_⟩
    intro _
    exact none
  cases undertaking with
  | bootstrap => exact builds_none (tells_bootstrap config) (by simp)
  | teardown => exact builds_none (tells_teardown config) (by simp)
  | deployInfrastructure =>
    exact builds_none (tells_deployInfrastructure config) (by simp)
  | deployServices => exact builds_none (tells_deployServices config) (by simp)
  | applyConfig => exact builds_none (tells_applyConfig config) (by simp)
  | ship query =>
      apply Ensures.mono (ensures_ship config query)
      intro trace result ships outcome same
      obtain ⟨warnings, builds⟩ := ships outcome same
      refine ⟨warnings, ?_⟩
      simp [builds]

end Operation

/-- What an undertaking announces are the warnings of its outcome, unless it has
shipped a service and the image build has failed: the warning for this failure
is in the outcome, before all others, and is not announced. -/
theorem Undertaking.announced_eq_warnings_iff (undertaking : Undertaking)
    (config : Config) (surroundings : Surroundings σ) (state : σ)
    {outcome : Outcome}
    (completes : ((undertaking.operation config).toProcedure.run surroundings
          state).value =
      .ok outcome) :
    outcome.warnings = outcome.images.warnings ++
        announced ((undertaking.operation config).toProcedure.run surroundings
            state).trace ∧
      (announced ((undertaking.operation config).toProcedure.run surroundings
            state).trace =
          outcome.warnings ↔
        ∀ query, undertaking = .ship query →
          ∀ exchange ∈ ((undertaking.operation config).toProcedure.run
              surroundings state).trace,
            exchange.isFailedBuild = false) := by
  obtain ⟨warnings, builds⟩ :=
    (Operation.ensures_announced config undertaking).run surroundings state
      outcome completes
  refine ⟨warnings, ?_⟩
  rw [← builds, warnings]
  exact List.self_eq_append_left

/-- Shipping a service when no image can be built. -/
def unbuildableRun : Run Rehearsal (Except Failure Outcome) :=
  ((Undertaking.ship "as").operation .standard).toProcedure.run
    Rehearsal.performers
    (.ofScript (Script.empty.cue ⟨.start ["docker", "build"], ⟨1, none, none⟩⟩))

theorem Undertaking.warnings_eq_of_unbuildable :
    ∃ outcome, unbuildableRun.value = .ok outcome ∧
      outcome.warnings = outcome.images.warnings ++
        announced unbuildableRun.trace :=
  ⟨_, rfl, (Undertaking.announced_eq_warnings_iff (.ship "as") .standard
        Rehearsal.performers
    (.ofScript (Script.empty.cue ⟨.start ["docker", "build"], ⟨1, none, none⟩⟩))
      rfl).1⟩

/-- The failed build is in the outcome, and only the missing manifest is
announced. -/
theorem unbuildable_not_announced :
    ∃ outcome, unbuildableRun.value = .ok outcome ∧
      outcome.warnings =
        [.imageFailed "auth-service",
          .noManifest ⟨"k8s/services/auth-service.yaml"⟩] ∧
      announced unbuildableRun.trace =
        [.noManifest ⟨"k8s/services/auth-service.yaml"⟩] :=
  ⟨_, rfl, by decide +kernel, by decide +kernel⟩

end ClusterConsole
