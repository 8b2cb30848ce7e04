import ClusterConsole.Proofs.Procedure.AsksOnly
import ClusterConsole.Proofs.Session.Brackets
import ClusterConsole.Rehearsal.Basic

/-!
# Operations in brackets

Every operation asks for its deeds step by step, so what is heard of it is made
of brackets, and so is what is heard of a session.
-/

namespace ClusterConsole

namespace Operation

/-- Whatever the replies are, the trace consists of brackets. -/
def Brackets (config : Config) (call : Call) (operation : Operation α) : Prop :=
  Ensures operation fun trace result =>
    Bracketed config call trace (failureOf result)

section Rules

variable {config : Config} {call : Call} {operation : Operation α}

theorem brackets_pure (value : α) : Brackets config call (pure value) :=
  ensures_pure .nil

theorem brackets_throw (failure : Failure) :
    Brackets config call (throw failure : Operation α) :=
  ensures_throw .nil

theorem brackets_bind {next : α → Operation β}
    (first : Brackets config call operation)
    (rest : ∀ value, Brackets config call (next value)) :
    Brackets config call (operation >>= next) := by
  apply Ensures.bind first
  · intro trace failure bracketed
    exact bracketed
  · intro trace value bracketed
    apply Ensures.mono (rest value)
    intro later result goesOn
    exact bracketed.append rfl goesOn

/-- Nothing is heard of what is neither a command nor an event. -/
theorem AsksOnly.brackets
    (unheard : AsksOnly (fun request => request.isHeard = false) operation) :
    Brackets config call operation := by
  apply Ensures.mono unheard
  intro trace result nothing
  induction trace with
  | nil => exact .nil
  | cons exchange late ih =>
      have rest := ih fun other member => nothing other (.tail _ member)
      exact .cons (.silent (nothing exchange (.head _))) rest

theorem brackets_request {asked : Request} (unheard : asked.isHeard = false) :
    Brackets config call (request asked) :=
  (asksOnly_request unheard).brackets

theorem brackets_invoke {invocation : Invocation} {options : RunOptions}
    (noDeed : invocation.isDeed = false) :
    Brackets config call (invoke invocation options) :=
  ensures_invoke fun _ => (Bracket.query noDeed).bracketed

theorem brackets_consent (question : String) :
    Brackets config call (consent question) := by
  apply brackets_bind (brackets_request rfl)
  intro reply
  cases reply with
  | error reason => exact brackets_throw _
  | ok answer => exact brackets_pure answer

section Step

variable {action : Action} {target : String} {invocation : Invocation}

/-- A step is a bracket, whether or not its failure stops the operation. -/
theorem ensures_step_bracketed
    (isStep : call.step? invocation = some (action, target))
    (mayStop : action.isTolerated = false) :
    Ensures (step action target invocation) fun trace _ =>
      ∀ failure?, Bracketed config call trace failure? := by
  apply ensures_step
  · intro reply failure failed failure?
    have fails := Invocation.isSuccess_of_failed failed
    exact .of_failed isStep fails mayStop
  · intro reply output succeeded failure?
    have succeeds := Invocation.isSuccess_of_succeeded succeeded
    exact .of_done isStep succeeds

theorem brackets_step (isStep : call.step? invocation = some (action, target))
    (mayStop : action.isTolerated = false) :
    Brackets config call (step action target invocation) :=
  Ensures.mono (ensures_step_bracketed isStep mayStop) fun _ _ bracketed =>
    bracketed _

theorem brackets_attempt
    (isStep : call.step? invocation = some (action, target))
    (mayStop : action.isTolerated = false) :
    Brackets config call (result (step action target invocation)) :=
  ensures_result
    (Ensures.mono (ensures_step_bracketed isStep mayStop) fun _ _ bracketed =>
      bracketed _)

end Step

end Rules

section Parts

variable (config : Config) (call : Call)

theorem brackets_awaitReady (probe : Probe) (outcome : Outcome) :
    Brackets config call (awaitReady config probe outcome) := by
  have isStep : call.step? (config.waitCommand probe) =
    some (.waitReady, probe.selector) := rfl
  apply ensures_awaitReady
  · intro output ready
    have succeeds : Exchange.isSuccess
        ⟨.run (config.waitCommand probe) .unchecked, .ok output⟩ = true := ready
    exact .of_done isStep succeeds
  · intro reply fails
    exact (Bracket.failed (some _) isStep fails rfl (by simp)).bracketed

theorem brackets_installBaseline (outcome : Outcome) :
    Brackets config (.undertake .bootstrap)
      (installBaseline config outcome) := by
  have isStep : Call.step? (.undertake .bootstrap) config.ingressCommand =
      some (.installIngress, config.cluster.ingressManifest) := rfl
  apply ensures_bind
  apply ensures_announce
  apply ensures_bind
  apply ensures_result
  apply ensures_invoke
  intro reply
  cases answered : config.ingressCommand.result .checked reply with
  | error failure =>
      have fails := Invocation.isSuccess_of_failed answered
      apply ensures_bind
      apply ensures_announce
      exact ensures_pure
        (Bracket.failed (some _) isStep fails rfl (by simp)).bracketed
  | ok output =>
      have succeeds := Invocation.isSuccess_of_succeeded answered
      apply ensures_bind
      apply ensures_announce
      apply Ensures.mono
        (brackets_awaitReady config _ config.ingressProbe outcome)
      intro later result bracketed
      exact (Bracketed.of_done isStep succeeds).append rfl bracketed

theorem brackets_setUpCluster :
    Brackets config (.undertake .bootstrap) (setUpCluster config) :=
  brackets_bind (brackets_step rfl rfl) fun _ =>
    brackets_installBaseline config .completed

theorem brackets_bootstrap :
    Brackets config (.undertake .bootstrap) (bootstrap config) := by
  have lists : Brackets config (.undertake .bootstrap) (clusterState config) :=
    brackets_bind (brackets_invoke rfl) fun _ => brackets_pure _
  apply brackets_bind lists
  intro clusterState
  cases clusterState with
  | absent => exact brackets_setUpCluster config
  | present =>
      apply brackets_bind (brackets_consent _)
      intro answer
      cases answer with
      | true =>
        exact brackets_bind (brackets_step rfl rfl) fun _ =>
          brackets_setUpCluster config
      | false => exact brackets_pure _

theorem brackets_teardown : Brackets config call (teardown config) := by
  apply brackets_bind (brackets_consent _)
  intro answer
  cases answer with
  | true => exact brackets_bind (brackets_step rfl rfl) fun _ => brackets_pure _
  | false => exact brackets_pure _

/-- Only a bootstrap applies something else than manifests. -/
theorem brackets_applyManifest (noBootstrap : call ≠ .undertake .bootstrap)
    (manifest : Path) :
    Brackets config call (applyManifest config manifest) := by
  have isStep : call.step?
      (config.applyCommand manifest) = some (.apply, manifest.text) := by
    simp [Call.step?, Config.applyCommand, Config.controlCommand,
      Config.command, noBootstrap]
  exact brackets_step isStep rfl

theorem brackets_restart (target : String) :
    Brackets config call (restart config target) :=
  brackets_step rfl rfl

theorem brackets_materializeSecret :
    Brackets config call (materializeSecret config) := by
  apply Ensures.mono (ensures_materializeSecret config)
  intro trace result write
  cases result with
  | error failure => exact .last (.secret write)
  | ok written => exact (Bracket.secret write).bracketed

theorem brackets_ensureNamespace :
    Brackets config call (ensureNamespace config) := by
  apply brackets_bind (brackets_invoke rfl)
  intro found
  cases found.isSuccess with
  | true => exact brackets_pure ()
  | false => exact brackets_step rfl rfl

theorem brackets_settle : Brackets config call (settle config) := by
  unfold settle
  by_cases none : config.readiness.settleMs = 0
  · simpa [none] using brackets_pure ()
  · simpa [none] using brackets_request rfl

theorem brackets_deployInfrastructure
    (noBootstrap : call ≠ .undertake .bootstrap) :
    Brackets config call (deployInfrastructure config) := by
  have applies := brackets_applyManifest config call noBootstrap
  apply brackets_bind (brackets_ensureNamespace config call)
  intro _
  apply brackets_bind (applies _)
  intro _
  apply brackets_bind (brackets_settle config call)
  intro _
  apply brackets_bind (applies _)
  intro _
  apply brackets_bind (brackets_materializeSecret config call)
  intro _
  apply brackets_bind (applies _)
  intro _
  apply brackets_bind (applies _)
  intro _
  exact brackets_awaitReady config call _ _

theorem brackets_deployServices (noBootstrap : call ≠ .undertake .bootstrap) :
    Brackets config call (deployServices config) := by
  have applies := brackets_applyManifest config call noBootstrap
  exact brackets_bind (applies _) fun _ => brackets_bind (applies _) fun _ =>
    brackets_pure _

theorem brackets_applyConfig (noBootstrap : call ≠ .undertake .bootstrap) :
    Brackets config call (applyConfig config) := by
  apply brackets_bind (brackets_materializeSecret config call)
  intro _
  apply brackets_bind (brackets_applyManifest config call noBootstrap _)
  intro _
  apply brackets_bind (brackets_consent _)
  intro answer
  cases answer with
  | true =>
      have restarts : Brackets config call (restartAll config) :=
        brackets_bind (brackets_restart config call _) fun _ =>
          brackets_restart config call _
      exact brackets_bind restarts fun _ => brackets_pure _
  | false => exact brackets_pure _

theorem brackets_continueBatch (report : ImageReport)
    (services : List Service) :
    Brackets config call (continueBatch config report services) := by
  induction services generalizing report with
  | nil => exact brackets_pure report
  | cons service rest ih =>
      apply brackets_bind (brackets_attempt rfl rfl)
      intro built
      cases built with
      | error failure => exact ih _
      | ok =>
          apply brackets_bind (brackets_attempt rfl rfl)
          intro loaded
          cases loaded with
          | error failure => exact brackets_throw _
          | ok => exact ih _

/-- The last deed of a build takes in a warning that follows it. -/
theorem ensures_buildAndLoad_warned (service : Service) :
    Ensures (buildAndLoad config [service]) fun trace result =>
      Bracketed config call trace (failureOf result) ∧
        ∀ report tail warning?, result = .ok report →
          heard tail = degradation warning? →
          Bracketed config call (trace ++ tail) none := by
  have isBuild (image : String) : call.step? (config.buildCommand
      (service.buildArgumentList image)) = some (.buildImage, image) := rfl
  have isLoad (image : String) : call.step? (config.clusterCommand
      ["load", "docker-image", image, "--name", config.cluster.name]) =
        some (.loadImage, image) := rfl
  apply ensures_bind
  apply ensures_result
  apply ensures_step
  · intro reply failure failed
    have fails := Invocation.isSuccess_of_failed failed
    refine ensures_pure ⟨?_, fun report tail warning? _ warns => ?_⟩
    · exact .of_failed (isBuild _) fails rfl
    · exact (Bracket.failed warning? (isBuild _) fails warns nofun).bracketed
  · intro reply output succeeded
    have succeeds := Invocation.isSuccess_of_succeeded succeeded
    have builds : Bracketed config call _ none := .of_done (isBuild _) succeeds
    apply ensures_bind
    apply ensures_result
    apply ensures_step
    · intro loading failure failed
      have fails := Invocation.isSuccess_of_failed failed
      exact ensures_throw
        ⟨builds.append rfl (.of_failed (isLoad _) fails rfl), nofun⟩
    · intro loading loaded ready
      have succeeds := Invocation.isSuccess_of_succeeded ready
      refine ensures_pure ⟨?_, fun report tail warning? _ warns => ?_⟩
      · exact builds.append rfl (.of_done (isLoad _) succeeds)
      · exact builds.append rfl
          (Bracket.done warning? (isLoad _) succeeds warns).bracketed

/-- A missing manifest is announced where no deed comes before. -/
theorem ensures_deployService_warned
    (noBootstrap : call ≠ .undertake .bootstrap) (service : Service) :
    Ensures (deployService config service) fun trace result =>
      Bracketed config call trace (failureOf result) ∨
        failureOf result = none ∧
        ∃ warning?, heard trace = degradation warning? := by
  apply ensures_bind
  apply ensures_request
  intro isThere
  cases isThere with
  | true =>
      have deploys : Brackets config call (do
          applyManifest config (service.manifest config.layout.services)
          restart config ("deployment/" ++ service.name)
          return Outcome.completed) :=
        brackets_bind (brackets_applyManifest config call noBootstrap _)
          fun _ =>
          brackets_bind (brackets_restart config call _) fun _ =>
            brackets_pure _
      exact Ensures.mono deploys fun _ _ bracketed =>
        .inl (.cons (.silent rfl) bracketed)
  | false =>
      apply ensures_bind
      apply ensures_announce
      exact ensures_pure (.inr ⟨rfl, some _, rfl⟩)

theorem brackets_ship (noBootstrap : call ≠ .undertake .bootstrap)
    (query : String) :
    Brackets config call (ship config query) := by
  unfold ship
  cases config.roster.resolve? query with
  | none => exact brackets_throw _
  | some service =>
      apply Ensures.bind (ensures_buildAndLoad_warned config call service)
      · intro trace failure builds
        exact builds.1
      · rintro early report ⟨builds, takesIn⟩
        apply Ensures.bind
          (ensures_deployService_warned config call noBootstrap service)
        · rintro late failure (bracketed | ⟨same, -⟩)
          · exact builds.append rfl bracketed
          · cases same
        · rintro late deployed (bracketed | ⟨-, warning?, warns⟩)
          · apply ensures_pure
            rw [List.append_nil]
            exact builds.append rfl bracketed
          · apply ensures_pure
            rw [List.append_nil]
            exact takesIn report late warning? rfl warns

theorem brackets_checkPrerequisites :
    Brackets config call (checkPrerequisites config) := by
  have finds : Brackets config call (missingTools config.tools.required) :=
    (asksOnly_missingTools _ fun _ => rfl).brackets
  have asks : Brackets config call
      (result (invoke (config.buildCommand ["info"]) .probe)) :=
    ensures_result (ensures_invoke fun _ => (Bracket.query rfl).bracketed)
  apply brackets_bind finds
  intro missing
  cases missing with
  | cons tool rest => exact brackets_throw (.missingTools (tool :: rest))
  | nil =>
      apply brackets_bind asks
      intro result
      cases result with
      | error failure => exact brackets_throw _
      | ok output =>
          by_cases up : output.isSuccess = true
          · simpa [up] using brackets_pure ()
          · simpa [up] using brackets_throw _

theorem brackets_snapshot {query : Invocation} (noDeed : query.isDeed = false) :
    Brackets config call (snapshot query) :=
  brackets_bind (brackets_invoke noDeed) fun _ => brackets_pure _

theorem brackets_findPod (query : String) :
    Brackets config call (findPod config query) := by
  cases found : config.logTarget? (Text.trim query) with
  | none => simpa [findPod, found] using brackets_throw _
  | some workload =>
      have invoked :
          Brackets config call (invoke (config.podCommand workload) .probe) :=
        brackets_invoke rfl
      simpa [findPod, found] using brackets_bind invoked fun _ =>
        brackets_pure _

end Parts

theorem brackets_call (config : Config) (call : Call) :
    Brackets config call (call.operation config) := by
  cases call with
  | undertake undertaking =>
      cases undertaking with
      | bootstrap => exact brackets_bootstrap config
      | teardown => exact brackets_teardown config _
      | deployInfrastructure =>
        exact brackets_deployInfrastructure config _ (by simp)
      | deployServices => exact brackets_deployServices config _ (by simp)
      | ship query => exact brackets_ship config _ (by simp) query
      | applyConfig => exact brackets_applyConfig config _ (by simp)
  | buildAll =>
    exact brackets_continueBatch config _ .empty config.roster.services
  | writeSecret => exact brackets_materializeSecret config _
  | checkPrerequisites => exact brackets_checkPrerequisites config _
  | status => exact brackets_snapshot config _ rfl
  | metrics scope =>
      cases scope with
      | nodes => exact brackets_snapshot config _ rfl
      | pods => exact brackets_snapshot config _ rfl
  | findPod query => exact brackets_findPod config _ query
  | streamLogs pod follow =>
    exact brackets_bind (brackets_invoke rfl) fun _ => brackets_pure ()

end Operation

/-! ## Sessions -/

namespace Session

theorem opens_flatMap {config : Config} {later : List (Entry σ)}
    (bracketed : ∀ entry ∈ later,
      Bracketed config entry.call entry.run.trace (failureOf entry.run.value)) :
    Opens (later.flatMap fun entry => heard entry.run.trace) := by
  induction later with
  | nil =>
      intro exchange head
      cases head
  | cons entry rest ih =>
      exact (bracketed entry (.head _)).opens
        (ih fun other member => bracketed other (.tail _ member))

/-- In every session, against any surroundings, each operation is told truly. -/
theorem entries_toldTruly (surroundings : Surroundings σ) (config : Config)
    (calls : List Call) (state : σ) (earlier later : List (Entry σ))
    (entry : Entry σ) (split : entries surroundings config calls state =
      earlier ++ entry :: later) :
    ToldTruly config entry.call entry.run.trace (failureOf entry.run.value)
      (later.flatMap fun next => heard next.run.trace) := by
  have bracketed : ∀ entry ∈ entries surroundings config calls state,
      Bracketed config entry.call entry.run.trace (failureOf entry.run.value) :=
    entries_ensure (Operation.brackets_call config) surroundings calls state
  rw [split] at bracketed
  have here := bracketed entry (List.mem_append_cons_self)
  have opens : Opens (later.flatMap fun next => heard next.run.trace) :=
    opens_flatMap fun next member =>
      bracketed next (List.mem_append_right _ (.tail _ member))
  exact here.toldTruly opens

/-- The pods of the ingress controller do not become ready. -/
def neverReady : FileTree × Rehearsal :=
  (FileTree.empty [],
    .ofScript (Script.empty.cue ⟨.start ["kubectl", "wait"], ⟨1, none, none⟩⟩))

/-- The wait is announced to begin and then to be over in vain, and the secret
that is written without a source is announced with a notice. -/
theorem entries_toldTruly_neverReady :
    ∃ created written,
      entries Rehearsal.performers.withFiles .standard [.undertake .bootstrap,
        .writeSecret]
        neverReady = [created, written] ∧
      ((heard created.run.trace).drop 7).map Exchange.request =
        [.announce (.started .waitReady Config.standard.ingressProbe.selector),
          .run (Config.standard.waitCommand Config.standard.ingressProbe)
            .unchecked,
          .announce (.degraded (.notReady Config.standard.ingressProbe))] ∧
      (heard written.run.trace).length = 3 ∧
      ToldTruly .standard created.call created.run.trace
        (failureOf created.run.value)
        (heard written.run.trace ++ []) ∧
      ToldTruly .standard written.call written.run.trace
        (failureOf written.run.value) [] := by
  have told := entries_toldTruly Rehearsal.performers.withFiles .standard
    [.undertake .bootstrap, .writeSecret] neverReady
  refine ⟨_, _, rfl, ?_, ?_, told [] [_] _ rfl, told [_] [] _ rfl⟩
  · decide +kernel
  · decide +kernel

end Session

end ClusterConsole
