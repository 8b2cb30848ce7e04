import ClusterConsole.Operation.Images
import ClusterConsole.Proofs.Session.FailStop

/-!
# How a batch of images goes

A batch attempts its services one after the other.  An attempt without a built
image leaves the batch running, and one with an image that cannot be loaded gets
stuck: it is the last attempt, and the services after it are skipped.  Either
way each service has its entry in the report.
-/

namespace ClusterConsole

/-- How a command ended, or why it could not be started. -/
abbrev CommandReply := Except SystemError CommandOutput

namespace CommandReply

/-- Whether the command was started and ended well. -/
def isSuccess : CommandReply → Bool
  | .ok output => output.isSuccess
  | .error _ => false

def exitCode? : CommandReply → Option Int
  | .ok output => some output.exitCode
  | .error _ => none

variable {invocation : Invocation} {options : RunOptions} {reply : CommandReply}

theorem isSuccess_of_succeeded {output : CommandOutput}
    (succeeded : invocation.result .checked reply = .ok output) :
    isSuccess reply = true := by
  have success := Invocation.isSuccess_of_succeeded succeeded
  cases reply with
  | ok output => exact success
  | error cause => cases success

theorem isSuccess_of_failed {failure : Failure}
    (failed : invocation.result .checked reply = .error failure) :
    isSuccess reply = false := by
  have fails := Invocation.isSuccess_of_failed failed
  cases reply with
  | ok output => exact fails
  | error cause => rfl

theorem exitCode?_of_failed {failure : Failure}
    (failed : invocation.result options reply = .error failure) :
    failure.exitCode? = exitCode? reply := by
  obtain ⟨cause, rfl, rfl⟩ | ⟨output, rfl, -, -, rfl⟩ :=
    Invocation.result_eq_error_iff.mp failed
  · rfl
  · rfl

end CommandReply

/-! ## Attempts -/

/-- What became of a service, by the replies to its commands.  Nothing is loaded
that is not built. -/
inductive Attempt where
  | unbuilt (service : Service) (built : CommandReply)
    (failed : built.isSuccess = false)
  | unloaded (service : Service) (built loaded : CommandReply)
      (succeeded : built.isSuccess = true)
      (failed : loaded.isSuccess = false)
  | ready (service : Service) (built loaded : CommandReply)
      (succeeded : built.isSuccess = true)
      (loads : loaded.isSuccess = true)

namespace Attempt

variable (config : Config)

def service : Attempt → Service
  | unbuilt service _ _ => service
  | unloaded service _ _ _ _ => service
  | ready service _ _ _ _ => service

/-- Whether the image is built and cannot be loaded. -/
def isStuck : Attempt → Bool
  | unloaded _ _ _ _ _ => true
  | _ => false

def commands : Attempt → List Invocation
  | unbuilt service _ _ => [config.imageBuild service]
  | unloaded service _ _ _ _ =>
    [config.imageBuild service, config.imageLoad service]
  | ready service _ _ _ _ =>
    [config.imageBuild service, config.imageLoad service]

/-- The exchanges of the attempt: each command is announced before, and after if
it has succeeded. -/
def exchanges : Attempt → List Exchange
  | unbuilt service built _ =>
      [⟨.announce (.started .buildImage (config.tag service)), ()⟩,
        ⟨.run (config.imageBuild service) .checked, built⟩]
  | unloaded service built loaded _ _ =>
      [⟨.announce (.started .buildImage (config.tag service)), ()⟩,
        ⟨.run (config.imageBuild service) .checked, built⟩,
        ⟨.announce (.finished .buildImage (config.tag service)), ()⟩,
        ⟨.announce (.started .loadImage (config.tag service)), ()⟩,
        ⟨.run (config.imageLoad service) .checked, loaded⟩]
  | ready service built loaded _ _ =>
      [⟨.announce (.started .buildImage (config.tag service)), ()⟩,
        ⟨.run (config.imageBuild service) .checked, built⟩,
        ⟨.announce (.finished .buildImage (config.tag service)), ()⟩,
        ⟨.announce (.started .loadImage (config.tag service)), ()⟩,
        ⟨.run (config.imageLoad service) .checked, loaded⟩,
        ⟨.announce (.finished .loadImage (config.tag service)), ()⟩]

def outcome : Attempt → ImageOutcome
  | unbuilt _ built _ => .buildFailed built.exitCode?
  | unloaded _ _ loaded _ _ => .loadFailed loaded.exitCode?
  | ready _ _ _ _ _ => .builtAndLoaded

def entry (attempt : Attempt) : ImageResult :=
  ⟨attempt.service.name, config.tag attempt.service, attempt.outcome⟩

theorem commands_exchanges (attempt : Attempt) :
    ClusterConsole.commands (attempt.exchanges config) =
      attempt.commands config := by
  cases attempt with
  | unbuilt => rfl
  | unloaded => rfl
  | ready => rfl

end Attempt

/-- The entry of a service that is not attempted. -/
def Config.skippedEntry (config : Config) (service : Service) : ImageResult :=
  ⟨service.name, config.tag service, .skipped⟩

/-- How a batch ends after its attempts, with a report on the services `before`
it and with the services that are left.  It comes to its end, or to an attempt
that is stuck. -/
inductive Settles (config : Config) (before : List ImageResult) :
    List Attempt → List Service → Except Failure ImageReport → Prop where
  | finished {attempts : List Attempt}
      (noneStuck : ∀ attempt ∈ attempts, attempt.isStuck = false) :
      Settles config before attempts []
        (.ok ⟨before ++ attempts.map (Attempt.entry config)⟩)
  | stopped {attempts : List Attempt} {service : Service}
      {built loaded : CommandReply}
      {skipped : List Service} {failure : Failure}
      (noneStuck : ∀ attempt ∈ attempts, attempt.isStuck = false)
      (succeeded : built.isSuccess = true) (failed : loaded.isSuccess = false)
      (cause : (config.imageLoad service).result .checked loaded =
        .error failure) :
      Settles config before
        (attempts ++ [.unloaded service built loaded succeeded failed]) skipped
        (.error (.imageNotLoaded service.name
          ⟨before ++
              (attempts ++
                [Attempt.unloaded service built loaded succeeded failed]).map
                (Attempt.entry config) ++
            skipped.map config.skippedEntry⟩ failure))

theorem Settles.cons {config : Config} {before : List ImageResult}
    {first : Attempt} {attempts : List Attempt} {skipped : List Service}
    {result : Except Failure ImageReport} (goesOn : first.isStuck = false)
    (settles : Settles config (before ++ [first.entry config]) attempts skipped
        result) :
    Settles config before (first :: attempts) skipped result := by
  cases settles with
  | finished noneStuck =>
      rw [List.append_assoc, List.singleton_append, ← List.map_cons]
      exact .finished (List.forall_mem_cons.mpr ⟨goesOn, noneStuck⟩)
  | stopped noneStuck succeeded failed cause =>
      rw [List.append_assoc before, List.singleton_append, ← List.map_cons,
        ← List.cons_append]
      exact .stopped (List.forall_mem_cons.mpr ⟨goesOn, noneStuck⟩) succeeded
        failed cause

/-- How a batch of services goes. -/
structure Batch (config : Config) (before : List ImageResult)
    (services : List Service) (attempts : List Attempt) (skipped : List Service)
    (trace : List Exchange) (result : Except Failure ImageReport) : Prop where
  /-- The services are attempted in their order. -/
  services_eq : services = attempts.map Attempt.service ++ skipped
  trace_eq : trace = attempts.flatMap (Attempt.exchanges config)
  settles : Settles config before attempts skipped result

theorem Batch.cons {config : Config} {before : List ImageResult}
    (first : Attempt) {rest skipped : List Service} {attempts : List Attempt}
    {trace : List Exchange} {result : Except Failure ImageReport}
    (goesOn : first.isStuck = false) (batch : Batch config
        (before ++ [first.entry config]) rest attempts skipped trace result) :
    Batch config before (first.service :: rest) (first :: attempts) skipped
      (first.exchanges config ++ trace) result := by
  obtain ⟨rfl, rfl, settles⟩ := batch
  exact ⟨rfl, rfl, settles.cons goesOn⟩

theorem Settles.nil (config : Config) (before : List ImageResult) :
    Settles config before [] [] (.ok ⟨before⟩) := by
  have settles : Settles config before [] []
      (.ok ⟨before ++ [].map (Attempt.entry config)⟩) :=
    .finished (by simp)
  rwa [List.map_nil, List.append_nil] at settles

namespace Operation

theorem ensures_batch (config : Config) (report : ImageReport)
    (services : List Service) :
    Ensures (continueBatch config report services) fun trace result =>
      ∃ attempts skipped,
      Batch config report.results services attempts skipped trace result := by
  -- On the services, for any report on those before them: that is what an
  -- attempt extends.
  induction services generalizing report with
  | nil => exact ensures_pure ⟨[], [], rfl, rfl, .nil config report.results⟩
  | cons service rest ih =>
      unfold continueBatch
      rw [buildImage_eq]
      apply ensures_bind
      apply ensures_result
      apply ensures_step
      · intro built failure failed
        have fails := CommandReply.isSuccess_of_failed failed
        have code := CommandReply.exitCode?_of_failed failed
        apply Ensures.mono (ih (report.push _))
        intro later result goes
        obtain ⟨attempts, skipped, batch⟩ := goes
        rw [code] at batch
        exact ⟨_, skipped, Batch.cons (.unbuilt service built fails) rfl batch⟩
      · intro built output succeeded
        have builds := CommandReply.isSuccess_of_succeeded succeeded
        apply ensures_bind
        apply ensures_result
        apply ensures_step
        · intro loaded failure failed
          have fails := CommandReply.isSuccess_of_failed failed
          have code := CommandReply.exitCode?_of_failed failed
          apply ensures_throw
          refine ⟨[.unloaded service built loaded builds fails], rest, rfl,
            rfl, ?_⟩
          show Settles config report.results
            ([] ++ [Attempt.unloaded service built loaded builds fails]) rest _
          rw [code]
          exact .stopped (by simp) builds fails failed
        · intro loaded later succeededLater
          have loads := CommandReply.isSuccess_of_succeeded succeededLater
          apply Ensures.mono (ih (report.push _))
          intro later result goes
          obtain ⟨attempts, skipped, batch⟩ := goes
          exact ⟨_, skipped,
            Batch.cons (.ready service built loaded builds loads) rfl batch⟩

end Operation

/-! ## The account of a batch -/

/-- The report of a batch; a failure to load an image has it with it. -/
def reportOf? : Except Failure ImageReport → Option ImageReport
  | .ok report => some report
  | .error (.imageNotLoaded _ report _) => some report
  | .error _ => none

section Account

variable {config : Config} {services skipped : List Service}
  {attempts : List Attempt}
  {trace : List Exchange} {result : Except Failure ImageReport}

theorem Settles.reportOf?_eq {before : List ImageResult}
    (settles : Settles config before attempts skipped result) :
    reportOf? result = some
      ⟨before ++ attempts.map (Attempt.entry config) ++
        skipped.map config.skippedEntry⟩ := by
  cases settles with
  | finished noneStuck => simp [reportOf?]
  | stopped noneStuck succeeded failed cause => rfl

theorem Settles.exists_ok_iff {before : List ImageResult}
    (settles : Settles config before attempts skipped result) :
    (∃ report, result = .ok report) ↔
      ∀ attempt ∈ attempts, attempt.isStuck = false := by
  cases settles with
  | finished noneStuck =>
      constructor
      · intro _
        exact noneStuck
      · intro _
        exact ⟨_, rfl⟩
  | @stopped attempts service built loaded _ failure noneStuck succeeded failed
    cause =>
      constructor
      · intro ends
        obtain ⟨report, impossible⟩ := ends
        cases impossible
      · intro none
        have isStuck :=
          none (.unloaded service built loaded succeeded failed) (by simp)
        cases isStuck

theorem Batch.entries_eq
    (batch : Batch config [] services attempts skipped trace result) :
    (attempts.map (Attempt.entry config) ++ skipped.map config.skippedEntry).map
        (fun entry => (entry.service, entry.image)) =
      services.map fun service => (service.name, config.tag service) := by
  rw [batch.services_eq]
  simp only [List.map_append, List.map_map]
  rfl

theorem Batch.commands_eq
    (batch : Batch config [] services attempts skipped trace result) :
    commands trace = attempts.flatMap (Attempt.commands config) := by
  rw [batch.trace_eq, commands, List.filterMap_flatMap]
  congr 1
  funext attempt
  exact attempt.commands_exchanges config

end Account

/-- A batch attempts its services in their order, up to the first one of which
the image is built and cannot be loaded.  It succeeds exactly if there is none,
and it accounts for every service, also when it fails. -/
theorem Operation.buildAndLoad_accounts (config : Config)
    (services : List Service) (surroundings : Surroundings σ) (state : σ) :
    let run := (buildAndLoad config services).toProcedure.run surroundings state
    ∃ attempts skipped,
      Batch config [] services attempts skipped run.trace run.value ∧
      commands run.trace = attempts.flatMap (Attempt.commands config) ∧
      ((∃ report, run.value = .ok report) ↔
        ∀ attempt ∈ attempts, attempt.isStuck = false) ∧
      (∃ report, reportOf? run.value = some report ∧
        report.results =
          attempts.map (Attempt.entry config) ++
            skipped.map config.skippedEntry ∧
        report.results.map (fun entry => (entry.service, entry.image)) =
          services.map fun service => (service.name, config.tag service)) ∧
      ∀ service : Service,
        service.imageArguments.Pairwise fun first second =>
          first.1 < second.1 := by
  intro run
  obtain ⟨attempts, skipped, batch⟩ :=
    (ensures_batch config .empty services).run surroundings state
  have settles := batch.settles
  exact ⟨attempts, skipped, batch, batch.commands_eq, settles.exists_ok_iff,
    ⟨_, settles.reportOf?_eq, rfl, batch.entries_eq⟩,
    Service.imageArguments_sorted⟩

end ClusterConsole
