import ClusterConsole.Proofs.Session.Announcement
import ClusterConsole.Proofs.Session.FailStop

/-!
# Clean outcomes

An outcome tells only whether the undertaking was declined and what there was to
warn of.  That is enough to know that every command has succeeded, the manifest
of a shipped service was there and nobody has refused: each failure that does
not stop an undertaking leaves its mark in the outcome, and nothing else does.
-/

namespace ClusterConsole

/-! ## Setbacks -/

namespace Exchange

/-- Whether a command is run in vain.  The query for the namespace is not
counted, since either of its exit codes is an answer. -/
def isFailedCommand (config : Config) (exchange : Exchange) : Bool :=
  exchange.isCommand && !exchange.isSuccess &&
    !exchange.runs config.namespaceQuery

end Exchange

/-- Whether the reply to a request can be a setback. -/
def Request.isCritical : Request → Bool
  | .run _ _ => true
  | .confirm _ _ => true
  | .file (.isFile _) => true
  | _ => false

namespace Undertaking

/-- Whether the undertaking as a whole needs consent. -/
def isGated : Undertaking → Bool
  | .bootstrap => true
  | .teardown => true
  | _ => false

/-- Whether the undertaking is about a service that has to have a manifest. -/
def needsManifest : Undertaking → Bool
  | .ship _ => true
  | _ => false

/-- Whether an exchange goes against an undertaking. -/
def isSetback (config : Config) (undertaking : Undertaking)
    (exchange : Exchange) : Bool :=
  exchange.isFailedCommand config ||
    (undertaking.isGated && exchange.isRefusal) ||
    (undertaking.needsManifest && (exchange.isLookup && !exchange.isFound))

/-- Nothing in a trace goes against an undertaking. -/
def Undisturbed (config : Config) (undertaking : Undertaking)
    (trace : List Exchange) : Prop :=
  ∀ exchange ∈ trace, undertaking.isSetback config exchange = false

end Undertaking

/-- Where the manifest of a service has to be. -/
def Config.manifestPath (config : Config) (service : Service) : Path :=
  config.resolve (service.manifest config.layout.services)

/-- What a clean outcome promises of a trace. -/
structure NothingFailed (config : Config) (undertaking : Undertaking)
    (trace : List Exchange) : Prop where
  /-- Whoever was asked about the whole undertaking has agreed. -/
  not_refused : undertaking.isGated = true →
    ∀ exchange ∈ trace, exchange.isRefusal = false
  /-- The manifest of a service that is shipped was found. -/
  manifest_found : ∀ query, undertaking = .ship query →
    ∃ service, config.roster.resolve? query = some service ∧
      ⟨.file (.isFile (config.manifestPath service)), true⟩ ∈ trace
  /-- Every command but the query for the namespace was started and has
  succeeded. -/
  commands_succeeded : ∀ exchange ∈ trace, exchange.isCommand = true →
    exchange.isSuccess = true ∨ exchange.runs config.namespaceQuery = true

namespace ImageReport

def SkipsNone (report : ImageReport) : Prop :=
  ∀ result ∈ report.results, result.outcome ≠ .skipped

variable {report : ImageReport} {result : ImageResult}

theorem isClean_push :
    (report.push result).isClean = (report.isClean && result.isSuccess) := by
  simp [isClean, push]

theorem skipsNone_push : (report.push result).SkipsNone ↔
    report.SkipsNone ∧ result.outcome ≠ .skipped := by
  simp [SkipsNone, push, or_imp, forall_and]

theorem isClean_iff_failures_eq_nil (skipsNone : report.SkipsNone) :
    report.isClean = true ↔ report.failures = [] := by
  rw [isClean, List.all_eq_true, failures, List.filter_eq_nil_iff]
  apply forall₂_congr
  intro result member
  have notSkipped := skipsNone result member
  rw [ImageResult.isSuccess]
  cases outcome : result.outcome with
  | skipped => exact absurd outcome notSkipped
  | _ => simp [ImageOutcome.isFailure]

end ImageReport

theorem Outcome.shipped_isClean {report : ImageReport} {deployed : Outcome} :
    ((completed.recordImages report).absorb deployed).isClean = true ↔
      report.failures = [] ∧ deployed.isClean = true := by
  obtain ⟨status, warnings, images⟩ := deployed
  cases status <;> simp [isClean, absorb, recordImages, completed]

section Setbacks

variable {config : Config} {undertaking : Undertaking}

theorem Undertaking.undisturbed_append {early late : List Exchange} :
    Undisturbed config undertaking (early ++ late) ↔
      Undisturbed config undertaking early ∧
      Undisturbed config undertaking late :=
  List.forall_mem_append

theorem Undertaking.undisturbed_cons {exchange : Exchange}
    {late : List Exchange} :
    Undisturbed config undertaking (exchange :: late) ↔
      undertaking.isSetback config exchange = false ∧
      Undisturbed config undertaking late :=
  List.forall_mem_cons

theorem Undertaking.isSetback_eq_false_iff {exchange : Exchange} :
    undertaking.isSetback config exchange = false ↔
      (exchange.isCommand = true →
        exchange.isSuccess = true ∨
        exchange.runs config.namespaceQuery = true) ∧
      (undertaking.isGated = true → exchange.isRefusal = false) ∧
      (undertaking.needsManifest = true → exchange.isLookup = true →
        exchange.isFound = true) := by
  simp [isSetback, Exchange.isFailedCommand]
  grind

theorem Undertaking.isSetback_of_not_isCritical {exchange : Exchange}
    (notCritical : exchange.request.isCritical = false) :
    undertaking.isSetback config exchange = false := by
  have kinds : exchange.isCommand = false ∧ exchange.isRefusal = false ∧
      exchange.isLookup = false := by
    obtain ⟨request, reply⟩ := exchange
    cases request with
    | run => cases notCritical
    | confirm => cases notCritical
    | file request =>
        cases request with
        | isFile => cases notCritical
        | _ => exact ⟨rfl, rfl, rfl⟩
    | _ => exact ⟨rfl, rfl, rfl⟩
  simp [isSetback, Exchange.isFailedCommand, kinds]

theorem Undertaking.isSetback_announce {event : Event} :
    undertaking.isSetback config ⟨.announce event, ()⟩ = false :=
  isSetback_of_not_isCritical rfl

variable {invocation : Invocation} {options : RunOptions}
  {reply : Except SystemError CommandOutput}

theorem Undertaking.isSetback_run :
    undertaking.isSetback config ⟨.run invocation options, reply⟩ =
      (!Exchange.isSuccess ⟨.run invocation options, reply⟩ &&
        !decide (invocation = config.namespaceQuery)) := by
  simp [isSetback, Exchange.isFailedCommand, Exchange.isCommand,
    Exchange.isRefusal, Exchange.isLookup, Exchange.runs]

theorem Undertaking.isSetback_of_succeeded {output : CommandOutput}
    (succeeded : invocation.result .checked reply = .ok output) :
    undertaking.isSetback config ⟨.run invocation .checked, reply⟩ = false := by
  simp [isSetback_run, Invocation.isSuccess_of_succeeded succeeded]

theorem Config.ne_namespaceQuery (config : Config) (word : String)
    (first : invocation.arguments.head? = some word) (notGet : word ≠ "get") :
    invocation ≠ config.namespaceQuery := by
  rintro rfl
  exact notGet (Option.some.inj first).symm

theorem Undertaking.isSetback_of_ne
    (notQuery : invocation ≠ config.namespaceQuery) :
    undertaking.isSetback config ⟨.run invocation options, reply⟩ =
      !Exchange.isSuccess ⟨.run invocation options, reply⟩ := by
  simp [isSetback_run, notQuery]

theorem Undertaking.isSetback_of_failed
    (undertaking : Undertaking) {failure : Failure}
    (failed : invocation.result .checked reply = .error failure)
    (notQuery : invocation ≠ config.namespaceQuery) :
    undertaking.isSetback config ⟨.run invocation .checked, reply⟩ = true := by
  simp [isSetback_of_ne notQuery, Invocation.isSuccess_of_failed failed]

end Setbacks

/-! ## Parts that fail or leave no setback -/

/-- Whether a task that does not fail has met with no setback. -/
def Task.isStrict (config : Config) : Task → Bool
  | .resolve _ _ => true
  | .command invocation options =>
    options.check || invocation = config.namespaceQuery
  | .ask _ => false
  | .lookUp _ => false
  | .writeSecret _ _ _ => true

section Strict

variable {config : Config} {undertaking : Undertaking}
  {exchanges : List Exchange}

theorem SecretWrite.undisturbed {source target : Path} {namespaceName : String}
    {failure? : Option Failure}
    (write : SecretWrite source target namespaceName exchanges failure?) :
    undertaking.Undisturbed config exchanges := by
  have notCritical :
      ∀ exchange ∈ exchanges, exchange.request.isCritical = false := by
    cases write with
    | unread => simp [Request.isCritical]
    | rewritten _ replacement => cases replacement <;> simp [Request.isCritical]
  exact fun exchange member =>
    Undertaking.isSetback_of_not_isCritical (notCritical exchange member)

theorem Task.Goes.undisturbed {task : Task} {failure? : Option Failure}
    (goes : task.Goes exchanges failure?) (noFailure : failure? = none)
    (strict : task.isStrict config = true) :
    undertaking.Undisturbed config exchanges := by
  cases goes with
  | known | unknown => simp [Undertaking.Undisturbed]
  | @command invocation options reply =>
      rw [Invocation.failure?_eq] at noFailure
      cases result : invocation.result options reply with
      | error failure => simp [result, failureOf] at noFailure
      | ok output =>
          obtain ⟨rfl, succeeds⟩ := Invocation.result_eq_ok_iff.mp result
          rcases (by simpa [isStrict] using strict :
            options.check = true ∨
            invocation = config.namespaceQuery) with isChecked | isQuery
          · simp [Undertaking.Undisturbed, Undertaking.isSetback_run,
              Exchange.isSuccess, succeeds isChecked]
          · simp [Undertaking.Undisturbed, Undertaking.isSetback_run, isQuery]
  | answered | unanswered | lookUp => cases strict
  | writeSecret write => exact write.undisturbed

/-- A step of a plan that is carried out without a setback, or else is the
end. -/
def PlanStep.isStrict (config : Config) (step : PlanStep) : Prop :=
  step.severity = .mandatory ∧ step.task.isStrict config = true

theorem Follows.undisturbed {plan : List PlanStep}
    {earlier trace : List Exchange} {stop? : Option Failure}
    (follows : Follows plan earlier trace stop?) (finishes : stop? = none)
    (strict : ∀ step ∈ plan, step.isStrict config) :
    undertaking.Undisturbed config trace := by
  induction follows with
  | finished => simp [Undertaking.Undisturbed]
  | passedOver notDue rest ih =>
      exact ih finishes fun step member => strict step (.tail _ member)
  | @carriedOut step plan earlier exchanges trace failure? stop? due goes goesOn
    rest ih =>
      obtain ⟨isMandatory, isStrict⟩ := strict step (.head _)
      have noFailure : failure? = none := by
        rw [isMandatory] at goesOn
        cases failure? with
        | none => rfl
        | some failure => cases goesOn
      exact Undertaking.undisturbed_append.mpr
        ⟨goes.undisturbed noFailure isStrict,
        ih finishes fun step member => strict step (.tail _ member)⟩
  | stopped => cases finishes

end Strict

namespace Operation

/-- Whatever the replies are, there is a result only where nothing went against
the undertaking. -/
def Strict (config : Config) (undertaking : Undertaking)
    (operation : Operation α) : Prop :=
  Ensures operation fun trace result => ∀ value, result = .ok value →
    undertaking.Undisturbed config trace

/-- Whatever the replies are, an outcome is clean if it was so at the start and
nothing went against the undertaking, and only then. -/
def Honest (config : Config) (undertaking : Undertaking) (start : Outcome)
    (operation : Operation Outcome) : Prop :=
  Ensures operation fun trace result => ∀ outcome, result = .ok outcome →
    (outcome.isClean = true ↔
      start.isClean = true ∧ undertaking.Undisturbed config trace)

/-- Whatever the replies are, an outcome is not clean. -/
def Tarnished (operation : Operation Outcome) : Prop :=
  Ensures operation fun _ result => ∀ outcome, result = .ok outcome →
    outcome.isClean = false

section Rules

variable {config : Config} {undertaking : Undertaking} {start : Outcome}

theorem strict_pure (value : α) : Strict config undertaking (pure value) :=
  ensures_pure fun _ _ => by simp [Undertaking.Undisturbed]

theorem strict_announce (event : Event) :
    Strict config undertaking (announce event) :=
  ensures_announce fun _ _ => by
    simp [Undertaking.Undisturbed, Undertaking.isSetback_announce]

theorem strict_bind {first : Operation α} {next : α → Operation β}
    (strict : Strict config undertaking first)
    (rest : ∀ value, Strict config undertaking (next value)) :
    Strict config undertaking (first >>= next) := by
  apply Ensures.bind strict
  · intro trace failure _ value same
    cases same
  · intro trace value early
    apply Ensures.mono (rest value)
    intro later result late final same
    exact Undertaking.undisturbed_append.mpr ⟨early value rfl, late final same⟩

theorem strict_invoke {invocation : Invocation} {options : RunOptions}
    (isChecked : options.check = true) :
    Strict config undertaking (invoke invocation options) := by
  apply ensures_invoke
  intro reply output result
  obtain ⟨rfl, succeeds⟩ := Invocation.result_eq_ok_iff.mp result
  simp [Undertaking.Undisturbed, Undertaking.isSetback_run, Exchange.isSuccess,
    succeeds isChecked]

theorem strict_step {action : Action} {target : String}
    {invocation : Invocation} :
    Strict config undertaking (step action target invocation) :=
  strict_bind (strict_announce _) fun _ =>
    strict_bind (strict_invoke rfl) fun _ => strict_announce _

/-- What follows a plan in which nothing is tolerated has a result only where
all went well. -/
theorem Realizes.strict {plan : List PlanStep} {earlier : List Exchange}
    {operation : Operation α} (realizes : Realizes plan earlier operation)
    (strict : ∀ step ∈ plan, step.isStrict config) :
    Strict config undertaking operation := by
  apply Ensures.mono realizes
  rintro trace result follows value rfl exchange member
  cases shown : exchange.isVisible with
  | true =>
      exact follows.undisturbed rfl strict exchange
        (List.mem_filter.mpr ⟨member, shown⟩)
  | false =>
      apply Undertaking.isSetback_of_not_isCritical
      obtain ⟨request, reply⟩ := exchange
      cases request with
      | announce | settle => rfl
      | _ => cases shown

theorem honest_pure {outcome : Outcome}
    (same : outcome.isClean = start.isClean) :
    Honest config undertaking start (pure outcome) := by
  apply ensures_pure
  intro own isOwn
  cases isOwn
  simp [same, Undertaking.Undisturbed]

theorem tarnished_pure {outcome : Outcome}
    (notClean : outcome.isClean = false) :
    Tarnished (pure outcome) :=
  ensures_pure fun _ same => by cases same; exact notClean

theorem tarnished_degrade (warning : Warning) :
    Tarnished (degrade start warning) := by
  apply ensures_bind
  apply ensures_announce
  apply ensures_pure
  intro own same
  cases same
  simp [Outcome.isClean, Outcome.warn]

theorem honest_bind {first : Operation α} {next : α → Operation Outcome}
    (strict : Strict config undertaking first)
    (rest : ∀ value, Honest config undertaking start (next value)) :
    Honest config undertaking start (first >>= next) := by
  apply Ensures.bind strict
  · intro trace failure _ outcome same
    cases same
  · intro trace value early
    apply Ensures.mono (rest value)
    intro later result honest outcome same
    simp [Undertaking.undisturbed_append, early value rfl, honest outcome same]

/-- An exchange after which the outcome cannot be clean any more has to be a
setback, and after any other one the outcome has to tell of what comes then. -/
theorem honest_reply {exchange : Exchange} {next : Operation Outcome}
    (setback : undertaking.isSetback config exchange = true → Tarnished next)
    (noSetback : undertaking.isSetback config exchange = false →
      Honest config undertaking start next) :
    Ensures next fun later result => ∀ outcome, result = .ok outcome →
      (outcome.isClean = true ↔
        start.isClean = true ∧
        undertaking.Undisturbed config (exchange :: later)) := by
  cases isSetback : undertaking.isSetback config exchange with
  | true =>
      apply Ensures.mono (setback isSetback)
      intro later result tarnished outcome same
      simp [tarnished outcome same, Undertaking.undisturbed_cons, isSetback]
  | false =>
      apply Ensures.mono (noSetback isSetback)
      intro later result honest outcome same
      simp [honest outcome same, Undertaking.undisturbed_cons, isSetback]

/-- A command whose failure is tolerated has to leave its mark. -/
theorem honest_attempt {invocation : Invocation} {options : RunOptions}
    {next : Except Failure CommandOutput → Operation Outcome}
    (notQuery : invocation ≠ config.namespaceQuery)
    (failed : ∀ reply,
      Exchange.isSuccess ⟨.run invocation options, reply⟩ = false →
      Tarnished (next (invocation.result options reply)))
    (succeeded : ∀ output, output.isSuccess = true →
      Honest config undertaking start
        (next (invocation.result options (.ok output)))) :
    Honest config undertaking start
      (result (invoke invocation options) >>= next) := by
  apply ensures_bind
  apply ensures_result
  apply ensures_invoke
  intro reply
  apply honest_reply
  · intro isSetback
    apply failed reply
    simpa [Undertaking.isSetback_run, notQuery] using isSetback
  · intro noSetback
    cases reply with
    | error cause =>
      simp [Undertaking.isSetback_run, notQuery, Exchange.isSuccess]
        at noSetback
    | ok output =>
        apply succeeded output
        simpa [Undertaking.isSetback_run, notQuery, Exchange.isSuccess]
          using noSetback

theorem honest_consent {question : String} {next : Bool → Operation Outcome}
    (refused : undertaking.isGated = true → Tarnished (next false))
    (answered : ∀ answer, (undertaking.isGated = true → answer = true) →
      Honest config undertaking start (next answer)) :
    Honest config undertaking start (consent question >>= next) := by
  apply ensures_consent
  · intro reason outcome same
    cases same
  · intro answer
    have isSetback :
        undertaking.isSetback config ⟨.confirm question false, .ok answer⟩ =
        (undertaking.isGated && !answer) := by
      cases answer <;> simp [Undertaking.isSetback, Exchange.isFailedCommand,
        Exchange.isCommand, Exchange.isRefusal, Exchange.isLookup]
    apply honest_reply
    · intro setback
      obtain ⟨isGated, rfl⟩ : undertaking.isGated = true ∧ answer = false := by
        simpa [isSetback] using setback
      exact refused isGated
    · intro noSetback
      exact answered answer (by simpa [isSetback] using noSetback)

end Rules

/-! ## The parts of the undertakings -/

variable (config : Config) (undertaking : Undertaking)

theorem strict_ensureNamespace :
    Strict config undertaking (ensureNamespace config) :=
  (realizes_ensureNamespace config []).strict
    (by simp [PlanStep.isStrict, Task.isStrict, PlanStep.must,
        RunOptions.checked])

theorem strict_settle : Strict config undertaking (settle config) :=
  (realizes_settle config []).strict (by simp)

theorem strict_materializeSecret :
    Strict config undertaking (materializeSecret config) :=
  (realizes_materializeSecret config []).strict
    (by simp [PlanStep.isStrict, Task.isStrict, Config.secretStep,
        PlanStep.must])

theorem honest_awaitReady (probe : Probe) (start : Outcome) :
    Honest config undertaking start (awaitReady config probe start) := by
  unfold awaitReady wait
  simp only [bind_assoc]
  apply honest_bind (strict_announce _)
  intro _
  have answers (output : CommandOutput) :
      (config.waitCommand probe).result .unchecked (.ok output) = .ok output :=
        rfl
  apply honest_attempt (config.ne_namespaceQuery "wait" rfl (by decide))
  · intro reply failed
    cases reply with
    | error cause => exact tarnished_degrade (.notReady probe)
    | ok output =>
        have notReady : output.isSuccess = false := failed
        rw [answers]
        simp only [notReady, Bool.false_eq_true, if_false]
        exact tarnished_degrade (.notReady probe)
  · intro output succeeded
    rw [answers]
    simp only [succeeded, if_true, bind_assoc]
    exact honest_bind (strict_announce _) fun _ => honest_pure rfl

theorem honest_setUpCluster :
    Honest config undertaking .completed (setUpCluster config) := by
  apply honest_bind strict_step
  intro _
  apply honest_bind (strict_announce _)
  intro _
  apply honest_attempt (config.ne_namespaceQuery "apply" rfl (by decide))
  · intro reply failed
    cases result : config.ingressCommand.result .checked reply with
    | error failure => exact tarnished_degrade _
    | ok output => simp [Invocation.isSuccess_of_succeeded result] at failed
  · intro output succeeded
    have result :
        config.ingressCommand.result .checked (.ok output) = .ok output :=
      Invocation.result_eq_ok_iff.mpr ⟨rfl, fun _ => succeeded⟩
    rw [result]
    exact honest_bind (strict_announce _) fun _ =>
      honest_awaitReady config _ _ _

theorem honest_bootstrap :
    Honest config .bootstrap .completed (bootstrap config) := by
  have lists : Strict config .bootstrap (clusterState config) :=
    strict_bind (strict_invoke rfl) fun _ => strict_pure _
  apply honest_bind lists
  intro clusterState
  cases clusterState with
  | absent => exact honest_setUpCluster config _
  | present =>
      apply honest_consent
      · intro _
        exact tarnished_pure rfl
      · intro answer agreed
        cases agreed rfl
        exact honest_bind strict_step fun _ => honest_setUpCluster config _

theorem honest_teardown :
    Honest config .teardown .completed (teardown config) := by
  apply honest_consent
  · intro _
    exact tarnished_pure rfl
  · intro answer agreed
    cases agreed rfl
    exact honest_bind strict_step fun _ => honest_pure rfl

theorem honest_deployInfrastructure :
    Honest config undertaking .completed (deployInfrastructure config) := by
  apply honest_bind (strict_ensureNamespace config _)
  intro _
  apply honest_bind strict_step
  intro _
  apply honest_bind (strict_settle config _)
  intro _
  apply honest_bind strict_step
  intro _
  apply honest_bind (strict_materializeSecret config _)
  intro _
  apply honest_bind strict_step
  intro _
  apply honest_bind strict_step
  intro _
  exact honest_awaitReady config _ _ _

theorem honest_deployServices :
    Honest config undertaking .completed (deployServices config) :=
  honest_bind strict_step fun _ => honest_bind strict_step fun _ =>
    honest_pure rfl

theorem honest_applyConfig :
    Honest config .applyConfig .completed (applyConfig config) := by
  apply honest_bind (strict_materializeSecret config _)
  intro _
  apply honest_bind strict_step
  intro _
  apply honest_consent
  · intro isGated
    cases isGated
  · intro answer _
    -- The question is about the restart alone, so either answer leaves the
    -- outcome clean.
    cases answer with
    | true =>
        have restarts : Strict config .applyConfig (restartAll config) :=
          strict_bind strict_step fun _ => strict_step
        exact honest_bind restarts fun _ => honest_pure rfl
    | false => exact honest_pure rfl

/-! ## Batches -/

/-- A batch goes on after a failed build only, so its report is as clean as the
batch has gone, and no image is skipped. -/
theorem ensures_continueBatch (report : ImageReport) (services : List Service) :
    Ensures (continueBatch config report services) fun trace result =>
      ∀ final, result = .ok final →
        (final.isClean = true ↔
          report.isClean = true ∧ undertaking.Undisturbed config trace) ∧
          (report.SkipsNone → final.SkipsNone) := by
  induction services generalizing report with
  | nil =>
      apply ensures_pure
      intro final same
      cases same
      simp [Undertaking.Undisturbed]
  | cons service rest ih =>
      apply ensures_bind
      apply ensures_result
      apply ensures_step
      · intro reply failure failed
        have isSetback := undertaking.isSetback_of_failed failed
          (config.ne_namespaceQuery "build" rfl (by decide))
        apply Ensures.mono (ih (report.push _))
        intro later result batch final same
        obtain ⟨clean, skips⟩ := batch final same
        constructor
        · simp [clean, ImageReport.isClean_push, Service.result,
            ImageResult.isSuccess, Undertaking.undisturbed_cons, isSetback]
        · intro skipsNone
          exact skips (ImageReport.skipsNone_push.mpr ⟨skipsNone,
              by simp [Service.result]⟩)
      · intro reply output succeeded
        apply ensures_bind
        apply ensures_result
        apply ensures_step
        · intro loading failure failed final same
          cases same
        · intro loading loaded ready
          apply Ensures.mono (ih (report.push _))
          intro later result batch final same
          obtain ⟨clean, skips⟩ := batch final same
          constructor
          · simp [clean, ImageReport.isClean_push, Service.result,
              ImageResult.isSuccess, Undertaking.undisturbed_cons,
              Undertaking.isSetback_announce, Undertaking.isSetback_of_succeeded
                succeeded, Undertaking.isSetback_of_succeeded ready]
          · intro skipsNone
            exact skips (ImageReport.skipsNone_push.mpr ⟨skipsNone,
                by simp [Service.result]⟩)

/-! ## Shipping a service -/

theorem honest_deployService (service : Service) (query : String) :
    Honest config (.ship query) .completed (deployService config service) := by
  apply ensures_bind
  apply ensures_request
  intro found
  apply honest_reply
  · intro setback
    cases found with
    | true => cases setback
    | false => exact tarnished_degrade _
  · intro noSetback
    cases found with
    | true =>
        exact honest_bind strict_step fun _ => honest_bind strict_step fun _ =>
          honest_pure rfl
    | false => cases noSetback

/-- Whatever the replies are, no file is looked for. -/
abbrev LooksUpNothing (operation : Operation α) : Prop :=
  AsksOnly (fun request => ∀ reply, Exchange.isLookup ⟨request, reply⟩ = false)
    operation

theorem filter_isLookup_eq_nil {trace : List Exchange}
    (none : ∀ exchange ∈ trace, ∀ reply,
      Exchange.isLookup ⟨exchange.request, reply⟩ = false) :
    trace.filter Exchange.isLookup = [] :=
  List.filter_eq_nil_iff.mpr fun exchange member => by
    simp [none exchange member exchange.reply]

/-- Whether there is a manifest is asked once, and first of all. -/
theorem ensures_deployService_lookups (service : Service) :
    Ensures (deployService config service) fun trace _ =>
      ∃ found, trace.filter Exchange.isLookup =
        [⟨.file (.isFile (config.manifestPath service)), found⟩] := by
  apply ensures_bind
  apply ensures_request
  intro found
  have noLookup : LooksUpNothing
      (if found then do
        applyManifest config (service.manifest config.layout.services)
        restart config ("deployment/" ++ service.name)
        return Outcome.completed
      else
        degrade .completed
          (.noManifest (service.manifest config.layout.services))) := by
    have step {action : Action} {target : String} {invocation : Invocation} :
        LooksUpNothing (step action target invocation) :=
      asksOnly_step (fun _ => rfl) (fun _ => rfl) (fun _ => rfl)
    cases found with
    | true =>
      exact asksOnly_bind step fun _ => asksOnly_bind step fun _ =>
        asksOnly_pure _
    | false =>
      exact asksOnly_bind (asksOnly_announce fun _ => rfl) fun _ =>
        asksOnly_pure _
  apply Ensures.mono noLookup
  intro later result none
  exact ⟨found, congrArg (_ :: ·) (filter_isLookup_eq_nil none)⟩

theorem ensures_ship_clean (query : String) :
    Ensures (ship config query) fun trace result =>
      ∀ outcome, result = .ok outcome →
      (outcome.isClean = true ↔
        (Undertaking.ship query).Undisturbed config trace) ∧
        outcome.images.SkipsNone ∧
        ∃ service found, config.roster.resolve? query = some service ∧
          trace.filter Exchange.isLookup =
            [⟨.file (.isFile (config.manifestPath service)), found⟩] := by
  unfold ship
  cases known : config.roster.resolve? query with
  | none =>
      apply ensures_throw
      intro outcome same
      cases same
  | some service =>
      have noLookup : LooksUpNothing (buildAndLoad config [service]) :=
        asksOnly_continueBatch config .empty [service] (fun _ _ _ => rfl)
          (fun _ _ _ => rfl)
          (fun _ _ => rfl) (fun _ _ => rfl)
      have builds :=
        (ensures_continueBatch config (.ship query) .empty [service]).and
          noLookup
      have deploys := ((honest_deployService config service query).and
        (ensures_deployService_lookups config service)).and (tells_deployService
          config service)
      apply Ensures.bind builds
      · intro early failure _ outcome same
        cases same
      · rintro early report ⟨batch, none⟩
        apply Ensures.bind deploys
        · intro late failure _ outcome same
          cases same
        · rintro late deployed ⟨⟨honest, found, lookups⟩, tells⟩
          apply ensures_pure
          intro outcome same
          cases same
          obtain ⟨clean, skips⟩ := batch report rfl
          have skipsNone : report.SkipsNone :=
            skips (by simp [ImageReport.SkipsNone, ImageReport.empty])
          refine ⟨?_, ?_, service, found, rfl, ?_⟩
          · rw [Outcome.shipped_isClean,
              ← ImageReport.isClean_iff_failures_eq_nil skipsNone, clean,
              honest deployed rfl]
            simp [Undertaking.undisturbed_append, ImageReport.isClean,
              ImageReport.empty, Outcome.isClean, Outcome.completed]
          · rw [Outcome.shipped_images (tells deployed rfl).2]
            exact skipsNone
          · simp [filter_isLookup_eq_nil none, lookups]

/-! ## Every undertaking -/

end Operation

namespace Undertaking

variable {config : Config} {undertaking : Undertaking}

/-- That nothing went against an undertaking is what is promised, given that
only the manifest of a shipped service is looked for. -/
theorem undisturbed_iff {trace : List Exchange}
    (lookups : ∀ query, undertaking = .ship query →
      ∃ service found, config.roster.resolve? query = some service ∧
        trace.filter Exchange.isLookup =
          [⟨.file (.isFile (config.manifestPath service)), found⟩]) :
    undertaking.Undisturbed config trace ↔
      NothingFailed config undertaking trace := by
  constructor
  · intro undisturbed
    have parts (exchange : Exchange) (member : exchange ∈ trace) :=
      isSetback_eq_false_iff.mp (undisturbed exchange member)
    refine ⟨fun isGated exchange member =>
      (parts exchange member).2.1 isGated, ?_,
      fun exchange member => (parts exchange member).1⟩
    rintro query rfl
    obtain ⟨service, found, known, only⟩ := lookups query rfl
    have lookup := List.mem_filter.mp (only ▸ List.mem_singleton_self _)
    have isFound : found = true := (parts _ lookup.1).2.2 rfl rfl
    exact ⟨service, known, isFound ▸ lookup.1⟩
  · rintro ⟨notRefused, manifestFound, commandsSucceeded⟩ exchange member
    refine isSetback_eq_false_iff.mpr ⟨commandsSucceeded exchange member,
      fun isGated => notRefused isGated exchange member,
      fun needsManifest isLookup => ?_⟩
    cases undertaking with
    | ship query =>
        -- There is one look-up, so this one is that of the manifest, which was
        -- found.
        obtain ⟨service, known, found⟩ := manifestFound query rfl
        obtain ⟨_, _, _, only⟩ := lookups query rfl
        have here : exchange ∈ trace.filter Exchange.isLookup :=
          List.mem_filter.mpr ⟨member, isLookup⟩
        have there :=
          List.mem_filter.mpr ⟨found, (rfl : Exchange.isLookup ⟨_, _⟩ = true)⟩
        rw [only, List.mem_singleton] at here there
        rw [here, ← there]
        rfl
    | _ => cases needsManifest

end Undertaking

namespace Operation

variable (config : Config)

theorem ensures_clean (undertaking : Undertaking) :
    Ensures (undertaking.operation config) fun trace result =>
      ∀ outcome, result = .ok outcome →
        (outcome.isClean = true ↔ NothingFailed config undertaking trace) ∧
          outcome.images.SkipsNone := by
  have builds_none (honest : Honest config undertaking .completed
      (undertaking.operation config))
      (tells : Tells .completed (undertaking.operation config))
      (isOther : ∀ query, undertaking ≠ .ship query) :
      Ensures (undertaking.operation config) fun trace result =>
        ∀ outcome, result = .ok outcome →
          (outcome.isClean = true ↔ NothingFailed config undertaking trace) ∧
            outcome.images.SkipsNone := by
    apply Ensures.mono (honest.and tells)
    rintro trace result ⟨honest, tells⟩ outcome same
    rw [honest outcome same, (tells outcome same).2,
      ← Undertaking.undisturbed_iff fun query isShip =>
        absurd isShip (isOther query)]
    simp [Outcome.isClean, Outcome.completed, ImageReport.SkipsNone,
      ImageReport.empty]
  cases undertaking with
  | bootstrap =>
    exact builds_none (honest_bootstrap config) (tells_bootstrap config)
      (by simp)
  | teardown =>
    exact builds_none (honest_teardown config) (tells_teardown config) (by simp)
  | deployInfrastructure =>
      exact builds_none (honest_deployInfrastructure config _)
        (tells_deployInfrastructure config)
        (by simp)
  | deployServices =>
      exact builds_none (honest_deployServices config _)
        (tells_deployServices config) (by simp)
  | applyConfig =>
      exact builds_none (honest_applyConfig config) (tells_applyConfig config)
        (by simp)
  | ship query =>
      apply Ensures.mono (ensures_ship_clean config query)
      intro trace result ships outcome same
      obtain ⟨clean, skipsNone, lookups⟩ := ships outcome same
      rw [clean, Undertaking.undisturbed_iff]
      · exact ⟨Iff.rfl, skipsNone⟩
      · intro other same
        cases same
        exact lookups

/-- The commands of a batch build and load, so every failure among them
counts. -/
theorem ensures_buildAll :
    Ensures (buildAll config) fun trace result =>
      ∀ report, result = .ok report →
      (report.isClean = true ↔
        ∀ exchange ∈ trace, exchange.isCommand = true →
        exchange.isSuccess = true) := by
  -- No undertaking is involved, so any of them will do to count setbacks.
  have counted : AsksOnly
      (fun request => ∀ reply,
        Undertaking.deployServices.isSetback config ⟨request, reply⟩ =
        (Exchange.isCommand ⟨request, reply⟩ &&
          !Exchange.isSuccess ⟨request, reply⟩))
      (buildAll config) := by
    apply asksOnly_continueBatch
    · exact fun _ _ _ => rfl
    · exact fun _ _ _ => rfl
    · intro service reply
      exact Undertaking.isSetback_of_ne
        (config.ne_namespaceQuery "build" rfl (by decide))
    · intro image reply
      exact Undertaking.isSetback_of_ne
        (config.ne_namespaceQuery "load" rfl (by decide))
  apply Ensures.mono
    ((ensures_continueBatch config .deployServices .empty _).and counted)
  rintro trace result ⟨batch, counted⟩ report same
  rw [(batch report same).1]
  have undisturbed : Undertaking.deployServices.Undisturbed config trace ↔
      ∀ exchange ∈ trace, exchange.isCommand = true →
      exchange.isSuccess = true := by
    apply forall₂_congr
    intro exchange member
    rw [counted exchange member exchange.reply]
    simp
  simp [undisturbed, ImageReport.isClean, ImageReport.empty]

end Operation

/-- Against any surroundings, an outcome is clean exactly when nothing failed,
and then every image in it was built and loaded; and so is the report of a
batch. -/
theorem clean_iff_nothing_failed (config : Config)
    (surroundings : Surroundings σ) (state : σ) :
    (∀ (undertaking : Undertaking) (outcome : Outcome),
      ((undertaking.operation config).toProcedure.run surroundings
          state).value = .ok outcome →
        (outcome.isClean = true ↔ NothingFailed config undertaking
          ((undertaking.operation config).toProcedure.run surroundings
              state).trace) ∧
        (outcome.isClean = true →
          ∀ result ∈ outcome.images.results,
          result.outcome = .builtAndLoaded)) ∧
    ∀ report : ImageReport,
      ((Operation.buildAll config).toProcedure.run surroundings state).value =
        .ok report →
        (report.isClean = true ↔
          ∀ exchange ∈ ((Operation.buildAll config).toProcedure.run surroundings
              state).trace,
            exchange.isCommand = true → exchange.isSuccess = true) := by
  constructor
  · intro undertaking outcome completes
    obtain ⟨clean, skipsNone⟩ :=
      (Operation.ensures_clean config undertaking).run surroundings state
        outcome completes
    refine ⟨clean, fun isClean => ?_⟩
    -- The warnings of a clean outcome are none, so there is none for a failed
    -- image.
    have noWarning : outcome.warnings = [] := by
      simpa using (Bool.and_eq_true_iff.mp isClean).2
    rw [(Operation.ensures_announced config undertaking |>.run surroundings
          state outcome
      completes).1] at noWarning
    have noFailure : outcome.images.failures = [] :=
      List.map_eq_nil_iff.mp (List.append_eq_nil_iff.mp noWarning).1
    have allReady :=
      (ImageReport.isClean_iff_failures_eq_nil skipsNone).mpr noFailure
    intro result member
    exact eq_of_beq (List.all_eq_true.mp allReady result member)
  · intro report completes
    exact (Operation.ensures_buildAll config).run surroundings state report
      completes

/-- The manifest of one service is there, and every command succeeds. -/
def tidyFiles : FileTree × Rehearsal :=
  ((FileTree.empty []).plant ["k8s", "services", "auth-service.yaml"]
      (.text ""), .ofScript .empty)

def tidyShipment : Run (FileTree × Rehearsal) (Except Failure Outcome) :=
  ((Undertaking.ship "as").operation .standard).toProcedure.run
    Rehearsal.performers.withFiles tidyFiles

theorem nothing_failed_tidyShipment :
    ∃ outcome, tidyShipment.value = .ok outcome ∧ outcome.isClean = true ∧
      outcome.images.size = 1 ∧
      NothingFailed .standard (.ship "as") tidyShipment.trace := by
  have clean :=
    clean_iff_nothing_failed .standard Rehearsal.performers.withFiles tidyFiles
  refine ⟨_, rfl, ?_, ?_, (clean.1 (.ship "as") _ rfl).1.mp ?_⟩
  · decide +kernel
  · decide +kernel
  · decide +kernel

end ClusterConsole
