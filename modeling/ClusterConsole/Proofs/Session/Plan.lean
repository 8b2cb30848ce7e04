import ClusterConsole.Proofs.Session.Consent

/-!
# Plans

Each undertaking has a fixed plan: a list of steps, each with the condition
under which it is due and with what becomes of the undertaking if it fails.  To
follow a plan is to carry out its steps in order, to pass over those that are
not due, and to stop at the first failure that is not tolerated.  The plans are
stated without any regard to how the operations are put together.
-/

namespace ClusterConsole

namespace Exchange

/-- Whether an exchange is a deed or a question, and not just an announcement or
a pause. -/
def isVisible : Exchange → Bool
  | ⟨.announce _, _⟩ => false
  | ⟨.settle _, _⟩ => false
  | _ => true

def runs (command : Invocation) : Exchange → Bool
  | ⟨.run invocation _, _⟩ => invocation = command
  | _ => false

def isSuccess : Exchange → Bool
  | ⟨.run _ _, .ok output⟩ => output.isSuccess
  | _ => false

/-- Whether a command is run whose exit code is not zero. -/
def isNegative : Exchange → Bool
  | ⟨.run _ _, .ok output⟩ => !output.isSuccess
  | _ => false

def lists (name : String) : Exchange → Bool
  | ⟨.run _ _, .ok output⟩ =>
    ClusterState.ofListing name output.stdout = .present
  | _ => false

def isQuestion : Exchange → Bool
  | ⟨.confirm _ _, _⟩ => true
  | _ => false

def isLookup : Exchange → Bool
  | ⟨.file (.isFile _), _⟩ => true
  | _ => false

def isFound : Exchange → Bool
  | ⟨.file (.isFile _), found⟩ => found
  | _ => false

end Exchange

/-- A trace without announcements and pauses. -/
def visible (trace : List Exchange) : List Exchange :=
  trace.filter Exchange.isVisible

/-! ## Tasks -/

/-- What one step of a plan does. -/
inductive Task where
  /-- Looks up a service in the roster. -/
  | resolve (roster : Roster) (query : String)
  | command (invocation : Invocation) (options : RunOptions)
  | ask (question : String)
  | lookUp (path : Path)
  /-- Writes the secret of a namespace, made from an environment source. -/
  | writeSecret (source target : Path) (namespaceName : String)

/-- Why a command counts as failed: it does not start, or it has to succeed and
does not. -/
def Invocation.failure? (invocation : Invocation) (options : RunOptions) :
    Except SystemError CommandOutput → Option Failure
  | .error cause => some (.notStarted invocation.program cause)
  | .ok output =>
    if options.check = true ∧ output.exitCode ≠ 0 then
      some (.commandFailed invocation.text output.exitCode output.stderr?)
    else none

/-- The text of an environment source: one that is not found is empty, and any
other error leaves none. -/
def sourceText? : Except SystemError String → Option String
  | .ok text => some text
  | .error cause => if cause = .notFound then some "" else none

/-- The exchanges when a file is replaced as a whole, and why that failed.  The
first error is the end, and a file that was staged in vain is removed. -/
inductive Replacement (target : Path) (contents : String) :
    List Exchange → Option Failure → Prop where
  | unplaced {cause : SystemError} :
      Replacement target contents
        [⟨.file (.makeDirectories target.directory), .error cause⟩]
          (some (.system cause))
  | unstaged {cause : SystemError} :
      Replacement target contents
        [⟨.file (.makeDirectories target.directory), .ok ()⟩,
          ⟨.file (.stage target.directory contents), .error cause⟩]
            (some (.system cause))
  | unpromoted {staged : Location} {cause : SystemError} :
      Replacement target contents
        [⟨.file (.makeDirectories target.directory), .ok ()⟩,
          ⟨.file (.stage target.directory contents), .ok staged⟩,
          ⟨.file (.promote staged target), .error cause⟩,
          ⟨.file (.discard staged), ()⟩] (some (.system cause))
  | replaced {staged : Location} :
      Replacement target contents
        [⟨.file (.makeDirectories target.directory), .ok ()⟩,
          ⟨.file (.stage target.directory contents), .ok staged⟩,
          ⟨.file (.promote staged target), .ok ()⟩] none

/-- The exchanges when a secret is written, and why that failed. -/
inductive SecretWrite (source target : Path) (namespaceName : String) :
    List Exchange → Option Failure → Prop where
  | unread {cause : SystemError}
      (unreadable : sourceText? (.error cause) = none) :
      SecretWrite source target namespaceName
        [⟨.file (.readText source), .error cause⟩] (some (.system cause))
  | rewritten {reply : Except SystemError String} {text : String}
      {exchanges : List Exchange} {failure? : Option Failure}
      (read : sourceText? reply = some text)
      (replacement : Replacement target
        ((SecretMaterial.resolve (.parse text)).render namespaceName) exchanges
          failure?) :
      SecretWrite source target namespaceName
        (⟨.file (.readText source), reply⟩ :: exchanges) failure?

/-- How a task can go: its exchanges, and why it failed, if it did. -/
inductive Task.Goes : Task → List Exchange → Option Failure → Prop where
  | known {roster : Roster} {query : String} {service : Service}
      (found : roster.resolve? query = some service) :
      (Task.resolve roster query).Goes [] none
  | unknown {roster : Roster} {query : String}
      (missing : roster.resolve? query = none) :
      (Task.resolve roster query).Goes []
        (some (.unknownService (Text.trim query)))
  | command {invocation : Invocation} {options : RunOptions}
      (reply : Except SystemError CommandOutput) :
      (Task.command invocation options).Goes
        [⟨.run invocation options, reply⟩] (invocation.failure? options reply)
  | answered {question : String} (answer : Bool) :
      (Task.ask question).Goes [⟨.confirm question false, .ok answer⟩] none
  | unanswered {question : String} (reason : String) :
      (Task.ask question).Goes
        [⟨.confirm question false, .error reason⟩] (some (.prompt reason))
  | lookUp {path : Path} (isThere : Bool) :
      (Task.lookUp path).Goes [⟨.file (.isFile path), isThere⟩] none
  | writeSecret {source target : Path} {namespaceName : String}
      {exchanges : List Exchange}
      {failure? : Option Failure}
      (write : SecretWrite source target namespaceName exchanges failure?) :
      (Task.writeSecret source target namespaceName).Goes exchanges failure?

/-! ## When a step is due -/

namespace Due

def always (_ : List Exchange) : Bool := true

def afterSuccess (earlier : List Exchange) : Bool :=
  earlier.getLast?.any Exchange.isSuccess

/-- The exit code of the command just run is not zero. -/
def afterNegative (earlier : List Exchange) : Bool :=
  earlier.getLast?.any Exchange.isNegative

def whenListed (name : String) (earlier : List Exchange) : Bool :=
  earlier.getLast?.any (Exchange.lists name)

/-- The operator was asked, and consented. -/
def withConsent (earlier : List Exchange) : Bool :=
  (earlier.filter Exchange.isQuestion).getLast?.any Exchange.isConsent

/-- The operator was not asked, or consented. -/
def unlessRefused (earlier : List Exchange) : Bool :=
  (earlier.filter Exchange.isQuestion).getLast?.all Exchange.isConsent

def whenFound (earlier : List Exchange) : Bool :=
  (earlier.filter Exchange.isLookup).getLast?.any Exchange.isFound

end Due

/-! ## Following a plan -/

/-- What a failure of a step means. -/
inductive Severity where
  /-- It stops the undertaking. -/
  | mandatory
  /-- The undertaking goes on. -/
  | tolerated
  /-- It stops the undertaking, as the failure to load the image of a
  service. -/
  | imageLoad (service image : String)

/-- The failure that an undertaking stops with when a step fails. -/
def Severity.stop? : Severity → Failure → Option Failure
  | .mandatory, failure => some failure
  | .tolerated, _ => none
  | .imageLoad service image, failure =>
    some (.imageNotLoaded service
        ⟨[⟨service, image, .loadFailed failure.exitCode?⟩]⟩ failure)

/-- A step of a plan; whether it is due depends on what was done before. -/
structure PlanStep where
  task : Task
  isDue : List Exchange → Bool
  severity : Severity

/-- To follow a plan after `earlier`: the exchanges, and the failure that was
the end if there was one. -/
inductive Follows :
    List PlanStep → List Exchange → List Exchange → Option Failure → Prop where
  | finished {earlier : List Exchange} : Follows [] earlier [] none
  | passedOver {step : PlanStep} {plan : List PlanStep}
      {earlier trace : List Exchange}
      {stop? : Option Failure} (notDue : step.isDue earlier = false)
      (rest : Follows plan earlier trace stop?) :
      Follows (step :: plan) earlier trace stop?
  | carriedOut {step : PlanStep} {plan : List PlanStep}
      {earlier exchanges trace : List Exchange}
      {failure? stop? : Option Failure}
      (due : step.isDue earlier = true)
      (goes : step.task.Goes exchanges failure?)
      (goesOn : failure?.bind step.severity.stop? = none)
      (rest : Follows plan (earlier ++ exchanges) trace stop?) :
      Follows (step :: plan) earlier (exchanges ++ trace) stop?
  | stopped {step : PlanStep} {plan : List PlanStep}
      {earlier exchanges : List Exchange}
      {failure stop : Failure} (due : step.isDue earlier = true)
      (goes : step.task.Goes exchanges (some failure))
      (stops : step.severity.stop? failure = some stop) :
      Follows (step :: plan) earlier exchanges (some stop)

/-! ## One way to follow a plan

The replies decide how a plan is followed: of two traces that follow one plan,
none is the beginning of the other. -/

section Unique

variable {first second later after : List Exchange}
  {failure? other? : Option Failure}

theorem Replacement.unique {target : Path} {contents : String}
    (replacement : Replacement target contents first failure?)
    (another : Replacement target contents second other?)
    (same : first ++ later = second ++ after) :
    first = second ∧ failure? = other? := by
  cases replacement with
  | unplaced => cases another <;> simp_all
  | unstaged => cases another <;> simp_all
  | unpromoted => cases another <;> simp_all
  | replaced => cases another <;> simp_all

theorem SecretWrite.unique {source target : Path} {namespaceName : String}
    (write : SecretWrite source target namespaceName first failure?)
    (another : SecretWrite source target namespaceName second other?)
    (same : first ++ later = second ++ after) :
    first = second ∧ failure? = other? := by
  cases write with
  | unread unreadable =>
      cases another with
      | unread _ => simp_all
      | rewritten read _ => simp_all
  | rewritten read replacement =>
      cases another with
      | unread unreadable => simp_all
      | rewritten readAgain again =>
          simp only [List.cons_append, List.cons.injEq, Exchange.mk.injEq,
            heq_eq_eq, true_and] at same
          obtain ⟨rfl, rest⟩ := same
          cases Option.some.inj (read.symm.trans readAgain)
          obtain ⟨rfl, rfl⟩ := replacement.unique again rest
          exact ⟨rfl, rfl⟩

/-- No way that a task can go is the beginning of another one. -/
theorem Task.Goes.unique {task : Task} (goes : task.Goes first failure?)
    (another : task.Goes second other?)
    (same : first ++ later = second ++ after) :
    first = second ∧ failure? = other? := by
  cases goes with
  | known found =>
      cases another with
      | known _ => exact ⟨rfl, rfl⟩
      | unknown missing => simp_all
  | unknown missing =>
      cases another with
      | known found => simp_all
      | unknown _ => exact ⟨rfl, rfl⟩
  | command reply =>
      cases another
      simp_all
  | answered answer => cases another <;> simp_all
  | unanswered reason => cases another <;> simp_all
  | lookUp isThere => cases another; simp_all
  | writeSecret write =>
      cases another with
      | writeSecret again => exact write.unique again same

/-- A trace that follows a plan goes neither too far nor not far enough, and it
tells the failure that was the end. -/
theorem Follows.unique {plan : List PlanStep} {earlier : List Exchange}
    {stop? end? : Option Failure} (follows : Follows plan earlier first stop?)
    (another : Follows plan earlier second end?)
    (same : first ++ later = second ++ after) :
    first = second ∧ stop? = end? := by
  -- Whether a step is due depends only on what came before, which is the same
  -- for both.
  induction follows generalizing second later after end? with
  | finished =>
      cases another
      exact ⟨rfl, rfl⟩
  | passedOver notDue rest ih =>
      cases another with
      | passedOver _ again => exact ih again same
      | carriedOut due => simp [notDue] at due
      | stopped due => simp [notDue] at due
  | carriedOut due goes goesOn rest ih =>
      cases another with
      | passedOver notDue => simp [due] at notDue
      | carriedOut _ goesAgain _ again =>
          obtain ⟨rfl, -⟩ := goes.unique goesAgain (by simpa using same)
          rw [List.append_assoc, List.append_assoc,
            List.append_right_inj] at same
          obtain ⟨rfl, rfl⟩ := ih again same
          exact ⟨rfl, rfl⟩
      | stopped _ goesAgain stops =>
          obtain ⟨-, rfl⟩ := goes.unique goesAgain (by simpa using same)
          simp [stops] at goesOn
  | stopped due goes stops =>
      cases another with
      | passedOver notDue => simp [due] at notDue
      | carriedOut _ goesAgain goesOn =>
          obtain ⟨-, rfl⟩ := goes.unique goesAgain (by simpa using same)
          simp [stops] at goesOn
      | stopped _ goesAgain stopsAgain =>
          obtain ⟨rfl, sameFailure⟩ := goes.unique goesAgain same
          cases sameFailure
          exact ⟨rfl, stops.symm.trans stopsAgain⟩

end Unique

/-! ## The plans

The commands are spelled out argument by argument. -/

namespace PlanStep

def must (task : Task) : PlanStep := ⟨task, Due.always, .mandatory⟩

end PlanStep

namespace Config

/-- Writing the secret that the configuration describes. -/
def secretStep (config : Config) : PlanStep :=
  .must (.writeSecret config.sourcePath config.secretPath config.namespaceName)

/-- A command in the root of the project. -/
def inRoot (config : Config) (tool : String) (arguments : List String) :
    Invocation where
  program := tool
  arguments := arguments
  directory? := some config.root

/-- Running the client of the control plane, which has to succeed. -/
def controlTask (config : Config) (arguments : List String) : Task :=
  .command (config.inRoot config.tools.control arguments) .checked

/-- Running the tool that manages clusters, which has to succeed. -/
def clusterTask (config : Config) (arguments : List String) : Task :=
  .command (config.inRoot config.tools.cluster arguments) .checked

def applyStep (config : Config) (manifest : Path) : PlanStep :=
  .must (config.controlTask ["apply", "-f", manifest.text])

/-- Waiting for pods, for as long as a probe allows. -/
def waitStep (config : Config) (probe : Probe) (isDue : List Exchange → Bool) :
    PlanStep :=
  ⟨.command
      (config.inRoot config.tools.control
        ["wait", "--for=condition=ready", "pod", "-l", probe.selector, "-n",
          probe.namespaceName, probe.timeoutFlag])
      .unchecked,
    isDue, .tolerated⟩

/-- Deleting the cluster, with consent. -/
def deleteStep (config : Config) : PlanStep :=
  ⟨config.clusterTask ["delete", "cluster", "--name", config.cluster.name],
    Due.withConsent, .mandatory⟩

def restartStep (config : Config) (target : String)
    (isDue : List Exchange → Bool) : PlanStep :=
  ⟨config.controlTask ["rollout", "restart", target, "-n",
      config.namespaceName],
    isDue, .mandatory⟩

def setUpPlan (config : Config) : List PlanStep :=
  [⟨config.clusterTask
        ["create", "cluster", "--config", config.cluster.configFile.text,
          "--name", config.cluster.name],
      Due.unlessRefused, .mandatory⟩,
    ⟨config.controlTask ["apply", "-f", config.cluster.ingressManifest],
      Due.unlessRefused, .tolerated⟩,
    config.waitStep config.ingressProbe Due.afterSuccess]

def tag (config : Config) (service : Service) : String :=
  config.registry ++ "/" ++ service.name ++ ":latest"

end Config

namespace Service

/-- The directory that the image is built in: the current one, unless another
one is given. -/
def imageDirectory (service : Service) : Path :=
  match service.context? with
  | some directory => directory
  | none => ⟨"."⟩

/-- The file that the image is built by. -/
def imageFile (service : Service) : Path :=
  service.imageDirectory.child <|
    match service.dockerfile? with
    | some name => name
    | none => "Dockerfile"

/-- The table of build arguments, or without a table the name of the module. -/
def imageArguments (service : Service) : List (String × String) :=
  match service.buildArguments? with
  | some table => table.entries
  | none => [("MODULE", service.name)]

/-- The arguments go in the order of their keys. -/
theorem imageArguments_sorted (service : Service) :
    service.imageArguments.Pairwise fun first second => first.1 < second.1 := by
  unfold imageArguments
  cases service.buildArguments? with
  | some table => exact table.sorted
  | none => exact List.pairwise_singleton _ _

end Service

namespace Config

/-- The command that builds the image of a service. -/
def imageBuild (config : Config) (service : Service) : Invocation :=
  config.inRoot config.tools.build
    (["build", "-t", config.tag service, "-f", service.imageFile.text] ++
      (service.imageArguments.flatMap fun entry =>
        ["--build-arg", entry.1 ++ "=" ++ entry.2]) ++
      [service.imageDirectory.text])

/-- The command that loads the image of a service into the cluster. -/
def imageLoad (config : Config) (service : Service) : Invocation :=
  config.inRoot config.tools.cluster
    ["load", "docker-image", config.tag service, "--name", config.cluster.name]

def buildStep (config : Config) (service : Service) : PlanStep :=
  ⟨.command (config.imageBuild service) .checked, Due.always, .tolerated⟩

def loadStep (config : Config) (service : Service) : PlanStep :=
  ⟨.command (config.imageLoad service) .checked, Due.afterSuccess,
    .imageLoad service.name (config.tag service)⟩

/-- Building, loading and deploying one service. -/
def shipPlan (config : Config) (service : Service) : List PlanStep :=
  let manifest := service.manifest config.layout.services
  [config.buildStep service,
    config.loadStep service,
    .must (.lookUp (config.resolve manifest)),
    ⟨config.controlTask ["apply", "-f", manifest.text], Due.whenFound,
      .mandatory⟩,
    config.restartStep ("deployment/" ++ service.name) Due.whenFound]

end Config

def Undertaking.plan (config : Config) : Undertaking → List PlanStep
  | .bootstrap =>
    [.must (.command (config.inRoot config.tools.cluster ["get", "clusters"])
          .captured),
      ⟨.ask ("Cluster '" ++ config.cluster.name ++
          "' already exists. Delete it and recreate it?"),
        Due.whenListed config.cluster.name, .mandatory⟩,
      config.deleteStep] ++
      config.setUpPlan
  | .teardown =>
    [.must (.ask ("Delete cluster '" ++ config.cluster.name ++ "'?")),
      config.deleteStep]
  | .deployInfrastructure =>
    [.must (.command
        (config.inRoot config.tools.control ["get", "namespace",
            config.namespaceName])
        .probe),
      ⟨config.controlTask ["create", "namespace", config.namespaceName],
        Due.afterNegative, .mandatory⟩,
      config.applyStep config.layout.namespaceManifest,
      config.applyStep config.layout.metricsServer,
      config.secretStep,
      config.applyStep config.layout.common,
      config.applyStep config.layout.infrastructure,
      config.waitStep config.datastoreProbe Due.always]
  | .deployServices =>
    [config.applyStep config.layout.services,
      config.applyStep config.layout.ingress]
  | .ship query =>
    .must (.resolve config.roster query) ::
      match config.roster.resolve? query with
      | none => []
      | some service => config.shipPlan service
  | .applyConfig =>
    [config.secretStep, config.applyStep config.layout.common,
      .must (.ask "Restart all deployments to pick up the changes?"),
      config.restartStep "deployment" Due.withConsent,
      config.restartStep "statefulset" Due.withConsent]

end ClusterConsole
