import ClusterConsole.Proofs.Session.Consent
import ClusterConsole.Proofs.Session.Steps

/-!
# The frame of the commands

There are only so many commands that a configuration can give rise to, whatever
is asked for and whatever the tools reply.  Each of them is one of the
configured tools in the root of the project, and those that are about the
application namespace or the cluster say which one.  What observes only asks the
control plane, once.
-/

namespace ClusterConsole

/-! ## The commands of a configuration -/

/-- The commands that the operations of a configuration run, argument by
argument. -/
inductive Config.Issues (config : Config) : Invocation → Prop where
  | listing :
      config.Issues (config.inRoot config.tools.cluster ["get", "clusters"])
  | creation :
      config.Issues (config.inRoot config.tools.cluster
        ["create", "cluster", "--config", config.cluster.configFile.text,
          "--name", config.cluster.name])
  | deletion :
      config.Issues (config.inRoot config.tools.cluster
        ["delete", "cluster", "--name", config.cluster.name])
  | ingress :
      config.Issues (config.inRoot config.tools.control
        ["apply", "-f", config.cluster.ingressManifest])
  | wait (probe : Probe) :
      config.Issues (config.inRoot config.tools.control
        ["wait", "--for=condition=ready", "pod", "-l", probe.selector, "-n",
          probe.namespaceName, probe.timeoutFlag])
  | namespaceQuery :
      config.Issues (config.inRoot config.tools.control
        ["get", "namespace", config.namespaceName])
  | namespaceCreation :
      config.Issues (config.inRoot config.tools.control
        ["create", "namespace", config.namespaceName])
  | application (manifest : Path) :
      config.Issues (config.inRoot config.tools.control ["apply", "-f",
          manifest.text])
  | restart (target : String) :
      config.Issues (config.inRoot config.tools.control
        ["rollout", "restart", target, "-n", config.namespaceName])
  | build (service : Service) : config.Issues (config.imageBuild service)
  | load (image : String) :
      config.Issues (config.inRoot config.tools.cluster
        ["load", "docker-image", image, "--name", config.cluster.name])
  | runtimeQuery : config.Issues (config.inRoot config.tools.build ["info"])
  | status :
      config.Issues (config.inRoot config.tools.control
        ["get", "pods,svc,ingress,hpa", "-n", config.namespaceName])
  | nodeMetrics :
      config.Issues (config.inRoot config.tools.control ["top", "nodes"])
  | podMetrics :
      config.Issues (config.inRoot config.tools.control
        ["top", "pods", "-n", config.namespaceName])
  | pods (workload : String) :
      config.Issues (config.inRoot config.tools.control
        ["get", "pods", "-l", "app=" ++ workload, "-n",
          config.namespaceName, "-o",
          "jsonpath=\x7b.items[0].metadata.name\x7d"])
  | logs (pod : String) (options : List String) :
      config.Issues (config.inRoot config.tools.control
        (["logs", pod, "-n", config.namespaceName] ++ options))

namespace Invocation

/-- Whether the arguments of a command begin with the words of one of some
openings. -/
def opensWith (invocation : Invocation) (openings : List (List String)) :
    Bool :=
  openings.any fun words => words.isPrefixOf invocation.arguments

/-- Whether a value stands behind a word among the arguments, as an argument of
its own. -/
def Gives (invocation : Invocation) (word value : String) : Prop :=
  [word, value] <:+: invocation.arguments

theorem Gives.hasArgument {invocation : Invocation} {word value : String}
    (gives : invocation.Gives word value) :
    invocation.hasArgument value = true := by
  have member : value ∈ invocation.arguments := gives.subset (.tail _ (.head _))
  simpa [Invocation.hasArgument] using member

/-- How the commands begin that are about the application namespace. -/
def namespaceOpenings : List (List String) :=
  [["get", "namespace"], ["create", "namespace"], ["rollout", "restart"],
    ["get", "pods"], ["get", "pods,svc,ingress,hpa"], ["top", "pods"], ["logs"]]

/-- How the commands begin that are about the cluster. -/
def clusterOpenings : List (List String) :=
  [["create", "cluster"], ["delete", "cluster"], ["load", "docker-image"]]

end Invocation

namespace Config.Issues

variable {config : Config} {invocation : Invocation}

/-- Every command is one of the tools, in the root of the project. -/
theorem runsTool (issues : config.Issues invocation) :
    (invocation.program = config.tools.cluster ∨
      invocation.program = config.tools.control ∨
      invocation.program = config.tools.build) ∧
    invocation.directory? = some config.root := by
  cases issues with
  | listing | creation | deletion | load => exact ⟨.inl rfl, rfl⟩
  | build | runtimeQuery => exact ⟨.inr (.inr rfl), rfl⟩
  | _ => exact ⟨.inr (.inl rfl), rfl⟩

theorem gives_namespace (issues : config.Issues invocation)
    (opens : invocation.opensWith Invocation.namespaceOpenings = true) :
    invocation.Gives "-n" config.namespaceName ∨
      invocation.Gives "namespace" config.namespaceName := by
  cases issues with
  | namespaceQuery => exact .inr ⟨["get"], [], rfl⟩
  | namespaceCreation => exact .inr ⟨["create"], [], rfl⟩
  | restart target => exact .inl ⟨["rollout", "restart", target], [], rfl⟩
  | status => exact .inl ⟨["get", "pods,svc,ingress,hpa"], [], rfl⟩
  | podMetrics => exact .inl ⟨["top", "pods"], [], rfl⟩
  | pods workload =>
    exact .inl ⟨["get", "pods", "-l", "app=" ++ workload], _, rfl⟩
  | logs pod options => exact .inl ⟨["logs", pod], _, rfl⟩
  | _ => cases opens

theorem gives_cluster (issues : config.Issues invocation)
    (opens : invocation.opensWith Invocation.clusterOpenings = true) :
    invocation.Gives "--name" config.cluster.name := by
  cases issues with
  | creation =>
    exact ⟨["create", "cluster", "--config", config.cluster.configFile.text],
      [], rfl⟩
  | deletion => exact ⟨["delete", "cluster"], [], rfl⟩
  | load image => exact ⟨["load", "docker-image", image], [], rfl⟩
  | _ => cases opens

end Config.Issues

/-! ## What the operations ask for -/

/-- Whether an operation of a configuration may ask for something: it shows
nothing on the screen and asks the operator for nothing but consent. -/
def Config.Permits (config : Config) : Request → Prop
  | .run invocation _ => config.Issues invocation
  | .write _ _ => False
  | .display _ => False
  | .choose _ _ _ _ => False
  | .inquire _ _ => False
  | _ => True

namespace Operation

section Permitted

variable {config : Config}

theorem permitted_announce (event : Event) :
    AsksOnly config.Permits (announce event) :=
  asksOnly_announce trivial

theorem permitted_invoke {invocation : Invocation} {options : RunOptions}
    (issues : config.Issues invocation) :
    AsksOnly config.Permits (invoke invocation options) :=
  asksOnly_invoke issues

theorem permitted_step {action : Action} {target : String}
    {invocation : Invocation} (issues : config.Issues invocation) :
    AsksOnly config.Permits (step action target invocation) :=
  asksOnly_step trivial issues trivial

theorem permitted_consent (question : String) :
    AsksOnly config.Permits (consent question) := by
  apply asksOnly_bind (asksOnly_request trivial)
  intro reply
  cases reply with
  | error reason => exact asksOnly_throw _
  | ok answer => exact asksOnly_pure answer

theorem permitted_degrade (outcome : Outcome) (warning : Warning) :
    AsksOnly config.Permits (degrade outcome warning) :=
  asksOnly_bind (permitted_announce _) fun _ => asksOnly_pure _

theorem permitted_awaitReady (probe : Probe) (outcome : Outcome) :
    AsksOnly config.Permits (awaitReady config probe outcome) := by
  have waits : config.Issues (config.waitCommand probe) := .wait probe
  apply ensures_awaitReady
  · intro output _
    simpa [Config.Permits] using waits
  · intro reply _
    simpa [Config.Permits] using waits

theorem permitted_materializeSecret :
    AsksOnly config.Permits (materializeSecret config) := by
  apply Ensures.mono (ensures_materializeSecret config)
  intro trace result write exchange member
  rcases write.exchange_eq member with ⟨asked, reply, rfl⟩ | ⟨event, rfl⟩
  · trivial
  · trivial

theorem permitted_ensureNamespace :
    AsksOnly config.Permits (ensureNamespace config) := by
  apply asksOnly_bind (permitted_invoke .namespaceQuery)
  intro found
  have creates : AsksOnly config.Permits
      (step .createNamespace config.namespaceName config.namespaceCommand) :=
    permitted_step .namespaceCreation
  cases exists? : found.isSuccess with
  | true => simpa [exists?] using asksOnly_pure ()
  | false => simpa [exists?] using creates

theorem permitted_settle : AsksOnly config.Permits (settle config) := by
  unfold settle
  by_cases none : config.readiness.settleMs = 0
  · simpa [none] using asksOnly_pure ()
  · have waits :
        AsksOnly config.Permits (request (.settle config.readiness.settleMs)) :=
      asksOnly_request trivial
    simpa [none] using waits

variable (config)

theorem permitted_setUpCluster :
    AsksOnly config.Permits (setUpCluster config) := by
  apply asksOnly_bind (permitted_step .creation)
  intro _
  apply asksOnly_bind (permitted_announce _)
  intro _
  apply asksOnly_bind (asksOnly_result (permitted_invoke .ingress))
  intro applied
  cases applied with
  | error failure => exact permitted_degrade _ _
  | ok output =>
      exact asksOnly_bind (permitted_announce _) fun _ =>
        permitted_awaitReady _ _

theorem permitted_bootstrap : AsksOnly config.Permits (bootstrap config) := by
  have asks : AsksOnly config.Permits (clusterState config) :=
    asksOnly_bind (permitted_invoke .listing) fun _ => asksOnly_pure _
  apply asksOnly_bind asks
  intro state
  cases state with
  | absent => exact permitted_setUpCluster config
  | present =>
      apply asksOnly_bind (permitted_consent _)
      intro consents
      cases consents with
      | false => exact asksOnly_pure _
      | true =>
          exact asksOnly_bind (permitted_step .deletion) fun _ =>
            permitted_setUpCluster config

theorem permitted_teardown : AsksOnly config.Permits (teardown config) := by
  apply asksOnly_bind (permitted_consent _)
  intro consents
  cases consents with
  | false => exact asksOnly_pure _
  | true =>
    exact asksOnly_bind (permitted_step .deletion) fun _ => asksOnly_pure _

theorem permitted_deployInfrastructure :
    AsksOnly config.Permits (deployInfrastructure config) := by
  have applies (manifest : Path) :
      AsksOnly config.Permits (applyManifest config manifest) :=
    permitted_step (.application manifest)
  apply asksOnly_bind permitted_ensureNamespace
  intro _
  apply asksOnly_bind (applies _)
  intro _
  apply asksOnly_bind permitted_settle
  intro _
  apply asksOnly_bind (applies _)
  intro _
  apply asksOnly_bind permitted_materializeSecret
  intro _
  apply asksOnly_bind (applies _)
  intro _
  apply asksOnly_bind (applies _)
  intro _
  exact permitted_awaitReady _ _

theorem permitted_applyConfig :
    AsksOnly config.Permits (applyConfig config) := by
  apply asksOnly_bind permitted_materializeSecret
  intro _
  apply asksOnly_bind (permitted_step (.application _))
  intro _
  apply asksOnly_bind (permitted_consent _)
  intro consents
  have ends : AsksOnly config.Permits (pure Outcome.completed) :=
    asksOnly_pure _
  cases consents with
  | false => exact ends
  | true =>
      apply asksOnly_bind
      · exact asksOnly_bind (permitted_step (.restart _)) fun _ =>
          permitted_step (.restart _)
      · exact fun _ => ends

theorem permitted_buildAndLoad (services : List Service) :
    AsksOnly config.Permits (buildAndLoad config services) :=
  asksOnly_continueBatch config .empty services (fun _ _ => trivial)
    (fun _ _ => trivial)
    (fun service => buildCommand_eq config service ▸ .build service) .load

theorem permitted_ship (query : String) :
    AsksOnly config.Permits (ship config query) := by
  unfold ship
  cases config.roster.resolve? query with
  | none => exact asksOnly_throw _
  | some service =>
      apply asksOnly_bind (permitted_buildAndLoad config [service])
      intro report
      refine asksOnly_bind ?_ fun _ => asksOnly_pure _
      apply asksOnly_bind (asksOnly_request trivial)
      intro isThere
      cases isThere with
      | false => exact permitted_degrade _ _
      | true =>
          apply asksOnly_bind (permitted_step (.application _))
          intro _
          exact asksOnly_bind (permitted_step (.restart _)) fun _ =>
            asksOnly_pure _

/-- Whatever a call is for, only what is permitted is asked for. -/
theorem permitted_call (call : Call) :
    AsksOnly config.Permits (call.operation config) := by
  cases call with
  | undertake undertaking =>
      cases undertaking with
      | bootstrap => exact permitted_bootstrap config
      | teardown => exact permitted_teardown config
      | deployInfrastructure => exact permitted_deployInfrastructure config
      | deployServices =>
          apply asksOnly_bind (permitted_step (.application _))
          intro _
          exact asksOnly_bind (permitted_step (.application _)) fun _ =>
            asksOnly_pure _
      | ship query => exact permitted_ship config query
      | applyConfig => exact permitted_applyConfig config
  | buildAll => exact permitted_buildAndLoad config _
  | writeSecret => exact permitted_materializeSecret
  | checkPrerequisites =>
      exact asksOnly_checkPrerequisites config (fun _ => trivial) .runtimeQuery
  | status => exact asksOnly_snapshot .status
  | metrics scope =>
      cases scope with
      | nodes => exact asksOnly_snapshot .nodeMetrics
      | pods => exact asksOnly_snapshot .podMetrics
  | findPod query => exact asksOnly_findPod config query .pods
  | streamLogs pod follow => exact asksOnly_streamLogs (.logs pod _)

end Permitted

end Operation

/-! ## Observing -/

/-- Whether a call only observes. -/
def Call.observes : Call → Bool
  | .status => true
  | .metrics _ => true
  | .findPod _ => true
  | .streamLogs _ _ => true
  | _ => false

/-- Whether a request asks the control plane for something that it can show. -/
def Config.Shows (config : Config) (request : Request) : Prop :=
  ∃ invocation options, request = .run invocation options ∧
    invocation.program = config.tools.control ∧
    ∃ word ∈ ["get", "top", "logs"], invocation.arguments.head? = some word

namespace Operation

/-- Whatever the replies are, nothing is asked for but to show something, and
that at most once. -/
def ShowsOnce (config : Config) (operation : Operation α) : Prop :=
  Ensures operation fun trace _ =>
    trace.length ≤ 1 ∧ ∀ exchange ∈ trace, config.Shows exchange.request

theorem showsOnce_throw (config : Config) (failure : Failure) :
    ShowsOnce config (throw failure : Operation α) :=
  ensures_throw ⟨by simp, nofun⟩

/-- One command, and then something is made of its output. -/
theorem showsOnce_invoke {config : Config}
    {arguments : List String} {options : RunOptions}
    {word : String} (isWord : word ∈ ["get", "top", "logs"])
    (isFirst : arguments.head? = some word) (value : CommandOutput → α) :
    ShowsOnce config (do
      let output ← invoke (config.controlCommand arguments) options
      return value output) := by
  apply ensures_bind
  apply ensures_invoke
  intro reply
  have shown : config.Shows (.run (config.controlCommand arguments) options) :=
    ⟨_, _, rfl, rfl, word, isWord, isFirst⟩
  cases (config.controlCommand arguments).result options reply with
  | error failure => simpa using shown
  | ok output => exact ensures_pure (by simpa using shown)

theorem showsOnce_call (config : Config) {call : Call}
    (observes : call.observes = true) :
    ShowsOnce config (call.operation config) := by
  have get : "get" ∈ ["get", "top", "logs"] := by decide
  have top : "top" ∈ ["get", "top", "logs"] := by decide
  have logs : "logs" ∈ ["get", "top", "logs"] := by decide
  cases call with
  | status => exact showsOnce_invoke get rfl _
  | metrics scope =>
      cases scope with
      | nodes => exact showsOnce_invoke top rfl _
      | pods => exact showsOnce_invoke top rfl _
  | findPod query =>
      show ShowsOnce config (findPod config query)
      cases found : config.logTarget? (Text.trim query) with
      | none => simpa [findPod, found] using showsOnce_throw config _
      | some workload =>
          have finds : ShowsOnce config (do
              let output ← invoke (config.podCommand workload) .probe
              return output.name?) := showsOnce_invoke get rfl _
          simpa [findPod, found] using finds
  | streamLogs pod follow => exact showsOnce_invoke logs rfl fun _ => ()
  | _ => cases observes

/-! ## Building images -/

theorem ensures_buildAll_commands (config : Config) :
    AsksOnly (fun request =>
      ∀ invocation options, request = .run invocation options →
        invocation.program = config.tools.build ∧
          ["build"] <+: invocation.arguments ∨
          invocation.program = config.tools.cluster ∧
            ["load", "docker-image"] <+: invocation.arguments)
      (buildAll config) := by
  apply asksOnly_continueBatch
  · exact fun _ _ => nofun
  · exact fun _ _ => nofun
  · rintro service invocation options ⟨⟩
    exact .inl ⟨rfl, _, rfl⟩
  · rintro image invocation options ⟨⟩
    exact .inr ⟨rfl, _, rfl⟩

end Operation

/-! ## The frame -/

theorem mem_commands_iff {trace : List Exchange} {invocation : Invocation} :
    invocation ∈ commands trace ↔
      ∃ exchange ∈ trace, ∃ options,
      exchange.request = .run invocation options := by
  simp only [commands, List.mem_filterMap]
  constructor
  · rintro ⟨⟨request, reply⟩, member, found⟩
    cases request with
    | run own options =>
        obtain rfl := Option.some.inj found
        exact ⟨_, member, options, rfl⟩
    | _ => cases found
  · rintro ⟨⟨request, reply⟩, member, options, rfl⟩
    exact ⟨_, member, rfl⟩

/-- What it means that a call stays inside its frame. -/
structure InFrame (config : Config) (call : Call) (trace : List Exchange) :
    Prop where
  /-- One of the tools is run, in the root of the project. -/
  commands : ∀ invocation ∈ commands trace,
    (invocation.program = config.tools.cluster ∨
      invocation.program = config.tools.control ∨
      invocation.program = config.tools.build) ∧
    invocation.directory? = some config.root
  /-- There are no other commands than those, so each has the words that it is
  known by. -/
  issued :
    ∀ invocation ∈ ClusterConsole.commands trace, config.Issues invocation
  /-- What observes runs one command at most that shows something, and does
  nothing else. -/
  observation : call.observes = true →
    trace.length ≤ 1 ∧ ∀ exchange ∈ trace, config.Shows exchange.request
  /-- Images are built and loaded, and nothing else is run for them. -/
  images : call = .buildAll → ∀ invocation ∈ ClusterConsole.commands trace,
    invocation.program = config.tools.build ∧
      ["build"] <+: invocation.arguments ∨
      invocation.program = config.tools.cluster ∧
        ["load", "docker-image"] <+: invocation.arguments
  /-- The application namespace is given to all commands that are about it. -/
  namespaces : ∀ invocation ∈ ClusterConsole.commands trace,
    invocation.opensWith Invocation.namespaceOpenings = true →
    invocation.hasArgument config.namespaceName = true ∧
      (invocation.Gives "-n" config.namespaceName ∨
        invocation.Gives "namespace" config.namespaceName)
  /-- The name of the cluster is given to all commands that are about it. -/
  clusters : ∀ invocation ∈ ClusterConsole.commands trace,
    invocation.opensWith Invocation.clusterOpenings = true →
    invocation.hasArgument config.cluster.name = true ∧
      invocation.Gives "--name" config.cluster.name

/-- Whatever is asked for and whatever is replied, every command stays inside
the frame. -/
theorem Call.run_inFrame (config : Config) (call : Call)
    (surroundings : Surroundings σ) (state : σ) :
    InFrame config call
      ((call.operation config).toProcedure.run surroundings state).trace := by
  have issued : ∀ invocation ∈
      commands ((call.operation config).toProcedure.run surroundings
          state).trace,
      config.Issues invocation := by
    intro invocation isCommand
    obtain ⟨exchange, member, options, isRun⟩ := mem_commands_iff.mp isCommand
    have permitted := (Operation.permitted_call config call).run surroundings
      state exchange member
    rw [isRun] at permitted
    exact permitted
  refine ⟨?_, issued, ?_, ?_, ?_, ?_⟩
  · intro invocation isCommand
    exact (issued invocation isCommand).runsTool
  · intro observes
    exact (Operation.showsOnce_call config observes).run surroundings state
  · rintro rfl invocation isCommand
    obtain ⟨exchange, member, options, isRun⟩ := mem_commands_iff.mp isCommand
    exact (Operation.ensures_buildAll_commands config).run surroundings state
      exchange member
      invocation options isRun
  · intro invocation isCommand opens
    have given := (issued invocation isCommand).gives_namespace opens
    exact ⟨given.elim (·.hasArgument) (·.hasArgument), given⟩
  · intro invocation isCommand opens
    have given := (issued invocation isCommand).gives_cluster opens
    exact ⟨given.hasArgument, given⟩

end ClusterConsole
