import ClusterConsole.Operation.Deployment
import ClusterConsole.Operation.Observation
import ClusterConsole.Operation.Prerequisites
import ClusterConsole.Proofs.Procedure.Ensures

/-!
# What operations ask for

An operation asks only for what is `allowed` if every request of every trace is.
The rules follow the ways in which operations are put together.  Most parts of
operations ask only for *quiet* requests: they question nobody, announce no
degraded step, and run no command that deletes a cluster or restarts all
workloads of a kind.
-/

namespace ClusterConsole

namespace Operation

/-- Whatever the replies are, each request is allowed. -/
def AsksOnly (allowed : Request → Prop) (operation : Operation α) : Prop :=
  Ensures operation fun trace _ => ∀ exchange ∈ trace, allowed exchange.request

section Rules

variable {allowed : Request → Prop} {operation : Operation α}

theorem AsksOnly.mono {wider : Request → Prop}
    (asksOnly : AsksOnly allowed operation)
    (widens : ∀ request, allowed request → wider request) :
    AsksOnly wider operation :=
  Ensures.mono asksOnly fun _ _ holds exchange member =>
    widens exchange.request (holds exchange member)

theorem asksOnly_pure (value : α) : AsksOnly allowed (pure value) :=
  ensures_pure (by simp)

theorem asksOnly_throw (failure : Failure) :
    AsksOnly allowed (throw failure : Operation α) :=
  ensures_throw (by simp)

theorem asksOnly_request {asked : Request} (isAllowed : allowed asked) :
    AsksOnly allowed (request asked) :=
  ensures_request fun _ => by simpa using isAllowed

theorem asksOnly_bind {next : α → Operation β}
    (first : AsksOnly allowed operation)
    (second : ∀ value, AsksOnly allowed (next value)) :
    AsksOnly allowed (operation >>= next) := by
  apply Ensures.bind first (fun _ _ early => early)
  intro trace value early
  apply Ensures.mono (second value)
  intro later result late exchange member
  rcases List.mem_append.mp member with inEarly | inLate
  · exact early exchange inEarly
  · exact late exchange inLate

theorem asksOnly_result (asksOnly : AsksOnly allowed operation) :
    AsksOnly allowed (result operation) :=
  ensures_result asksOnly

theorem asksOnly_ofResult (outcome : Except Failure α) :
    AsksOnly allowed (ofResult outcome) :=
  ensures_ofResult (by simp)

theorem asksOnly_ofSystem (reply : Except SystemError α) :
    AsksOnly allowed (ofSystem reply) := by
  cases reply with
  | error cause => exact asksOnly_throw _
  | ok value => exact asksOnly_pure value

theorem asksOnly_invoke {invocation : Invocation} {options : RunOptions}
    (isAllowed : allowed (.run invocation options)) :
    AsksOnly allowed (invoke invocation options) :=
  asksOnly_bind (asksOnly_request isAllowed) fun _ => asksOnly_ofResult _

theorem asksOnly_announce {event : Event}
    (isAllowed : allowed (.announce event)) :
    AsksOnly allowed (announce event) :=
  asksOnly_request isAllowed

theorem asksOnly_step {action : Action}
    {target : String} {invocation : Invocation}
    (started : allowed (.announce (.started action target)))
    (runs : allowed (.run invocation .checked))
    (finished : allowed (.announce (.finished action target))) :
    AsksOnly allowed (step action target invocation) :=
  asksOnly_bind (asksOnly_announce started) fun _ =>
    asksOnly_bind (asksOnly_invoke runs) fun _ => asksOnly_announce finished

/-- A batch runs the commands that build and load images, and announces them. -/
theorem asksOnly_continueBatch (config : Config) (report : ImageReport)
    (services : List Service)
    (started : ∀ action target, allowed (.announce (.started action target)))
    (finished : ∀ action target, allowed (.announce (.finished action target)))
    (builds : ∀ service : Service, allowed
      (.run (config.buildCommand
            (service.buildArgumentList (service.imageTag config.registry)))
        .checked))
    (loads : ∀ image, allowed
      (.run (config.clusterCommand
        ["load", "docker-image", image, "--name", config.cluster.name])
          .checked)) :
    AsksOnly allowed (continueBatch config report services) := by
  induction services generalizing report with
  | nil => exact asksOnly_pure report
  | cons service rest ih =>
      apply asksOnly_bind
        (asksOnly_result (asksOnly_step (started _ _) (builds service)
        (finished _ _)))
      intro built
      cases built with
      | error failure => exact ih _
      | ok =>
          apply asksOnly_bind
            (asksOnly_result (asksOnly_step (started _ _) (loads _)
            (finished _ _)))
          intro loaded
          cases loaded with
          | error failure => exact asksOnly_throw _
          | ok => exact ih _

theorem asksOnly_missingTools (tools : List String)
    (finds : ∀ tool, allowed (.find tool)) :
    AsksOnly allowed (missingTools tools) := by
  induction tools with
  | nil => exact asksOnly_pure []
  | cons tool rest ih =>
      exact asksOnly_bind (asksOnly_request (finds tool)) fun _ =>
        asksOnly_bind ih fun _ => asksOnly_pure _

theorem asksOnly_checkPrerequisites (config : Config)
    (finds : ∀ tool, allowed (.find tool))
    (probes : allowed (.run (config.buildCommand ["info"]) .probe)) :
    AsksOnly allowed (checkPrerequisites config) := by
  apply asksOnly_bind (asksOnly_missingTools _ finds)
  intro missing
  cases missing with
  | cons tool rest => exact asksOnly_throw (.missingTools (tool :: rest))
  | nil =>
      apply asksOnly_bind (asksOnly_result (asksOnly_invoke probes))
      intro result
      cases result with
      | error failure => exact asksOnly_throw _
      | ok output =>
          by_cases up : output.isSuccess = true
          · simpa [up] using asksOnly_pure ()
          · simpa [up] using asksOnly_throw _

theorem asksOnly_snapshot {query : Invocation}
    (isAllowed : allowed (.run query .probe)) :
    AsksOnly allowed (snapshot query) :=
  asksOnly_bind (asksOnly_invoke isAllowed) fun _ => asksOnly_pure _

theorem asksOnly_findPod (config : Config) (query : String)
    (looks : ∀ workload, allowed (.run (config.podCommand workload) .probe)) :
    AsksOnly allowed (findPod config query) := by
  cases found : config.logTarget? (Text.trim query) with
  | none => simpa [findPod, found] using asksOnly_throw _
  | some workload =>
      have invoked :
          AsksOnly allowed (invoke (config.podCommand workload) .probe) :=
        asksOnly_invoke (looks workload)
      simpa [findPod, found] using asksOnly_bind invoked fun _ =>
        asksOnly_pure _

theorem asksOnly_streamLogs {config : Config} {pod : String} {follow : Bool}
    (shows : allowed (.run (config.logsCommand pod follow) .unchecked)) :
    AsksOnly allowed (streamLogs config pod follow) :=
  asksOnly_bind (asksOnly_invoke shows) fun _ => asksOnly_pure ()

end Rules

end Operation

/-! ## Quiet requests -/

namespace Invocation

/-- Whether a command deletes a cluster, with whatever program. -/
def deletesCluster (invocation : Invocation) : Bool :=
  ["delete", "cluster"].isPrefixOf invocation.arguments

/-- Whether a command restarts every deployment or every stateful set. -/
def restartsAll (invocation : Invocation) : Bool :=
  ["rollout", "restart", "deployment"].isPrefixOf invocation.arguments ||
    ["rollout", "restart", "statefulset"].isPrefixOf invocation.arguments

/-- Whether a command needs the operator's consent. -/
def needsConsent (invocation : Invocation) : Bool :=
  invocation.deletesCluster || invocation.restartsAll

end Invocation

/-- Whether a request questions nobody, announces no degraded step, and runs no
command that needs consent. -/
def Request.isQuiet : Request → Bool
  | .run invocation _ => !invocation.needsConsent
  | .confirm _ _ => false
  | .announce event => event.warning?.isNone
  | .choose _ _ _ _ => false
  | .inquire _ _ => false
  | _ => true

namespace Operation

/-- Whatever the replies are, each request is quiet. -/
abbrev Quiet (operation : Operation α) : Prop :=
  AsksOnly (fun request => request.isQuiet = true) operation

theorem quiet_request {asked : Request} (isQuiet : asked.isQuiet = true) :
    Quiet (request asked) :=
  asksOnly_request isQuiet

theorem quiet_announce {event : Event}
    (isQuiet : event.warning?.isNone = true) :
    Quiet (announce event) :=
  asksOnly_announce isQuiet

theorem quiet_invoke {invocation : Invocation} {options : RunOptions}
    (harmless : invocation.needsConsent = false) :
    Quiet (invoke invocation options) :=
  asksOnly_invoke (by simp [Request.isQuiet, harmless])

theorem quiet_step {action : Action} {target : String} {invocation : Invocation}
    (harmless : invocation.needsConsent = false) :
    Quiet (step action target invocation) :=
  asksOnly_step rfl (by simp [Request.isQuiet, harmless]) rfl

/-- Applying never needs consent, whatever the manifest. -/
theorem quiet_applyManifest (config : Config) (manifest : Path) :
    Quiet (applyManifest config manifest) :=
  quiet_step rfl

theorem quiet_ensureNamespace (config : Config) :
    Quiet (ensureNamespace config) := by
  apply asksOnly_bind (quiet_invoke rfl)
  intro found
  by_cases exists? : found.isSuccess = true
  · simpa [exists?] using asksOnly_pure ()
  · have creates : Quiet
        (step .createNamespace config.namespaceName config.namespaceCommand) :=
      quiet_step rfl
    simpa [exists?] using creates

theorem quiet_settle (config : Config) : Quiet (settle config) := by
  unfold settle
  by_cases none : config.readiness.settleMs = 0
  · simpa [none] using asksOnly_pure ()
  · simpa [none] using quiet_request rfl

theorem quiet_readSource (source : Path) : Quiet (readSource source) := by
  apply asksOnly_bind (quiet_request rfl)
  intro reply
  cases reply with
  | ok text => exact asksOnly_pure _
  | error cause =>
      by_cases absent : cause = .notFound
      · simpa [absent] using asksOnly_pure none
      · simpa [absent] using asksOnly_throw _

theorem quiet_replaceFile (path : Path) (contents : String) :
    Quiet (replaceFile path contents) := by
  apply asksOnly_bind (quiet_request rfl)
  intro made
  apply asksOnly_bind (asksOnly_ofSystem made)
  intro _
  apply asksOnly_bind (quiet_request rfl)
  intro reply
  apply asksOnly_bind (asksOnly_ofSystem reply)
  intro staged
  apply asksOnly_bind (quiet_request rfl)
  intro promoted
  cases promoted with
  | ok => exact asksOnly_pure ()
  | error cause =>
    exact asksOnly_bind (quiet_request rfl) fun _ => asksOnly_throw _

theorem quiet_materializeSecret (config : Config) :
    Quiet (materializeSecret config) := by
  apply asksOnly_bind (quiet_announce rfl)
  intro _
  have writes : Quiet
      (writeSecret config.sourcePath config.namespaceName config.secretPath) :=
    asksOnly_bind (quiet_readSource _) fun _ =>
      asksOnly_bind (quiet_replaceFile _ _) fun _ => asksOnly_pure _
  apply asksOnly_bind writes
  intro written
  have finishes : Quiet (do
      announce (.finished .writeSecrets config.secretPath.text)
      return written) :=
    asksOnly_bind (quiet_announce rfl) fun _ => asksOnly_pure _
  cases sourced : written.hasSource with
  | true => simpa [sourced] using finishes
  | false =>
      simpa [sourced] using asksOnly_bind
        (quiet_announce rfl) fun _ => finishes

private theorem append_ne_of_not_prefix {first whole : String}
    (differs : first.toList.isPrefixOf whole.toList = false) (rest : String) :
    first ++ rest ≠ whole := by
  intro same
  have isPrefix : first.toList <+: whole.toList := by
    rw [← same, String.toList_append]
    exact List.prefix_append first.toList rest.toList
  simp [List.isPrefixOf_iff_prefix.mpr isPrefix] at differs

/-- Restarting one deployment never restarts all workloads of a kind, whatever
its name: only a kind on its own stands for all of them. -/
theorem quiet_restartService (config : Config) (name : String) :
    Quiet (restart config ("deployment/" ++ name)) := by
  have notDeployments : "deployment/" ++ name ≠ "deployment" :=
    append_ne_of_not_prefix (by decide) name
  have notStatefulSets : "deployment/" ++ name ≠ "statefulset" :=
    append_ne_of_not_prefix (by decide) name
  apply quiet_step
  simp [Invocation.needsConsent, Invocation.deletesCluster,
    Invocation.restartsAll, Config.restartCommand, Config.controlCommand,
    Config.command, List.isPrefixOf, notDeployments.symm, notStatefulSets.symm]

theorem quiet_continueBatch (config : Config) (report : ImageReport)
    (services : List Service) :
    Quiet (continueBatch config report services) :=
  asksOnly_continueBatch config report services (fun _ _ => rfl)
    (fun _ _ => rfl)
    (fun _ => rfl) (fun _ => rfl)

end Operation

end ClusterConsole
