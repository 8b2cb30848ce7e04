import ClusterConsole.Proofs.Session.FailStop
import ClusterConsole.Proofs.Session.GatedOperations

/-!
# What becomes of clusters

Only the commands that list, create or delete clusters matter to the life of a
cluster.  Seen through them alone, bootstrap and teardown have few ways to go,
and every other operation does nothing.
-/

namespace ClusterConsole

namespace Invocation

/-- Whether a command creates or deletes clusters, one or several. -/
def managesClusters (invocation : Invocation) : Bool :=
  match invocation.arguments with
  | verb :: noun :: _ =>
    (verb == "create" || verb == "delete") &&
      (noun == "cluster" || noun == "clusters")
  | _ => false

def listsClusters (invocation : Invocation) : Bool :=
  invocation.arguments == ["get", "clusters"]

end Invocation

namespace Request

def managesClusters : Request → Bool
  | .run invocation _ => invocation.managesClusters
  | _ => false

/-- Whether a request matters to the life of a cluster. -/
def isVital : Request → Bool
  | .run invocation _ => invocation.managesClusters || invocation.listsClusters
  | _ => false

theorem not_managesClusters {request : Request}
    (notVital : request.isVital = false) :
    request.managesClusters = false := by
  cases request with
  | run invocation options => exact (Bool.or_eq_false_iff.mp notVital).1
  | _ => rfl

end Request

/-- What matters of a trace to the life of a cluster. -/
def life (trace : List Exchange) : List Exchange :=
  trace.filter fun exchange => exchange.request.isVital

theorem life_append (early late : List Exchange) :
    life (early ++ late) = life early ++ life late :=
  List.filter_append early late

theorem life_visible (trace : List Exchange) :
    life (visible trace) = life trace := by
  rw [life, visible, List.filter_filter]
  apply List.filter_congr
  rintro ⟨request, reply⟩ _
  cases request <;> simp [Request.isVital, Exchange.isVisible]

theorem life_eq_nil {trace : List Exchange}
    (idle : ∀ exchange ∈ trace, exchange.request.isVital = false) :
    life trace = [] :=
  List.filter_eq_nil_iff.mpr fun exchange member => by
    simp [idle exchange member]

/-! ## The ways to go -/

/-- How a cluster is set up: creating it can fail, and nothing after that. -/
inductive SetsUp (config : Config) :
    List Exchange → Except Failure Outcome → Prop where
  | uncreated {reply : Except SystemError CommandOutput} {failure : Failure}
      (failed : config.createCommand.result .checked reply = .error failure) :
      SetsUp config [⟨.run config.createCommand .checked, reply⟩]
        (.error failure)
  | created {reply : Except SystemError CommandOutput} {output : CommandOutput}
      {outcome : Outcome}
      (succeeded : config.createCommand.result .checked reply = .ok output)
      (carriedOut : outcome.isDeclined = false) :
      SetsUp config [⟨.run config.createCommand .checked, reply⟩] (.ok outcome)

/-- How a cluster is deleted if the operator consents, and what then comes
next. -/
inductive Deletes (config : Config)
    (next : List Exchange → Except Failure Outcome → Prop) :
    List Exchange → Except Failure Outcome → Prop where
  | unanswered {reason : String} :
      Deletes config next [] (.error (.prompt reason))
  | refused : Deletes config next [] (.ok .declined)
  | undeleted {reply : Except SystemError CommandOutput} {failure : Failure}
      (failed : config.deleteCommand.result .checked reply = .error failure) :
      Deletes config next [⟨.run config.deleteCommand .checked, reply⟩]
        (.error failure)
  | deleted {reply : Except SystemError CommandOutput} {output : CommandOutput}
      {trace : List Exchange} {result : Except Failure Outcome}
      (succeeded : config.deleteCommand.result .checked reply = .ok output)
      (rest : next trace result) :
      Deletes config next
        (⟨.run config.deleteCommand .checked, reply⟩ :: trace) result

/-- How a bootstrap goes: it depends on whether the cluster is listed. -/
inductive Bootstraps (config : Config) :
    List Exchange → Except Failure Outcome → Prop where
  | unlisted {reply : Except SystemError CommandOutput} {failure : Failure}
      (failed : config.listCommand.result .captured reply = .error failure) :
      Bootstraps config [⟨.run config.listCommand .captured, reply⟩]
        (.error failure)
  | absent {reply : Except SystemError CommandOutput} {output : CommandOutput}
      {trace : List Exchange} {result : Except Failure Outcome}
      (succeeded : config.listCommand.result .captured reply = .ok output)
      (listed : ClusterState.ofListing config.cluster.name output.stdout =
        .absent)
      (rest : SetsUp config trace result) :
      Bootstraps config (⟨.run config.listCommand .captured, reply⟩ ::
        trace) result
  | present {reply : Except SystemError CommandOutput} {output : CommandOutput}
      {trace : List Exchange} {result : Except Failure Outcome}
      (succeeded : config.listCommand.result .captured reply = .ok output)
      (listed : ClusterState.ofListing config.cluster.name output.stdout =
        .present)
      (rest : Deletes config (SetsUp config) trace result) :
      Bootstraps config (⟨.run config.listCommand .captured, reply⟩ ::
        trace) result

def Call.Lives (config : Config) :
    (call : Call) → List Exchange → Except Failure call.Result → Prop
  | .undertake .bootstrap => Bootstraps config
  | .undertake .teardown =>
    Deletes config fun trace result => trace = [] ∧ result = .ok .completed
  | _ => fun trace _ => trace = []

/-! ## Plans that have nothing to do with clusters -/

def Task.isVital : Task → Bool
  | .command invocation options => (Request.run invocation options).isVital
  | _ => false

section Plans

variable {plan : List PlanStep} {earlier trace : List Exchange}
  {failure? stop? : Option Failure}

theorem SecretWrite.life_eq_nil {source target : Path} {namespaceName : String}
    (write : SecretWrite source target namespaceName trace failure?) :
    life trace = [] := by
  cases write with
  | unread => rfl
  | rewritten _ replacement => cases replacement <;> rfl

theorem Task.Goes.life_eq_nil {task : Task} (goes : task.Goes trace failure?)
    (idle : task.isVital = false) : life trace = [] := by
  cases goes with
  | command reply =>
    exact ClusterConsole.life_eq_nil (by simpa [isVital] using idle)
  | writeSecret write => exact write.life_eq_nil
  | _ => rfl

theorem Follows.life_eq_nil (follows : Follows plan earlier trace stop?)
    (idle : ∀ step ∈ plan, step.task.isVital = false) : life trace = [] := by
  induction follows with
  | finished => rfl
  | passedOver notDue rest ih =>
    exact ih fun step member => idle step (.tail _ member)
  | carriedOut due goes goesOn rest ih =>
      rw [life_append, goes.life_eq_nil (idle _ (.head _)),
        ih fun step member => idle step (.tail _ member), List.append_nil]
  | stopped due goes stops => exact goes.life_eq_nil (idle _ (.head _))

/-- A plan all of whose failures are tolerated is followed to its end. -/
theorem Follows.finishes (follows : Follows plan earlier trace stop?)
    (tolerant : ∀ step ∈ plan, step.severity = .tolerated) : stop? = none := by
  induction follows with
  | finished => rfl
  | passedOver notDue rest ih =>
    exact ih fun step member => tolerant step (.tail _ member)
  | carriedOut due goes goesOn rest ih =>
    exact ih fun step member => tolerant step (.tail _ member)
  | stopped due goes stops =>
      rw [tolerant _ (.head _)] at stops
      cases stops

end Plans

namespace Operation

variable (config : Config)

theorem Realizes.idle {plan : List PlanStep}
    {operation : Operation α} (realizes : Realizes plan [] operation)
    (idle : ∀ step ∈ plan, step.task.isVital = false) :
    Ensures operation fun trace _ => life trace = [] := by
  apply Ensures.mono realizes
  intro trace result follows
  rw [← life_visible]
  exact follows.life_eq_nil idle

theorem ensures_installBaseline :
    Ensures (installBaseline config .completed) fun trace result =>
      life trace = [] ∧ ∃ outcome, result = .ok outcome ∧
      outcome.isDeclined = false := by
  -- No step of its plan is mandatory, so there is no failure that it could end
  -- with.
  have realizes := realizes_installBaseline config [] .completed rfl
  have idle : ∀ step ∈ config.setUpPlan.tail, step.task.isVital = false := by
    simp only [Config.setUpPlan, List.tail_cons, List.forall_mem_cons]
    exact ⟨rfl, rfl, by simp⟩
  have tolerant :
      ∀ step ∈ config.setUpPlan.tail, step.severity = .tolerated := by
    simp [Config.setUpPlan, Config.waitStep]
  apply Ensures.mono ((completes_installBaseline config).and
      (realizes.idle idle |>.and realizes))
  rintro trace result ⟨⟨-, carriedOut⟩, idle, follows⟩
  cases result with
  | error failure => cases follows.finishes tolerant
  | ok outcome => exact ⟨idle, outcome, rfl, carriedOut outcome rfl⟩

theorem ensures_setUpCluster :
    Ensures (setUpCluster config) fun trace result =>
      SetsUp config (life trace) result := by
  apply ensures_bind
  apply ensures_step
  · intro reply failure failed
    exact .uncreated failed
  · intro reply output succeeded
    apply Ensures.mono (ensures_installBaseline config)
    rintro later result ⟨idle, outcome, rfl, carriedOut⟩
    rw [life_append, idle]
    exact .created succeeded carriedOut

theorem ensures_deletion {question : String}
    {next : Bool → Operation Outcome} {rest : Unit → Operation Outcome}
    {after : List Exchange → Except Failure Outcome → Prop}
    (agreed : next true = deleteCluster config >>= rest)
    (refused : next false = pure .declined) (ensures : Ensures (rest ())
        fun trace result => after (life trace) result) :
    Ensures (consent question >>= next) fun trace result =>
      Deletes config after (life trace) result := by
  apply ensures_consent
  · intro reason
    exact .unanswered
  · intro answer
    cases answer with
    | false =>
        rw [refused]
        exact ensures_pure .refused
    | true =>
        rw [agreed]
        apply ensures_bind
        apply ensures_step
        · intro reply failure failed
          exact .undeleted failed
        · intro reply output succeeded
          apply Ensures.mono ensures
          intro later result holds
          exact .deleted succeeded holds

theorem ensures_bootstrap :
    Ensures (bootstrap config) fun trace result =>
      Bootstraps config (life trace) result := by
  unfold bootstrap clusterState
  simp only [bind_assoc, pure_bind]
  apply ensures_bind
  apply ensures_invoke
  intro reply
  cases result : config.listCommand.result .captured reply with
  | error failure => exact .unlisted result
  | ok output =>
      simp only
      cases listed :
        ClusterState.ofListing config.cluster.name output.stdout with
      | absent =>
          apply Ensures.mono (ensures_setUpCluster config)
          intro later _ setsUp
          exact .absent result listed setsUp
      | present =>
          apply Ensures.mono
            (ensures_deletion config rfl rfl (ensures_setUpCluster config))
          intro later _ deletes
          exact .present result listed deletes

theorem ensures_teardown :
    Ensures (teardown config) fun trace result =>
      Deletes config (fun trace result => trace = [] ∧ result = .ok .completed)
        (life trace) result :=
  ensures_deletion config rfl rfl (ensures_pure ⟨rfl, rfl⟩)

/-- All other undertakings have plans without any command for clusters. -/
theorem idle_undertaking (undertaking : Undertaking)
    (noBootstrap : undertaking ≠ .bootstrap)
    (noTeardown : undertaking ≠ .teardown) :
    Ensures (undertaking.operation config) fun trace _ => life trace = [] := by
  apply (realizes_undertaking config undertaking).idle
  cases undertaking with
  | bootstrap => exact absurd rfl noBootstrap
  | teardown => exact absurd rfl noTeardown
  | deployInfrastructure =>
      simp only [Undertaking.plan, List.forall_mem_cons]
      exact ⟨rfl, rfl, rfl, rfl, rfl, rfl, rfl, rfl, by simp⟩
  | deployServices =>
      simp only [Undertaking.plan, List.forall_mem_cons]
      exact ⟨rfl, rfl, by simp⟩
  | ship query =>
      simp only [Undertaking.plan, List.forall_mem_cons]
      refine ⟨rfl, ?_⟩
      cases config.roster.resolve? query with
      | none => simp
      | some service =>
          simp only [Config.shipPlan, List.forall_mem_cons]
          exact ⟨rfl, rfl, rfl, rfl, rfl, by simp⟩
  | applyConfig =>
      simp only [Undertaking.plan, List.forall_mem_cons]
      exact ⟨rfl, rfl, rfl, rfl, rfl, by simp⟩

theorem AsksOnly.idle {operation : Operation α}
    (asksOnly : AsksOnly (fun request => request.isVital = false) operation) :
    Ensures operation fun trace _ => life trace = [] :=
  Ensures.mono asksOnly fun _ _ => life_eq_nil

theorem ensures_life (call : Call) :
    Ensures (call.operation config) fun trace result =>
      call.Lives config (life trace) result := by
  cases call with
  | undertake undertaking =>
      cases undertaking with
      | bootstrap => exact ensures_bootstrap config
      | teardown => exact ensures_teardown config
      | deployInfrastructure =>
        exact idle_undertaking config .deployInfrastructure nofun nofun
      | deployServices =>
        exact idle_undertaking config .deployServices nofun nofun
      | ship query => exact idle_undertaking config (.ship query) nofun nofun
      | applyConfig => exact idle_undertaking config .applyConfig nofun nofun
  | buildAll =>
      exact AsksOnly.idle
        (asksOnly_continueBatch config .empty _ (fun _ _ => rfl)
        (fun _ _ => rfl) (fun _ => rfl) (fun _ => rfl))
  | writeSecret =>
      apply (realizes_materializeSecret config []).idle
      simp [Config.secretStep, PlanStep.must, Task.isVital]
  | checkPrerequisites =>
      exact AsksOnly.idle
        (asksOnly_checkPrerequisites config (fun _ => rfl) rfl)
  | status => exact AsksOnly.idle (asksOnly_snapshot rfl)
  | metrics scope =>
      cases scope with
      | nodes => exact AsksOnly.idle (asksOnly_snapshot rfl)
      | pods => exact AsksOnly.idle (asksOnly_snapshot rfl)
  | findPod query =>
    exact AsksOnly.idle (asksOnly_findPod config query fun _ => rfl)
  | streamLogs pod follow => exact AsksOnly.idle (asksOnly_streamLogs rfl)

end Operation

end ClusterConsole
