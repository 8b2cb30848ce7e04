import ClusterConsole.Proofs.Cluster.Tool
import ClusterConsole.Rehearsal.Basic

/-!
# Sessions as runs of the state machine

What the clusters are after an operation follows from what they were before and
how the operation has ended, for every tool and in every session.
-/

namespace ClusterConsole

/-- Whether a trace has left the cluster deleted and not created again. -/
def losesCluster (trace : List Exchange) : Bool :=
  trace.any (fun exchange => exchange.isDeletion && exchange.isSuccess) &&
    trace.any fun exchange => exchange.isCreation && !exchange.isSuccess

/-- The state machine: the clusters after a call that had a certain result. -/
def Call.clustersAfter (config : Config)
    (before : Finset String) (trace : List Exchange) :
    (call : Call) → Except Failure call.Result → Finset String
  | .undertake .bootstrap, .ok outcome =>
    if outcome.isDeclined then before else insert config.cluster.name before
  | .undertake .bootstrap, .error _ =>
    if losesCluster trace then before.erase config.cluster.name else before
  | .undertake .teardown, .ok outcome =>
    if outcome.isDeclined then before else before.erase config.cluster.name
  | _, _ => before

/-! ## The ways to go -/

theorem Invocation.ne_prompt_of_failed
    {invocation : Invocation} {options : RunOptions}
    {reply : Except SystemError CommandOutput} {failure : Failure}
    (failed : invocation.result options reply = .error failure)
    (reason : String) :
    failure ≠ .prompt reason := by
  obtain ⟨cause, -, rfl⟩ | ⟨output, -, -, -, rfl⟩ :=
    Invocation.result_eq_error_iff.mp failed
  · simp
  · simp

section Ways

variable {config : Config} {trace : List Exchange} {clusters : Finset String}
  {result : Except Failure Outcome}

section Commands

variable {options : RunOptions} {reply : Except SystemError CommandOutput}

@[simp] theorem Config.listing_isDeletion :
    Exchange.isDeletion ⟨.run config.listCommand options, reply⟩ = false := rfl

@[simp] theorem Config.listing_isCreation :
    Exchange.isCreation ⟨.run config.listCommand options, reply⟩ = false := rfl

@[simp] theorem Config.creation_isDeletion :
    Exchange.isDeletion ⟨.run config.createCommand options, reply⟩ = false :=
      rfl

@[simp] theorem Config.creation_isCreation :
    Exchange.isCreation ⟨.run config.createCommand options, reply⟩ = true := rfl

@[simp] theorem Config.deletion_isDeletion :
    Exchange.isDeletion ⟨.run config.deleteCommand options, reply⟩ = true := rfl

@[simp] theorem Config.deletion_isCreation :
    Exchange.isCreation ⟨.run config.deleteCommand options, reply⟩ = false :=
      rfl

@[simp] theorem Config.effect_listing :
    config.effect clusters ⟨.run config.listCommand options, reply⟩ =
      clusters :=
  effect_eq_self rfl clusters

end Commands

theorem SetsUp.along_createsAnew (setsUp : SetsUp config trace result)
    (absent : config.cluster.name ∉ clusters) :
    config.Along config.CreatesAnew clusters trace := by
  cases setsUp with
  | uncreated failed => exact ⟨fun _ => absent, trivial⟩
  | created succeeded carriedOut => exact ⟨fun _ => absent, trivial⟩

theorem Deletes.along_createsAnew
    {next : List Exchange → Except Failure Outcome → Prop}
    (deletes : Deletes config next trace result)
    (rest : ∀ trace result, next trace result →
      ∀ clusters, config.cluster.name ∉ clusters →
      config.Along config.CreatesAnew clusters trace) :
    config.Along config.CreatesAnew clusters trace := by
  cases deletes with
  | unanswered => trivial
  | refused => trivial
  | undeleted failed => exact ⟨by simp [Config.CreatesAnew], trivial⟩
  | deleted succeeded later =>
      have isSuccess := Invocation.isSuccess_of_succeeded succeeded
      refine ⟨by simp [Config.CreatesAnew], rest _ _ later _ ?_⟩
      simp [Config.effect_delete, isSuccess]

theorem Bootstraps.along_createsAnew
    (bootstraps : Bootstraps config trace result)
    (told : config.Along config.Told clusters trace) :
    config.Along config.CreatesAnew clusters trace := by
  cases bootstraps with
  | unlisted failed => exact ⟨by simp [Config.CreatesAnew], trivial⟩
  | absent succeeded listed rest =>
      have absent : config.cluster.name ∉ clusters := by
        rw [← told.1 _ _ rfl succeeded, listed]
        decide
      refine ⟨by simp [Config.CreatesAnew], ?_⟩
      rw [Config.effect_listing]
      exact rest.along_createsAnew absent
  | present succeeded listed rest =>
      refine ⟨by simp [Config.CreatesAnew], ?_⟩
      exact rest.along_createsAnew fun _ _ setsUp _ => setsUp.along_createsAnew

theorem SetsUp.replay (setsUp : SetsUp config trace result) :
    config.replay clusters trace =
      Call.clustersAfter config clusters trace (.undertake .bootstrap)
        result := by
  cases setsUp with
  | uncreated failed =>
      have notSuccess := Invocation.isSuccess_of_failed failed
      simp [Config.replay, Config.effect_create, notSuccess, Call.clustersAfter,
        losesCluster]
  | created succeeded carriedOut =>
      have isSuccess := Invocation.isSuccess_of_succeeded succeeded
      simp [Config.replay, Config.effect_create, isSuccess, Call.clustersAfter,
        carriedOut]

/-- The old cluster has been deleted, so it is lost if there is no new one. -/
theorem SetsUp.replay_deletion (setsUp : SetsUp config trace result)
    {reply : Except SystemError CommandOutput} {output : CommandOutput}
    (succeeded : config.deleteCommand.result .checked reply = .ok output) :
    config.replay clusters
      (⟨.run config.deleteCommand .checked, reply⟩ :: trace) =
      Call.clustersAfter config clusters
        (⟨.run config.deleteCommand .checked, reply⟩ :: trace)
        (.undertake .bootstrap) result := by
  have deleted := Invocation.isSuccess_of_succeeded succeeded
  cases setsUp with
  | uncreated failed =>
      have notSuccess := Invocation.isSuccess_of_failed failed
      simp [Config.replay, Config.effect_create, Config.effect_delete, deleted,
        notSuccess, Call.clustersAfter, losesCluster]
  | created created carriedOut =>
      have isSuccess := Invocation.isSuccess_of_succeeded created
      have same :
          insert config.cluster.name (clusters.erase config.cluster.name) =
          insert config.cluster.name clusters := by grind
      simp [Config.replay, Config.effect_create, Config.effect_delete, deleted,
        isSuccess, Call.clustersAfter, carriedOut, same]

theorem Deletes.replay_bootstrap
    (deletes : Deletes config (SetsUp config) trace result) :
    config.replay clusters trace =
      Call.clustersAfter config clusters trace (.undertake .bootstrap)
        result := by
  cases deletes with
  | unanswered => rfl
  | refused => rfl
  | undeleted failed =>
      have notSuccess := Invocation.isSuccess_of_failed failed
      simp [Config.replay, Config.effect_delete, notSuccess, Call.clustersAfter,
        losesCluster]
  | deleted succeeded rest => exact rest.replay_deletion succeeded

theorem Bootstraps.replay (bootstraps : Bootstraps config trace result) :
    config.replay clusters trace =
      Call.clustersAfter config clusters trace (.undertake .bootstrap)
        result := by
  -- The listing neither changes the clusters nor loses one.
  have afterListing (reply : Except SystemError CommandOutput)
      (trace : List Exchange)
      (replayed : config.replay clusters trace =
        Call.clustersAfter config clusters trace (.undertake .bootstrap)
          result) :
      config.replay clusters
        (⟨.run config.listCommand .captured, reply⟩ :: trace) =
        Call.clustersAfter config clusters
          (⟨.run config.listCommand .captured, reply⟩ :: trace)
          (.undertake .bootstrap) result := by
    rw [Config.replay, List.foldl_cons, Config.effect_listing]
    exact replayed
  cases bootstraps with
  | unlisted failed => exact afterListing _ [] rfl
  | absent succeeded listed rest => exact afterListing _ _ rest.replay
  | present succeeded listed rest =>
    exact afterListing _ _ rest.replay_bootstrap

theorem Deletes.replay_teardown
    (deletes : Deletes config (fun trace result => trace = [] ∧
        result = .ok .completed)
      trace result) :
    config.replay clusters trace =
      Call.clustersAfter config clusters trace (.undertake .teardown)
        result := by
  cases deletes with
  | unanswered => rfl
  | refused => rfl
  | undeleted failed =>
      have notSuccess := Invocation.isSuccess_of_failed failed
      simp [Config.replay, Config.effect_delete, notSuccess, Call.clustersAfter]
  | deleted succeeded rest =>
      obtain ⟨rfl, rfl⟩ := rest
      have isSuccess := Invocation.isSuccess_of_succeeded succeeded
      simp [Config.replay, Config.effect_delete, isSuccess, Call.clustersAfter,
        Outcome.isDeclined, Outcome.completed]

/-- A cluster is lost only by a command that fails. -/
theorem Bootstraps.not_losesCluster {reason : String}
    (bootstraps : Bootstraps config trace (.error (.prompt reason))) :
    losesCluster trace = false := by
  have noPrompt {invocation : Invocation} {options : RunOptions}
      {reply : Except SystemError CommandOutput} :
      invocation.result options reply ≠ .error (.prompt reason) :=
    fun failed => Invocation.ne_prompt_of_failed failed reason rfl
  cases bootstraps with
  | unlisted failed => exact absurd failed noPrompt
  | absent succeeded listed rest =>
      cases rest with
      | uncreated failed => exact absurd failed noPrompt
  | present succeeded listed rest =>
      cases rest with
      | unanswered => rfl
      | undeleted failed => exact absurd failed noPrompt
      | deleted succeeded rest =>
          cases rest with
          | uncreated failed => exact absurd failed noPrompt

/-! ## Which commands are run -/

theorem Config.manages_listing (reply : Except SystemError CommandOutput) :
    config.Manages ⟨.run config.listCommand .captured, reply⟩ :=
  nofun

theorem Config.manages_create (reply : Except SystemError CommandOutput) :
    config.Manages ⟨.run config.createCommand .checked, reply⟩ :=
  fun _ => .inl (decide_eq_true rfl)

theorem Config.manages_delete (reply : Except SystemError CommandOutput) :
    config.Manages ⟨.run config.deleteCommand .checked, reply⟩ :=
  fun _ => .inr (decide_eq_true rfl)

theorem SetsUp.manages (setsUp : SetsUp config trace result) :
    ∀ exchange ∈ trace, config.Manages exchange := by
  cases setsUp with
  | uncreated failed => simpa using Config.manages_create _
  | created succeeded carriedOut => simpa using Config.manages_create _

theorem Deletes.manages {next : List Exchange → Except Failure Outcome → Prop}
    (deletes : Deletes config next trace result) (rest : ∀ trace result,
      next trace result → ∀ exchange ∈ trace, config.Manages exchange) :
    ∀ exchange ∈ trace, config.Manages exchange := by
  cases deletes with
  | unanswered => simp
  | refused => simp
  | undeleted failed => simpa using Config.manages_delete _
  | deleted succeeded later =>
      exact List.forall_mem_cons.mpr ⟨Config.manages_delete _, rest _ _ later⟩

theorem Bootstraps.manages (bootstraps : Bootstraps config trace result) :
    ∀ exchange ∈ trace, config.Manages exchange := by
  cases bootstraps with
  | unlisted failed => simpa using Config.manages_listing _
  | absent succeeded listed rest =>
      exact List.forall_mem_cons.mpr ⟨Config.manages_listing _, rest.manages⟩
  | present succeeded listed rest =>
      exact List.forall_mem_cons.mpr
        ⟨Config.manages_listing _,
          rest.manages fun _ _ setsUp => setsUp.manages⟩

end Ways

/-! ## Every call -/

section Calls

variable {config : Config} {call : Call} {trace : List Exchange}
  {clusters : Finset String}
  {result : Except Failure call.Result}

theorem Call.Lives.manages (lives : call.Lives config (life trace) result) :
    ∀ exchange ∈ trace, config.Manages exchange := by
  have vital : ∀ exchange ∈ life trace, config.Manages exchange := by
    cases call with
    | undertake undertaking =>
        cases undertaking with
        | bootstrap => exact Bootstraps.manages lives
        | teardown => exact Deletes.manages lives (by rintro _ _ ⟨rfl, -⟩; simp)
        | _ => exact (lives : life trace = []) ▸ (by simp)
    | _ => exact (lives : life trace = []) ▸ (by simp)
  intro exchange member
  cases isVital : exchange.request.isVital with
  | true => exact vital exchange (List.mem_filter.mpr ⟨member, isVital⟩)
  | false => simp [Config.Manages, Request.not_managesClusters isVital]

theorem Call.Lives.along_createsAnew (lives : call.Lives config trace result)
    (told : config.Along config.Told clusters trace) :
    config.Along config.CreatesAnew clusters trace := by
  cases call with
  | undertake undertaking =>
      cases undertaking with
      | bootstrap => exact Bootstraps.along_createsAnew lives told
      | teardown =>
          exact Deletes.along_createsAnew lives
            (by rintro _ _ ⟨rfl, -⟩ _ _; trivial)
      | _ => exact (lives : trace = []) ▸ trivial
  | _ => exact (lives : trace = []) ▸ trivial

theorem Call.Lives.replay (lives : call.Lives config trace result) :
    config.replay clusters trace =
      call.clustersAfter config clusters trace result := by
  cases call with
  | undertake undertaking =>
      cases undertaking with
      | bootstrap => exact Bootstraps.replay lives
      | teardown => exact Deletes.replay_teardown lives
      | _ => exact (lives : trace = []) ▸ rfl
  | _ => exact (lives : trace = []) ▸ rfl

theorem Call.Lives.replay_of_prompt (lives : call.Lives config trace result)
    {reason : String} (unanswered : result = .error (.prompt reason)) :
    config.replay clusters trace = clusters := by
  rw [lives.replay]
  subst unanswered
  cases call with
  | undertake undertaking =>
      cases undertaking with
      | bootstrap =>
        simp [Call.clustersAfter, Bootstraps.not_losesCluster lives]
      | _ => rfl
  | _ => rfl

end Calls

/-! ## What does not matter to the life of a cluster -/

theorem Request.isVital_of_prefix {verb : String}
    {invocation : Invocation} (isVerb : verb = "create" ∨ verb = "delete")
    (isPrefix : [verb, "cluster"].isPrefixOf invocation.arguments = true)
    (options : RunOptions) :
    (Request.run invocation options).isVital = true := by
  obtain ⟨rest, same⟩ := List.isPrefixOf_iff_prefix.mp isPrefix
  rcases isVerb with rfl | rfl <;>
    simp [Request.isVital, Invocation.managesClusters, ← same]

theorem Exchange.isVital_of_isCreation {exchange : Exchange}
    (creates : exchange.isCreation = true) :
    exchange.request.isVital = true := by
  obtain ⟨request, reply⟩ := exchange
  cases request with
  | run invocation options =>
    exact Request.isVital_of_prefix (.inl rfl) creates options
  | _ => cases creates

theorem Exchange.isVital_of_isDeletion {exchange : Exchange}
    (deletes : exchange.isDeletion = true) :
    exchange.request.isVital = true := by
  obtain ⟨request, reply⟩ := exchange
  cases request with
  | run invocation options =>
    exact Request.isVital_of_prefix (.inr rfl) deletes options
  | _ => cases deletes

theorem any_life {test : Exchange → Bool} (isVital : ∀ exchange, test exchange =
      true → exchange.request.isVital = true) (trace : List Exchange) :
    (life trace).any test = trace.any test := by
  rw [life, List.any_filter]
  congr 1
  funext exchange
  cases tested : test exchange with
  | true => simp [isVital exchange tested]
  | false => simp

theorem losesCluster_life (trace : List Exchange) :
    losesCluster (life trace) = losesCluster trace := by
  rw [losesCluster, any_life, any_life, losesCluster]
  · intro exchange fails
    exact Exchange.isVital_of_isCreation (Bool.and_eq_true_iff.mp fails).1
  · intro exchange succeeds
    exact Exchange.isVital_of_isDeletion (Bool.and_eq_true_iff.mp succeeds).1

theorem Call.clustersAfter_life (config : Config)
    (clusters : Finset String) (trace : List Exchange) (call : Call)
    (result : Except Failure call.Result) :
    call.clustersAfter config clusters (life trace) result =
      call.clustersAfter config clusters trace result := by
  cases call with
  | undertake undertaking =>
      cases undertaking <;> cases result <;> simp [Call.clustersAfter,
        losesCluster_life]
  | _ => rfl

/-- Only the configured cluster ever changes. -/
theorem Call.mem_clustersAfter_iff {config : Config} {clusters : Finset String}
    {trace : List Exchange} {call : Call} {result : Except Failure call.Result}
    {name : String} (isOther : name ≠ config.cluster.name) :
    name ∈ call.clustersAfter config clusters trace result ↔
      name ∈ clusters := by
  unfold Call.clustersAfter
  split
  · split <;> simp [isOther]
  · split <;> simp [isOther]
  · split <;> simp [isOther]
  · rfl

/-! ## Every session -/

/-- What one call does to the clusters of a tool. -/
structure ClusterTool.Lawful {surroundings : Surroundings σ} {config : Config}
    (tool : ClusterTool surroundings config.tools.cluster) (call : Call)
    (before : σ) (run : Run σ (Except Failure call.Result)) : Prop where
  /-- The cluster is created only at a moment when it does not exist. -/
  created_anew : ∀ early creation late, run.trace = early ++ creation :: late →
    creation.isCreation = true →
    config.cluster.name ∉ tool.clusters (surroundings.after early before)
  clusters_after : tool.clusters run.state =
    call.clustersAfter config (tool.clusters before) run.trace run.value
  /-- Where the operator could not be asked, nothing changes. -/
  unanswered : ∀ reason, run.value = .error (.prompt reason) →
    tool.clusters run.state = tool.clusters before
  /-- The other clusters are left alone. -/
  others : ∀ name, name ≠ config.cluster.name →
    (name ∈ tool.clusters run.state ↔ name ∈ tool.clusters before)

theorem ClusterTool.lawful_run {surroundings : Surroundings σ} {config : Config}
    (tool : ClusterTool surroundings config.tools.cluster) (call : Call)
    (state : σ) :
    tool.Lawful call state
      ((call.operation config).toProcedure.run surroundings state) := by
  have lives := (Operation.ensures_life config call).run surroundings state
  have replies :=
    Procedure.replies_run surroundings (call.operation config).toProcedure state
  have stateAfter :=
    Procedure.state_run surroundings (call.operation config).toProcedure state
  generalize (call.operation config).toProcedure.run surroundings state = run
    at lives replies stateAfter
  -- The tool is simulated by the trace, and the trace by what in it matters to
  -- clusters.
  have manages := lives.manages
  have clustersAfter : tool.clusters run.state =
      config.replay (tool.clusters state) (life run.trace) := by
    rw [stateAfter, (tool.simulates replies manages).1, Config.replay_life]
  have follows : tool.clusters run.state =
      call.clustersAfter config (tool.clusters state) run.trace run.value := by
    rw [clustersAfter, lives.replay, Call.clustersAfter_life]
  refine ⟨?_, follows, ?_, ?_⟩
  · have tells :
        config.Along config.Told (tool.clusters state) (life run.trace) := by
      refine (Config.along_life ?_ _ _).mpr (tool.simulates replies manages).2
      rintro clusters exchange notVital reply output rfl _
      cases notVital
    have anew :
        config.Along config.CreatesAnew (tool.clusters state) run.trace := by
      refine (Config.along_life ?_ _ _).mp (lives.along_createsAnew tells)
      intro clusters exchange notVital creates
      simp [Exchange.isVital_of_isCreation creates] at notVital
    intro early creation late split creates
    rw [split] at anew replies manages
    have managesEarly : ∀ exchange ∈ early, config.Manages exchange :=
      fun exchange member => manages exchange (List.mem_append_left _ member)
    rw [(tool.simulates replies.of_append managesEarly).1]
    exact anew.of_split creates
  · intro reason unanswered
    rw [clustersAfter, lives.replay_of_prompt unanswered]
  · intro name isOther
    rw [follows, Call.mem_clustersAfter_iff isOther]

namespace Session

/-- In every session, whatever the operator and the other tools do, each
operation moves the clusters as the state machine says. -/
theorem episodes_lawful {surroundings : Surroundings σ} {config : Config}
    (tool : ClusterTool surroundings config.tools.cluster) (calls : List Call)
    (state : σ) :
    ∀ episode ∈ episodes surroundings config calls state,
      tool.Lawful episode.call episode.before episode.run :=
  episodes_hold tool.lawful_run calls state

end Session

/-! ## A tool that keeps a list -/

/-- The clusters of a tool that keeps them in a list. -/
abbrev ClusterList := List {name : String // isClusterName name = true}

namespace ClusterList

def listing (names : ClusterList) : String :=
  String.join (names.map fun name => name.val ++ "\n")

/-- What the tool does with its three commands.  A cluster that exists cannot be
created, and one that does not is deleted without complaint. -/
def act? (names : ClusterList) :
    List String → Option (CommandOutput × ClusterList)
  | ["get", "clusters"] => some (⟨0, some names.listing, some ""⟩, names)
  | ["create", "cluster", "--config", _, "--name", name] =>
    if isName : isClusterName name = true ∧ name ∉ names.map Subtype.val then
      some (.success, ⟨name, isName.1⟩ :: names)
    else some (⟨1, none, none⟩, names)
  | ["delete", "cluster", "--name", name] =>
    some (.success, names.filter fun other => other.val ≠ name)
  | _ => none

/-- Surroundings in which the tool manages the clusters, and everything else is
as in a rehearsal. -/
def surroundings : Surroundings (ClusterList × Rehearsal) where
  reply
    | .run invocation options, (names, rehearsal) =>
      match if invocation.program = "kind" then names.act? invocation.arguments
        else none with
      | some (output, names) => (.ok output, names, rehearsal)
      | none =>
        let (reply, rehearsal) := rehearsal.run invocation options
        (reply, names, rehearsal)
    | request, (names, rehearsal) =>
      let (reply, rehearsal) := Rehearsal.performers.reply request rehearsal
      (reply, names, rehearsal)

theorem reply_of_act? {invocation : Invocation} {output : CommandOutput}
    {names later : ClusterList} (isOwn : invocation.program = "kind")
    (acts : names.act? invocation.arguments = some (output, later))
    (options : RunOptions) (rehearsal : Rehearsal) :
    surroundings.reply (.run invocation options) (names, rehearsal) =
      (.ok output, later, rehearsal) := by
  simp [surroundings, isOwn, acts]

theorem prints_listing (names : ClusterList) :
    Prints (names.map Subtype.val) names.listing.toList := by
  induction names with
  | nil => exact .nothing
  | cons name names ih =>
      have prints : Prints (name.val :: names.map Subtype.val)
          (name.val.toList ++ ['\n'] ++ (listing names).toList) :=
        .line (.inl rfl) ih
      simpa [listing, String.toList_join] using prints

theorem eq_of_act? {names later : ClusterList} {invocation : Invocation}
    {output : CommandOutput} (keeps : invocation.managesClusters = false)
    (acts : names.act? invocation.arguments = some (output, later)) :
    later = names := by
  unfold act? at acts
  split at acts
  · cases acts
    rfl
  · simp_all [Invocation.managesClusters]
  · simp_all [Invocation.managesClusters]
  · cases acts

theorem toFinset_filter (names : ClusterList) (name : String) :
    ((names.filter fun other => other.val ≠ name).map Subtype.val).toFinset =
      (names.map Subtype.val).toFinset.erase name := by
  ext other
  simp only [List.mem_toFinset, Finset.mem_erase, List.mem_map, List.mem_filter,
    decide_eq_true_eq]
  constructor
  · rintro ⟨entry, ⟨member, isOther⟩, rfl⟩
    exact ⟨isOther, entry, member, rfl⟩
  · rintro ⟨isOther, entry, member, rfl⟩
    exact ⟨entry, ⟨member, isOther⟩, rfl⟩

def tool : ClusterTool surroundings Config.standard.tools.cluster where
  clusters state := (state.1.map Subtype.val).toFinset
  areNames := by
    intro state name member
    obtain ⟨entry, _, rfl⟩ := List.mem_map.mp (List.mem_toFinset.mp member)
    exact entry.property
  lists := by
    intro directory? state output replied _
    refine ⟨state.1.map Subtype.val, ?_, fun name => List.mem_toFinset.symm⟩
    cases replied
    exact prints_listing state.1
  creates := by
    rintro configFile name directory? options ⟨names, rehearsal⟩ request
    by_cases isNew : isClusterName name = true ∧ name ∉ names.map Subtype.val
    · have replied : surroundings.reply request (names, rehearsal) =
          (.ok .success, ⟨name, isNew.1⟩ :: names, rehearsal) := by
        refine reply_of_act? rfl ?_ options rehearsal
        exact dif_pos isNew
      have isSuccess :
          (surroundings.exchange request (names, rehearsal)).isSuccess =
            true := by
        rw [Surroundings.exchange, replied]
        rfl
      rw [if_pos isSuccess, Surroundings.next, replied, List.map_cons,
        List.toFinset_cons]
    · have replied : surroundings.reply request (names, rehearsal) =
          (.ok ⟨1, none, none⟩, names, rehearsal) := by
        refine reply_of_act? rfl ?_ options rehearsal
        exact dif_neg isNew
      have failed :
          (surroundings.exchange request (names, rehearsal)).isSuccess =
            false := by
        rw [Surroundings.exchange, replied]
        rfl
      rw [if_neg (Bool.eq_false_iff.mp failed), Surroundings.next, replied]
  deletes := by
    rintro name directory? options ⟨names, rehearsal⟩ request
    have replied : surroundings.reply request (names, rehearsal) =
        (.ok .success, names.filter fun other => other.val ≠ name, rehearsal) :=
      reply_of_act? rfl rfl options rehearsal
    have isSuccess :
        (surroundings.exchange request (names, rehearsal)).isSuccess =
          true := by
      rw [Surroundings.exchange, replied]
      rfl
    rw [if_pos isSuccess, Surroundings.next, replied]
    exact toFinset_filter names name
  keeps := by
    rintro request ⟨names, rehearsal⟩ keeps
    cases request with
    | run invocation options =>
        by_cases isOwn : invocation.program = "kind"
        · cases acts : names.act? invocation.arguments with
          | none => simp [Surroundings.next, surroundings, isOwn, acts]
          | some replied =>
              rw [Surroundings.next, reply_of_act? isOwn acts,
                eq_of_act? keeps acts]
        · simp [Surroundings.next, surroundings, isOwn]
    | _ => rfl

/-- There are two clusters, and the operator consents once, refuses once and
consents again. -/
def start : ClusterList × Rehearsal :=
  ([⟨"limitedcart-old", by decide⟩, ⟨"limitedcart", by decide⟩],
    { Rehearsal.ofScript .empty with
      answers? := some (.ofList [.gives true, .gives false, .gives true]) })

/-- The cluster is created anew, then kept, and at last deleted. -/
theorem episodes_lawful_start :
    ∃ recreated kept deleted,
      Session.episodes surroundings .standard
        [.undertake .bootstrap, .undertake .teardown,
          .undertake .teardown] start =
          [recreated, kept, deleted] ∧
      (recreated.run.trace.countP Exchange.isDeletion = 1 ∧
        tool.clusters recreated.run.state = {"limitedcart", "limitedcart-old"} ∧
        tool.clusters kept.run.state = {"limitedcart", "limitedcart-old"} ∧
        tool.clusters deleted.run.state = {"limitedcart-old"}) ∧
      tool.Lawful recreated.call recreated.before recreated.run ∧
      tool.Lawful kept.call kept.before kept.run ∧
      tool.Lawful deleted.call deleted.before deleted.run := by
  have lawful := Session.episodes_lawful tool
    [.undertake .bootstrap, .undertake .teardown, .undertake .teardown] start
  exact ⟨_, _, _, rfl,
    by decide +kernel, lawful _ (.head _), lawful _ (.tail _ (.head _)),
    lawful _ (.tail _ (.tail _ (.head _)))⟩

end ClusterList

end ClusterConsole
