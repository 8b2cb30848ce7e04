import Mathlib.Data.Finset.Basic
import ClusterConsole.Proofs.Cluster.Listing
import ClusterConsole.Proofs.Procedure.Replies
import ClusterConsole.Proofs.Session.Lifecycle

/-!
# The cluster as a state machine

A tool keeps a finite set of clusters.  All that the console knows of it are the
listings, which it asks for each time.  Still every operation, and so every
session, moves between the sets as the state machine says: bootstrap adds the
cluster, teardown takes it away, and whatever goes wrong on the way changes
nothing, unless an old cluster is already gone when the new one cannot be
created.
-/

namespace ClusterConsole

/-- A tool that manages a finite set of clusters, whatever else there is in the
state. -/
structure ClusterTool (surroundings : Surroundings σ) (program : String) where
  /-- The names of the clusters that exist in a state. -/
  clusters : σ → Finset String
  areNames : ∀ state, ∀ name ∈ clusters state, isClusterName name = true
  /-- A listing that succeeds prints the names in some order. -/
  lists : ∀ directory? state output,
    (surroundings.reply
        (.run ⟨program, ["get", "clusters"], directory?⟩ .captured) state).1 =
      .ok output →
    output.isSuccess = true →
    ∃ names, Prints names output.stdout.toList ∧ ∀ name, name ∈ names ↔
      name ∈ clusters state
  /-- Creating a cluster fails and changes nothing, or it succeeds and adds the
  name. -/
  creates : ∀ configFile name directory? options state,
    let request := Request.run
      ⟨program, ["create", "cluster", "--config", configFile, "--name", name],
        directory?⟩ options
    clusters (surroundings.next request state) =
      if (surroundings.exchange request state).isSuccess then
        insert name (clusters state)
      else clusters state
  /-- Deleting a cluster fails and changes nothing, or it succeeds and removes
  the name. -/
  deletes : ∀ name directory? options state,
    let request := Request.run
      ⟨program, ["delete", "cluster", "--name", name], directory?⟩ options
    clusters (surroundings.next request state) =
      if (surroundings.exchange request state).isSuccess then
        (clusters state).erase name
      else clusters state
  /-- Whatever else is asked for, the clusters stay as they are. -/
  keeps : ∀ request state, request.managesClusters = false →
    clusters (surroundings.next request state) = clusters state

/-! ## Replaying a trace -/

namespace Config

variable (config : Config)

/-- The clusters after an exchange, told by the exchange alone. -/
def effect (clusters : Finset String) (exchange : Exchange) : Finset String :=
  if exchange.isSuccess then
    if exchange.runs config.createCommand then
      insert config.cluster.name clusters
    else if exchange.runs config.deleteCommand then
      clusters.erase config.cluster.name
    else clusters
  else clusters

def replay (clusters : Finset String) (trace : List Exchange) : Finset String :=
  trace.foldl config.effect clusters

/-- Something holds of each exchange of a trace and the clusters before it. -/
def Along (holds : Finset String → Exchange → Prop) :
    Finset String → List Exchange → Prop
  | _, [] => True
  | clusters, exchange :: rest =>
    holds clusters exchange ∧ Along holds (config.effect clusters exchange) rest

variable {config}

theorem manages_of_runs {exchange : Exchange}
    (runs : exchange.runs config.createCommand = true ∨
      exchange.runs config.deleteCommand = true) :
    exchange.request.managesClusters = true := by
  obtain ⟨request, reply⟩ := exchange
  cases request with
  | run invocation options =>
      simp only [Exchange.runs, decide_eq_true_eq] at runs
      rcases runs with rfl | rfl
      · rfl
      · rfl
  | _ => simp [Exchange.runs] at runs

theorem effect_eq_self {exchange : Exchange}
    (keeps : exchange.request.managesClusters = false)
    (clusters : Finset String) :
    config.effect clusters exchange = clusters := by
  have noCreation : exchange.runs config.createCommand = false :=
    Bool.eq_false_iff.mpr fun runs => by
      simp [manages_of_runs (.inl runs)] at keeps
  have noDeletion : exchange.runs config.deleteCommand = false :=
    Bool.eq_false_iff.mpr fun runs => by
      simp [manages_of_runs (.inr runs)] at keeps
  simp [effect, noCreation, noDeletion]

theorem effect_create (clusters : Finset String) (options : RunOptions)
    (reply : Except SystemError CommandOutput) :
    config.effect clusters ⟨.run config.createCommand options, reply⟩ =
      if Exchange.isSuccess ⟨.run config.createCommand options, reply⟩ then
        insert config.cluster.name clusters
      else clusters := by
  simp [effect, Exchange.runs]

theorem effect_delete (clusters : Finset String) (options : RunOptions)
    (reply : Except SystemError CommandOutput) :
    config.effect clusters ⟨.run config.deleteCommand options, reply⟩ =
      if Exchange.isSuccess ⟨.run config.deleteCommand options, reply⟩ then
        clusters.erase config.cluster.name
      else clusters := by
  have other : config.deleteCommand ≠ config.createCommand := by
    simp [Config.deleteCommand, Config.createCommand, Config.clusterCommand,
      Config.command]
  simp [effect, Exchange.runs, other]

/-- Only what matters to the life of a cluster has an effect. -/
theorem replay_life (clusters : Finset String) (trace : List Exchange) :
    config.replay clusters (life trace) = config.replay clusters trace := by
  induction trace generalizing clusters with
  | nil => rfl
  | cons exchange trace ih =>
      cases isVital : exchange.request.isVital with
      | true => simpa [life, replay, isVital] using ih _
      | false =>
          have same : config.effect clusters exchange = clusters :=
            effect_eq_self (Request.not_managesClusters isVital) clusters
          simpa [life, replay, isVital, same] using ih clusters

theorem along_life {holds : Finset String → Exchange → Prop}
    (ofIdle : ∀ clusters exchange, exchange.request.isVital = false → holds
        clusters exchange) (clusters : Finset String) (trace : List Exchange) :
    config.Along holds clusters (life trace) ↔
      config.Along holds clusters trace := by
  induction trace generalizing clusters with
  | nil => rfl
  | cons exchange trace ih =>
      cases isVital : exchange.request.isVital with
      | true => simpa [life, Along, isVital] using fun _ => ih _
      | false =>
          have same : config.effect clusters exchange = clusters :=
            effect_eq_self (Request.not_managesClusters isVital) clusters
          simpa [life, Along, isVital, same, ofIdle clusters exchange isVital]
            using ih clusters

theorem Along.of_split {holds : Finset String → Exchange → Prop}
    {clusters : Finset String}
    {early late : List Exchange} {exchange : Exchange}
    (along : config.Along holds clusters (early ++ exchange :: late)) :
    holds (config.replay clusters early) exchange := by
  induction early generalizing clusters with
  | nil => exact along.1
  | cons first early ih => exact ih along.2

end Config

/-! ## What the tool does, and what a trace tells of it -/

def Invocation.createsCluster (invocation : Invocation) : Bool :=
  ["create", "cluster"].isPrefixOf invocation.arguments

/-- Whether a command is run that creates a cluster. -/
def Exchange.isCreation : Exchange → Bool
  | ⟨.run invocation _, _⟩ => invocation.createsCluster
  | _ => false

namespace Config

variable (config : Config)

def Told (clusters : Finset String) (exchange : Exchange) : Prop :=
  ∀ reply output, exchange = ⟨.run config.listCommand .captured, reply⟩ →
    config.listCommand.result .captured reply = .ok output →
    (ClusterState.ofListing config.cluster.name output.stdout = .present ↔
      config.cluster.name ∈ clusters)

/-- The cluster is not created while it exists. -/
def CreatesAnew (clusters : Finset String) (exchange : Exchange) : Prop :=
  exchange.isCreation = true → config.cluster.name ∉ clusters

/-- Clusters are managed by the two commands of the configuration alone. -/
def Manages (exchange : Exchange) : Prop :=
  exchange.request.managesClusters = true →
    exchange.runs config.createCommand = true ∨
    exchange.runs config.deleteCommand = true

end Config

namespace ClusterTool

variable {surroundings : Surroundings σ} {config : Config}
  (tool : ClusterTool surroundings config.tools.cluster)

include tool

theorem clusters_next {exchange : Exchange} {state : σ}
    (replied : exchange = surroundings.exchange exchange.request state)
    (manages : config.Manages exchange) :
    tool.clusters (surroundings.next exchange.request state) =
      config.effect (tool.clusters state) exchange := by
  cases managing : exchange.request.managesClusters with
  | false => rw [tool.keeps _ _ managing, Config.effect_eq_self managing]
  | true =>
      obtain ⟨request, reply⟩ := exchange
      cases request with
      | run invocation options =>
          obtain rfl :
            reply = (surroundings.reply (.run invocation options) state).1 := by
            simpa [Surroundings.exchange] using replied
          -- It is one of the two commands for which the tool says what they do.
          have commands := manages managing
          simp only [Exchange.runs, decide_eq_true_eq] at commands
          rcases commands with rfl | rfl
          · rw [Config.effect_create]
            exact tool.creates config.cluster.configFile.text
              config.cluster.name
              (some config.root) options state
          · rw [Config.effect_delete]
            exact tool.deletes config.cluster.name (some config.root)
              options state
      | _ => cases managing

theorem told {exchange : Exchange} {state : σ}
    (replied : exchange = surroundings.exchange exchange.request state) :
    config.Told (tool.clusters state) exchange := by
  rintro reply output rfl succeeded
  obtain rfl : reply =
    (surroundings.reply (.run config.listCommand .captured) state).1 := by
    simpa [Surroundings.exchange] using replied
  obtain ⟨isReply, isSuccess⟩ := Invocation.result_eq_ok_iff.mp succeeded
  obtain ⟨names, prints, same⟩ :=
    tool.lists (some config.root) state output isReply (isSuccess rfl)
  have areNames : ∀ name ∈ names, isClusterName name = true :=
    fun name member => tool.areNames state name ((same name).mp member)
  rw [prints.ofListing_eq_present_iff areNames, same]

/-- Replaying a trace simulates the tool, so all listings in it tell the
truth. -/
theorem simulates {trace : List Exchange} {state : σ}
    (replies : surroundings.Replies trace state)
    (manages : ∀ exchange ∈ trace, config.Manages exchange) :
    tool.clusters (surroundings.after trace state) =
        config.replay (tool.clusters state) trace ∧
      config.Along config.Told (tool.clusters state) trace := by
  induction trace generalizing state with
  | nil => exact ⟨rfl, trivial⟩
  | cons exchange trace ih =>
      have here :=
        tool.clusters_next replies.1 (manages exchange List.mem_cons_self)
      obtain ⟨after, along⟩ :=
        ih replies.2 fun other member =>
          manages other (List.mem_cons_of_mem _ member)
      rw [here] at after along
      exact ⟨after, tool.told replies.1, along⟩

end ClusterTool

end ClusterConsole
