import ClusterConsole.Operation.Deployment
import ClusterConsole.Operation.Lifecycle
import ClusterConsole.Operation.Observation
import ClusterConsole.Operation.Prerequisites
import ClusterConsole.Proofs.Procedure.Ensures

/-!
# Sessions

A session is any finite number of operations, one after the other, against the
same surroundings.  A failed operation does not end it.  What each operation
ensures for itself holds of all of them in every session.
-/

namespace ClusterConsole

/-- The operations that have an outcome. -/
inductive Undertaking where
  | bootstrap
  | teardown
  | deployInfrastructure
  | deployServices
  | ship (query : String)
  | applyConfig
deriving DecidableEq, Repr

def Undertaking.operation (config : Config) : Undertaking → Operation Outcome
  | .bootstrap => Operation.bootstrap config
  | .teardown => Operation.teardown config
  | .deployInfrastructure => Operation.deployInfrastructure config
  | .deployServices => Operation.deployServices config
  | .ship query => Operation.ship config query
  | .applyConfig => Operation.applyConfig config

/-- Everything that the console can be asked to do, to change something or to
observe. -/
inductive Call where
  | undertake (undertaking : Undertaking)
  | buildAll
  | writeSecret
  | checkPrerequisites
  | status
  | metrics (scope : MetricsScope)
  | findPod (query : String)
  | streamLogs (pod : String) (follow : Bool)
deriving DecidableEq, Repr

namespace Call

@[reducible] def Result : Call → Type
  | .undertake _ => Outcome
  | .buildAll => ImageReport
  | .writeSecret => WrittenSecret
  | .checkPrerequisites => Unit
  | .status => String
  | .metrics _ => String
  | .findPod _ => Option String
  | .streamLogs _ _ => Unit

def operation (config : Config) : (call : Call) → Operation call.Result
  | .undertake undertaking => undertaking.operation config
  | .buildAll => Operation.buildAll config
  | .writeSecret => Operation.materializeSecret config
  | .checkPrerequisites => Operation.checkPrerequisites config
  | .status => Operation.status config
  | .metrics scope => Operation.metrics config scope
  | .findPod query => Operation.findPod config query
  | .streamLogs pod follow => Operation.streamLogs config pod follow

end Call

namespace Session

/-- One operation of a session, and how it went. -/
structure Entry (σ : Type) where
  call : Call
  run : Run σ (Except Failure call.Result)

/-- The operations of a session, each one from where the one before has left the
surroundings. -/
def entries (surroundings : Surroundings σ) (config : Config) :
    List Call → σ → List (Entry σ)
  | [], _ => []
  | call :: rest, state =>
    let run := (call.operation config).toProcedure.run surroundings state
    ⟨call, run⟩ :: entries surroundings config rest run.state

/-- What every operation ensures holds of each operation of a session. -/
theorem entries_ensure {config : Config}
    {after : (call : Call) → List Exchange → Except Failure call.Result → Prop}
    (ensures : ∀ call : Call,
      Operation.Ensures (call.operation config) (after call))
    (surroundings : Surroundings σ) (calls : List Call) (state : σ) :
    ∀ entry ∈ entries surroundings config calls state,
      after entry.call entry.run.trace entry.run.value := by
  induction calls generalizing state with
  | nil =>
      intro entry member
      cases member
  | cons call rest ih =>
      intro entry member
      rcases List.mem_cons.mp member with here | later
      · subst here
        exact (ensures call).run surroundings state
      · exact ih _ entry later

/-- An entry of a session, with the state that the operation began in. -/
structure Episode (σ : Type) extends Entry σ where
  before : σ

/-- The entries of a session with the states between them. -/
def episodes (surroundings : Surroundings σ) (config : Config) :
    List Call → σ → List (Episode σ)
  | [], _ => []
  | call :: rest, state =>
    let run := (call.operation config).toProcedure.run surroundings state
    ⟨⟨call, run⟩, state⟩ :: episodes surroundings config rest run.state

/-- What holds of every run of an operation holds of each operation of a
session. -/
theorem episodes_hold {surroundings : Surroundings σ} {config : Config}
    {holds : (call : Call) → σ → Run σ (Except Failure call.Result) → Prop}
    (everyRun : ∀ call state,
      holds call state ((call.operation config).toProcedure.run
          surroundings state))
    (calls : List Call) (state : σ) :
    ∀ episode ∈ episodes surroundings config calls state,
      holds episode.call episode.before episode.run := by
  induction calls generalizing state with
  | nil =>
      intro episode member
      cases member
  | cons call rest ih =>
      intro episode member
      rcases List.mem_cons.mp member with here | later
      · subst here
        exact everyRun call state
      · exact ih _ episode later

end Session

end ClusterConsole
