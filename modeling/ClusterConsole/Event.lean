import ClusterConsole.Outcome

/-!
# Events

While an operation runs, it announces each step as it begins and as it is done,
and each step that did not succeed.
-/

namespace ClusterConsole

/-- The kinds of steps. -/
inductive Action where
  | createCluster
  | deleteCluster
  | installIngress
  | waitReady
  | createNamespace
  | apply
  | restart
  | buildImage
  | loadImage
  | writeSecrets
deriving DecidableEq, Repr

namespace Action

def all : List Action :=
  [.createCluster, .deleteCluster, .installIngress, .waitReady,
    .createNamespace, .apply, .restart, .buildImage, .loadImage, .writeSecrets]

def verb : Action → String
  | .createCluster => "Creating"
  | .deleteCluster => "Deleting"
  | .installIngress => "Installing"
  | .waitReady => "Waiting for"
  | .createNamespace => "Creating"
  | .apply => "Applying"
  | .restart => "Restarting"
  | .buildImage => "Building"
  | .loadImage => "Loading"
  | .writeSecrets => "Writing"

def done : Action → String
  | .createCluster => "Created"
  | .deleteCluster => "Deleted"
  | .installIngress => "Installed"
  | .waitReady => "Ready"
  | .createNamespace => "Created"
  | .apply => "Applied"
  | .restart => "Restarted"
  | .buildImage => "Built"
  | .loadImage => "Loaded"
  | .writeSecrets => "Wrote"

end Action

/-- What an operation announces. -/
inductive Event where
  | started (action : Action) (target : String)
  | finished (action : Action) (target : String)
  | notice (message : String)
  | degraded (warning : Warning)
deriving DecidableEq, Repr

def Event.warning? : Event → Option Warning
  | .degraded warning => some warning
  | _ => none

/-- Listeners, each with the events that it has heard.  Every listener hears
every event from its registration on. -/
structure Audience where
  heard : List (List Event)
deriving DecidableEq, Repr

namespace Audience

def empty : Audience := ⟨[]⟩

/-- One more listener, who has heard nothing yet. -/
def register (audience : Audience) : Audience :=
  ⟨audience.heard ++ [[]]⟩

def announce (audience : Audience) (event : Event) : Audience :=
  ⟨audience.heard.map (· ++ [event])⟩

def size (audience : Audience) : Nat :=
  audience.heard.length

end Audience

end ClusterConsole
