import ClusterConsole.Console.Perform

/-!
# The menu

Without a command the console shows a menu, carries out what the operator takes
from it, and shows it again.  A failure is reported and does not end this,
unless nothing else could succeed either.
-/

namespace ClusterConsole

/-- The entries of the menu. -/
inductive MenuEntry where
  | bootstrap
  | buildAll
  | deployInfrastructure
  | deployServices
  | ship
  | applyConfig
  | watchStatus
  | logs
  | nodeMetrics
  | podMetrics
  | teardown
  | exit
deriving DecidableEq, Repr, Inhabited

namespace MenuEntry

/-- The entries in the order of the menu. -/
def all : List MenuEntry :=
  [.bootstrap, .buildAll, .deployInfrastructure, .deployServices, .ship,
    .applyConfig, .watchStatus, .logs, .nodeMetrics, .podMetrics, .teardown,
    .exit]

def name : MenuEntry → String
  | .bootstrap => "Bootstrap Cluster"
  | .buildAll => "Build & Load All"
  | .deployInfrastructure => "Deploy Infrastructure"
  | .deployServices => "Deploy All Services"
  | .ship => "Build & Deploy Single"
  | .applyConfig => "Apply Config Changes"
  | .watchStatus => "Watch Status"
  | .logs => "View Logs"
  | .nodeMetrics => "Watch Node Metrics"
  | .podMetrics => "Watch Pod Metrics"
  | .teardown => "Teardown Cluster"
  | .exit => "Exit"

def description : MenuEntry → String
  | .bootstrap => "Create cluster and install ingress"
  | .buildAll => "Build all images and load them"
  | .deployInfrastructure => "Database, broker, cache"
  | .deployServices => "Every service and the ingress"
  | .ship => "Build, load and deploy one service"
  | .applyConfig => "Update config and secrets, restart"
  | .watchStatus => "Live view of pods and services"
  | .logs => "Logs for a service or data store"
  | .nodeMetrics => "Live node CPU and memory"
  | .podMetrics => "Live pod CPU and memory"
  | .teardown => "Delete the cluster"
  | .exit => ""

def nameColumns : Nat := 24

def item (voice : Voice) (entry : MenuEntry) : String :=
  entry.name ++ String.ofList
    (List.replicate (nameColumns - entry.name.length) ' ') ++ " " ++
    voice.mute entry.description

/-- The place of the entry that the menu starts at. -/
def start : Nat := all.idxOf .watchStatus

end MenuEntry

namespace Console

open Operation

def version : String := "0.1.0"

/-- Asks for one of some items; an answer there must be. -/
def select (items : List String) : Operation String := do
  let place? ← ofAnswer (← request (.choose "Select service" items 0 false))
  return (place?.bind fun place => items[place]?).getD ""

def dispatch (console : Console) : MenuEntry → Operation Unit
  | .bootstrap => console.perform .bootstrap
  | .buildAll => console.perform .build
  | .deployInfrastructure => console.perform .deployInfra
  | .deployServices => console.perform .deploy
  | .ship => do
    let service ← select console.config.roster.choices
    console.perform (.ship service)
  | .applyConfig => console.perform (.applyConfig false)
  | .watchStatus => console.perform (.status true)
  | .logs => do
    let target ← select console.config.allLogTargets
    let follows ← ofAnswer (← request (.inquire "Follow logs?" true))
    console.perform (.logs target follows)
  | .nodeMetrics => console.perform (.top .nodes true)
  | .podMetrics => console.perform (.top .pods true)
  | .teardown => console.perform .teardown
  | .exit => return ()

/-- Shows the menu again and again, but not more often than `rounds` allows. -/
def menuRounds (console : Console) : (rounds : Nat) → Operation Unit
  | 0 => return ()
  | rounds + 1 => do
    let items := MenuEntry.all.map (MenuEntry.item console.voice)
    let place? ← ofAnswer
      (← request (.choose "Select an option" items MenuEntry.start true))
    match place?.bind fun place => MenuEntry.all[place]? with
    | none => return ()
    | some .exit => return ()
    | some entry =>
      match ← result (console.dispatch entry) with
      | .ok () => console.menuRounds rounds
      | .error failure =>
        if failure.isFatal then throw failure
        console.say (Message.ofFailure failure)
        console.menuRounds rounds

def menu (console : Console) : Operation Unit := do
  console.say [.header version]
  console.menuRounds console.horizon
  console.say [.note "Goodbye!"]

end Console

end ClusterConsole
