import ClusterConsole.Proofs.Procedure.AsksOnly
import ClusterConsole.Proofs.Secret.Writing
import ClusterConsole.Proofs.Session.Steps

/-!
# Fresh secrets

Whatever has become of the environment source since the last operation, the
common configuration is applied with a secret made from the source as it was
when the operation began.  Where the secret cannot be written, nothing is
applied any more.
-/

namespace ClusterConsole

namespace Request

def isFile : Request → Bool
  | .file _ => true
  | _ => false

def isApplication : Request → Bool
  | .run invocation _ => invocation.arguments.head? = some "apply"
  | _ => false

end Request

/-- The error that keeps the secret from being written.  That there is no
environment source is none. -/
def Exchange.fileError? : Exchange → Option SystemError
  | ⟨.file (.readText _), .error cause⟩ =>
    if cause = .notFound then none else some cause
  | ⟨.file (.makeDirectories _), .error cause⟩ => some cause
  | ⟨.file (.stage _ _), .error cause⟩ => some cause
  | ⟨.file (.promote _ _), .error cause⟩ => some cause
  | _ => none

/-- The manifests that are applied in a trace, in order. -/
def applications (trace : List Exchange) : List Request :=
  (trace.map Exchange.request).filter Request.isApplication

def Config.application (config : Config) (manifest : Path) : Request :=
  .run (config.applyCommand manifest) .checked

theorem applications_append (early late : List Exchange) :
    applications (early ++ late) = applications early ++ applications late := by
  simp [applications]

theorem applications_eq_nil {trace : List Exchange}
    (none : ∀ exchange ∈ trace, exchange.request.isApplication = false) :
    applications trace = [] := by
  simpa [applications] using none

section Write

variable {source target : Path} {namespaceName contents : String}
  {exchanges : List Exchange}
  {failure? : Option Failure} {exchange : Exchange}

theorem SecretWrite.applications_eq_nil
    (write : SecretWrite source target namespaceName exchanges failure?) :
    applications exchanges = [] := by
  apply ClusterConsole.applications_eq_nil
  intro exchange member
  obtain ⟨asked, reply, rfl⟩ := write.exchange_eq member
  rfl

theorem Replacement.failure?_eq
    (replacement : Replacement target contents exchanges failure?)
    (member : exchange ∈ exchanges) {cause : SystemError}
    (fails : exchange.fileError? = some cause) :
    failure? = some (.system cause) := by
  cases replacement with
  | _ => grind [Exchange.fileError?]

theorem SecretWrite.failure?_eq
    (write : SecretWrite source target namespaceName exchanges failure?)
    (member : exchange ∈ exchanges) {cause : SystemError}
    (fails : exchange.fileError? = some cause) :
    failure? = some (.system cause) := by
  cases write with
  | unread => grind [Exchange.fileError?]
  | @rewritten reply _ _ _ read replacement =>
      rcases List.mem_cons.mp member with rfl | later
      · cases reply with
        | ok contents => cases fails
        | error own =>
            by_cases absent : own = .notFound
            · simp [Exchange.fileError?, absent] at fails
            · simp [sourceText?, absent] at read
      · exact replacement.failure?_eq later fails

end Write

/-! ## Parts of operations that apply manifests -/

/-- Some manifests were applied in order, up to the failure if there was one,
and the file system was not asked for anything. -/
structure Applied (config : Config) (manifests : List Path)
    (trace : List Exchange) (failure? : Option Failure) : Prop where
  noFile : ∀ exchange ∈ trace, exchange.request.isFile = false
  inOrder : applications trace <+: manifests.map config.application
  complete :
    failure? = none → applications trace = manifests.map config.application

section Applied

variable {config : Config} {front back : List Path} {early late : List Exchange}
  {failure? : Option Failure}

theorem Applied.append (first : Applied config front early none)
    (second : Applied config back late failure?) :
    Applied config (front ++ back) (early ++ late) failure? where
  noFile exchange member := by
    rcases List.mem_append.mp member with inEarly | inLate
    · exact first.noFile exchange inEarly
    · exact second.noFile exchange inLate
  inOrder := by
    rw [applications_append, first.complete rfl, List.map_append]
    exact List.prefix_append_right_inj _ |>.mpr second.inOrder
  complete finishes := by
    rw [applications_append, first.complete rfl, second.complete finishes,
      List.map_append]

theorem Applied.stopped {failure : Failure}
    (first : Applied config front early (some failure)) :
    Applied config (front ++ back) early (some failure) where
  noFile := first.noFile
  inOrder := by
    rw [List.map_append]
    exact first.inOrder.trans (List.prefix_append _ _)
  complete := nofun

end Applied

/-- How an operation goes that writes the secret between two parts which apply
manifests: those before the common configuration, and those from it on. -/
inductive Course (config : Config) (front back : List Path) :
    List Exchange → Option Failure → Prop where
  | stopped {early : List Exchange} {failure : Failure}
      (before : Applied config front early (some failure)) :
      Course config front back early (some failure)
  | unwritten {early exchanges : List Exchange} {failure : Failure}
      (before : Applied config front early none)
      (write : SecretWrite config.sourcePath config.secretPath
          config.namespaceName exchanges
        (some failure)) :
      Course config front back (early ++ exchanges) (some failure)
  | written {early exchanges late : List Exchange} {failure? : Option Failure}
      (before : Applied config front early none)
      (write : SecretWrite config.sourcePath config.secretPath
          config.namespaceName exchanges none)
      (after : Applied config (config.layout.common :: back) late failure?) :
      Course config front back (early ++ (exchanges ++ late)) failure?

namespace Operation

def Applies (config : Config) (manifests : List Path)
    (operation : Operation α) : Prop :=
  Ensures operation fun trace result =>
    Applied config manifests trace (failureOf result)

section Rules

variable {config : Config} {front middle back : List Path}

/-- Nothing is applied by a part that asks for no such thing. -/
theorem AsksOnly.applies {operation : Operation α}
    (asksOnly : AsksOnly
      (fun request => request.isFile = false ∧ request.isApplication = false)
        operation) :
    Applies config [] operation := by
  apply Ensures.mono asksOnly
  intro trace result others
  have nothing : applications trace = [] :=
    applications_eq_nil fun exchange member => (others exchange member).2
  refine ⟨fun exchange member => (others exchange member).1, ?_,
    fun _ => nothing⟩
  rw [nothing]
  exact List.nil_prefix

end Rules

end Operation

/-! ## Fresh on every disk -/

namespace Disk

variable {surroundings : Surroundings σ}

/-- What a path leads to is changed by requests to the file system only. -/
def IsSteady (disk : Disk surroundings) (path : Path) : Prop :=
  ∀ request state, request.isFile = false →
    (disk.tree (surroundings.next request state)).lookup path =
      (disk.tree state).lookup path

theorem IsSteady.after {disk : Disk surroundings} {path : Path}
    (isSteady : disk.IsSteady path) {trace : List Exchange}
    (noFile : ∀ exchange ∈ trace, exchange.request.isFile = false) (state : σ) :
    (disk.tree (surroundings.after trace state)).lookup path =
      (disk.tree state).lookup path := by
  induction trace generalizing state with
  | nil => rfl
  | cons exchange rest ih =>
      have later := ih (fun other member => noFile other (.tail _ member))
        (surroundings.next exchange.request state)
      exact later.trans (isSteady _ state (noFile exchange (.head _)))

end Disk

section Fresh

open FileTree

variable {surroundings : Surroundings σ} {disk : Disk surroundings}
  {config : Config}
  {front back : List Path} {before : σ} {trace : List Exchange}
  {failure? : Option Failure}

theorem Course.inOrder (course : Course config front back trace failure?) :
    applications trace <+:
      (front ++ config.layout.common :: back).map config.application ∧
      (failure? = none → applications trace =
        (front ++ config.layout.common :: back).map config.application) := by
  cases course with
  | stopped before => exact ⟨before.stopped.inOrder, nofun⟩
  | unwritten before write =>
      rw [applications_append, write.applications_eq_nil, List.append_nil,
        before.complete rfl, List.map_append]
      exact ⟨List.prefix_append _ _, nofun⟩
  | written before write after =>
      rw [applications_append, applications_append, write.applications_eq_nil,
        List.nil_append, ← applications_append]
      exact ⟨(before.append after).inOrder, (before.append after).complete⟩

end Fresh

namespace Session

end Session

end ClusterConsole
