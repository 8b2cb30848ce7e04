import Mathlib
import ClusterConsole.Config.Source
import ClusterConsole.Proofs.Procedure.Ensures
import ClusterConsole.Proofs.Roster.Validation
import ClusterConsole.Rehearsal.Basic

/-!
# Valid configurations

Every configuration, wherever it comes from, has all that an operation relies
on.  Half of it is found out while a document is decoded, since there is no
roster with a fault, and the other half afterwards: what is missing then is told
in a fixed order, and only of a document that could be decoded.
-/

namespace ClusterConsole

namespace Config

/-- What a configuration has to have, apart from a roster without fault. -/
inductive Requirement where
  | namespaceName
  | registry
  | clusterName
  | tools
  | ingressTime
  | datastoreTime
  | services
deriving DecidableEq

namespace Requirement

/-- The requirements in the order in which they are looked at. -/
def all : List Requirement :=
  [.namespaceName, .registry, .clusterName, .tools, .ingressTime,
    .datastoreTime, .services]

theorem mem_all (requirement : Requirement) : requirement ∈ all := by
  cases requirement <;> decide

def IsMet (config : Config) : Requirement → Prop
  | .namespaceName => Text.isAllBlank config.namespaceName = false
  | .registry => Text.isAllBlank config.registry = false
  | .clusterName => Text.isAllBlank config.cluster.name = false
  | .tools =>
    Text.isAllBlank config.tools.cluster = false ∧
      Text.isAllBlank config.tools.control = false ∧
        Text.isAllBlank config.tools.build = false
  | .ingressTime => 1 ≤ config.readiness.ingress.timeoutSeconds
  | .datastoreTime => 1 ≤ config.readiness.datastore.timeoutSeconds
  | .services => config.roster.services ≠ []

instance (config : Config) : DecidablePred (IsMet config)
  | .namespaceName => inferInstanceAs (Decidable (_ = _))
  | .registry => inferInstanceAs (Decidable (_ = _))
  | .clusterName => inferInstanceAs (Decidable (_ = _))
  | .tools => inferInstanceAs (Decidable (_ ∧ _ ∧ _))
  | .ingressTime => inferInstanceAs (Decidable (_ ≤ _))
  | .datastoreTime => inferInstanceAs (Decidable (_ ≤ _))
  | .services => inferInstanceAs (Decidable (_ ≠ _))

def fault : Requirement → ConfigFault
  | .namespaceName => .missingField "namespace"
  | .registry => .missingField "registry_prefix"
  | .clusterName => .missingField "cluster.name"
  | .tools => .invalidValue "tools" "tool names must not be empty"
  | .ingressTime =>
    .invalidValue "readiness.ingress" "timeout_secs must be greater than 0"
  | .datastoreTime =>
    .invalidValue "readiness.datastore" "timeout_secs must be greater than 0"
  | .services => .invalidValue "services" "at least one service is required"

end Requirement

/-- A configuration has all that operations rely on. -/
structure Valid (config : Config) : Prop where
  meets : ∀ requirement, Requirement.IsMet config requirement
  distinct : Roster.Distinct config.roster.services

/-- The fault is that of a requirement that is not met, and those before it are
met. -/
def FirstUnmet (config : Config) (fault : ConfigFault) : Prop :=
  ∃ met unmet later, Requirement.all = met ++ unmet :: later ∧
    (∀ requirement ∈ met, Requirement.IsMet config requirement) ∧
    ¬ Requirement.IsMet config unmet ∧ unmet.fault = fault

section Fault

variable {config : Config} {fault : ConfigFault}

/-- The first of some requirements that is not met. -/
def firstUnmet? (config : Config) (requirements : List Requirement) :
    Option Requirement :=
  requirements.find? fun requirement =>
    !decide (Requirement.IsMet config requirement)

theorem firstUnmet?_cons (requirement : Requirement) (rest : List Requirement) :
    (firstUnmet? config (requirement :: rest)).map Requirement.fault =
      if Requirement.IsMet config requirement then
        (firstUnmet? config rest).map Requirement.fault
      else some requirement.fault := by
  by_cases isMet : Requirement.IsMet config requirement
  · simp [firstUnmet?, isMet]
  · simp [firstUnmet?, isMet]

theorem fault?_eq_firstUnmet? (config : Config) :
    config.fault? = (firstUnmet? config Requirement.all).map
      Requirement.fault := by
  simp only [Requirement.all, firstUnmet?_cons]
  have none : firstUnmet? config [] = none := rfl
  rw [none, fault?]
  simp only [Requirement.IsMet, Requirement.fault, Tools.required]
  grind

theorem fault?_eq_some_iff :
    config.fault? = some fault ↔ FirstUnmet config fault := by
  rw [fault?_eq_firstUnmet?, Option.map_eq_some_iff]
  constructor
  · intro found
    obtain ⟨unmet, isFirst, isFault⟩ := found
    obtain ⟨isUnmet, met, later, split, before⟩ :=
      List.find?_eq_some_iff_append.mp isFirst
    refine ⟨met, unmet, later, split, ?_, by simpa using isUnmet, isFault⟩
    intro requirement isMet
    simpa using before requirement isMet
  · intro first
    obtain ⟨met, unmet, later, split, before, isUnmet, isFault⟩ := first
    refine ⟨unmet, List.find?_eq_some_iff_append.mpr
        ⟨by simpa using isUnmet, met, later, split, ?_⟩,
      isFault⟩
    intro requirement isMet
    simpa using before requirement isMet

theorem fault?_eq_none_iff :
    config.fault? = none ↔
      ∀ requirement, Requirement.IsMet config requirement := by
  rw [fault?_eq_firstUnmet?, Option.map_eq_none_iff, firstUnmet?,
    List.find?_eq_none]
  constructor
  · intro met requirement
    simpa using met requirement requirement.mem_all
  · intro met requirement _
    simpa using met requirement

theorem checked_eq_ok_iff {other : Config} :
    config.checked = .ok other ↔
      other = config ∧ ∀ requirement, Requirement.IsMet config requirement := by
  rw [← fault?_eq_none_iff, checked]
  cases found : config.fault? with
  | none => simp [eq_comm]
  | some fault => simp

theorem checked_eq_error_iff :
    config.checked = .error fault ↔ FirstUnmet config fault := by
  rw [← fault?_eq_some_iff, checked]
  cases found : config.fault? with
  | none => simp
  | some other => simp

end Fault

/-! ## Documents -/

section Documents

open Toml (Value Mismatch)

variable {content : String} {entries : List (String × Value)} {config : Config}

theorem parse_of_entries (isDocument : Toml.parse? content = some entries)
    (decoded : ofEntries entries = .ok config) :
    parse content = config.checked := by
  simp [parse, isDocument, decoded]

theorem parse_of_mismatch {mismatch : Mismatch}
    (isDocument : Toml.parse? content = some entries)
    (fails : ofEntries entries = .error mismatch) :
    parse content = .error (.mismatch mismatch) := by
  simp [parse, isDocument, fails]

theorem valid_of_parse (accepted : parse content = .ok config) :
    Valid config := by
  rw [parse] at accepted
  split at accepted
  · cases accepted
  · split at accepted
    · cases accepted
    · obtain ⟨rfl, meets⟩ := checked_eq_ok_iff.mp accepted
      exact ⟨meets, config.roster.distinct⟩

theorem setAll_append {set : α → String → Value → Except Mismatch α} {start : α}
    (early late : List (String × Value)) :
    Decode.setAll set start (early ++ late) =
      Decode.setAll set start early >>= fun record =>
        Decode.setAll set record late :=
  List.foldlM_append

/-- A field that no record can be given makes a table a mismatch, though another
field before it may be the one that is reported. -/
theorem setAll_of_mismatch {set : α → String → Value → Except Mismatch α}
    {field : String × Value} {mismatch : Mismatch}
    (fails : ∀ record, set record field.1 field.2 = .error mismatch)
    {fields : List (String × Value)} (member : field ∈ fields) (start : α) :
    ∃ found, Decode.setAll set start fields = .error found := by
  -- On the fields, for any record: the fields before this one may have changed
  -- it.
  induction fields generalizing start with
  | nil => cases member
  | cons first rest ih =>
      rw [Decode.setAll, List.foldlM_cons]
      cases head : set start first.1 first.2 with
      | error found => exact ⟨found, rfl⟩
      | ok record =>
          cases member with
          | head =>
              rw [fails start] at head
              cases head
          | tail _ inRest => exact ih inRest record

theorem decode_of_refused {value : Value}
    {services : List Service} {fault : Roster.Fault}
    (listed : Decode.list Service.decode value = .ok services)
    (refused : Roster.Refused services fault) :
    Roster.decode value = .error (.rejected fault.message) := by
  have isRefused := Roster.ofServices_eq_error_iff.mpr refused
  rw [Roster.decode, listed]
  simp only [bind, Except.bind, isRefused]
  rfl

theorem setField_of_refused {value : Value}
    {services : List Service} {fault : Roster.Fault}
    (listed : Decode.list Service.decode value = .ok services)
    (refused : Roster.Refused services fault) (config : Config) :
    setField config "services" value = .error (.rejected fault.message) := by
  simp [setField, decode_of_refused listed refused, Except.map]

theorem ofEntries_of_refused {before after : List (String × Value)}
    {value : Value} {services : List Service} {fault : Roster.Fault}
    (listed : Decode.list Service.decode value = .ok services)
    (refused : Roster.Refused services fault)
    (decoded : ofEntries before = .ok config) :
    ofEntries (before ++ ("services", value) :: after) =
      .error (.rejected fault.message) := by
  rw [ofEntries] at decoded
  rw [ofEntries, setAll_append, decoded]
  show Decode.setAll setField config (("services", value) :: after) = _
  rw [Decode.setAll, List.foldlM_cons,
    setField_of_refused listed refused config]
  rfl

end Documents

/-! ## Where configurations come from -/

theorem valid_standard : Valid standard := by
  constructor
  · intro requirement
    cases requirement <;> decide +kernel
  · exact standard.roster.distinct

/-- Every configuration that an operation comes to is valid. -/
def YieldsValid (operation : Operation Config) : Prop :=
  Operation.Ensures operation fun _ result => ∀ config, result = .ok config →
    Valid config

theorem yieldsValid_load (path : Path) : YieldsValid (load path) := by
  apply Operation.ensures_bind
  apply Operation.ensures_request
  intro reply
  cases reply with
  | error cause =>
      apply Operation.ensures_throw
      intro config impossible
      cases impossible
  | ok content =>
      cases accepted : parse content with
      | error fault =>
          simp only [accepted]
          apply Operation.ensures_throw
          intro config impossible
          cases impossible
      | ok own =>
          simp only [accepted]
          apply Operation.ensures_pure
          intro config same
          cases same
          exact valid_of_parse accepted

theorem yieldsValid_discover (named : Option Path) :
    YieldsValid (discover named) := by
  cases named with
  | some path => exact yieldsValid_load path
  | none =>
      apply Operation.ensures_bind
      apply Operation.ensures_request
      intro isThere
      cases isThere with
      | true => exact yieldsValid_load customaryPath
      | false =>
          apply Operation.ensures_pure
          intro config same
          cases same
          exact valid_standard

open Toml (Value Mismatch) in
/-- Every configuration is valid that a text stands for, that is loaded from a
file, or that is discovered.  A document that can be decoded is accepted exactly
if it meets all requirements, and otherwise is refused for the first one that it
does not meet.  A list of services with a fault is a mismatch, wherever it
stands; it is the one reported if no entry before it is one. -/
theorem parse_valid :
    (∀ content config, parse content = .ok config → Valid config) ∧
      (∀ (σ : Type) (surroundings : Surroundings σ) (state : σ)
          (config : Config),
        (∀ path, ((load path).toProcedure.run surroundings state).value =
          .ok config →
          Valid config) ∧
        ∀ named, ((discover named).toProcedure.run surroundings state).value =
          .ok config →
          Valid config) ∧
      (∀ content entries config, Toml.parse? content = some entries →
        ofEntries entries = .ok config →
          (∀ other, parse content = .ok other ↔
            other = config ∧ ∀ requirement,
            Requirement.IsMet config requirement) ∧
          ∀ fault, parse content = .error fault ↔ FirstUnmet config fault) ∧
      ∀ content entries value services fault,
        Toml.parse? content = some entries →
        ("services", value) ∈ entries →
        Decode.list Service.decode value = .ok services →
        Roster.Refused services fault →
          (∃ mismatch, parse content = .error (.mismatch mismatch)) ∧
          ((∃ before after config, entries = before ++
              ("services", value) :: after ∧
              ofEntries before = .ok config) →
            parse content = .error (.mismatch (.rejected fault.message))) := by
  refine ⟨fun content config => valid_of_parse, ?_, ?_, ?_⟩
  · intro σ surroundings state config
    constructor
    · intro path loaded
      exact (yieldsValid_load path).run surroundings state config loaded
    · intro named discovered
      exact (yieldsValid_discover named).run surroundings state config
        discovered
  · intro content entries config isDocument decoded
    rw [parse_of_entries isDocument decoded]
    exact ⟨fun other => checked_eq_ok_iff, fun fault => checked_eq_error_iff⟩
  · intro content entries value services fault isDocument member listed refused
    constructor
    · obtain ⟨mismatch, fails⟩ :=
        setAll_of_mismatch (setField_of_refused listed refused) member standard
      exact ⟨mismatch, parse_of_mismatch isDocument fails⟩
    · intro goesSoFar
      obtain ⟨before, after, config, rfl, decoded⟩ := goesSoFar
      exact parse_of_mismatch isDocument
        (ofEntries_of_refused listed refused decoded)

/-- The empty document stands for the standard configuration, which is also the
one that is discovered where there are no files.  Of two requirements that a
document does not meet the first one is reported, and of a document with a fault
in its services nothing but this fault. -/
theorem parse_valid_unmet :
    (parse "" = .ok standard ∧ Valid standard) ∧
      (((discover none).toProcedure.run Rehearsal.performers
            (.ofScript .empty)).value =
          .ok standard ∧
        Valid standard) ∧
      parse "namespace = \" \"\n[tools]\nbuild = \"\"\n" =
        .error (.missingField "namespace") ∧
      parse "namespace = \"\"\n[[services]]\nname = \"a\"\nalias = \"a\"\n" =
        .error
          (.mismatch (.rejected (Roster.Fault.aliasIsName "a").message)) := by
  obtain ⟨valid, validRun, decides, refuses⟩ := parse_valid
  refine ⟨?_, ?_, ?_, ?_⟩
  · have empty : Toml.parse? "" = some [] := by cbv
    have accepted : parse "" = .ok standard :=
      ((decides "" [] standard empty rfl).1 standard).mpr ⟨rfl,
        valid_standard.meets⟩
    exact ⟨accepted, valid "" standard accepted⟩
  · have discovered :
        ((discover none).toProcedure.run Rehearsal.performers
            (.ofScript .empty)).value =
          .ok standard := rfl
    exact ⟨discovered, (validRun _ _ _ _).2 none discovered⟩
  · have blank : Toml.parse? "namespace = \" \"\n[tools]\nbuild = \"\"\n" =
        some [("namespace", .string " "),
          ("tools", .table [("build", .string "")])] := by cbv
    have decoded : ofEntries
        [("namespace", .string " "),
          ("tools", .table [("build", .string "")])] =
          .ok { standard with namespaceName := " ", tools :=
            { standard.tools with build := "" } } :=
      rfl
    apply ((decides _ _ _ blank decoded).2 _).mpr
    exact ⟨[], .namespaceName, _, rfl, by simp, by decide +kernel, rfl⟩
  · have aliased : Toml.parse?
        "namespace = \"\"\n[[services]]\nname = \"a\"\nalias = \"a\"\n" =
        some [("namespace", .string ""),
          ("services", .array
              [.table [("name", .string "a"), ("alias", .string "a")]])] := by
      cbv
    have listed : Decode.list Service.decode
        (.array [.table [("name", .string "a"), ("alias", .string "a")]]) =
          .ok [(Service.named "a").withAlias "a"] := rfl
    have refused :
        Roster.Refused [(Service.named "a").withAlias "a"] (.aliasIsName "a") :=
      Roster.fault?_eq_some_iff.mp (by decide +kernel)
    have decoded : ofEntries [("namespace", .string "")] =
        .ok { standard with namespaceName := "" } := rfl
    have member := List.mem_cons_of_mem ("namespace", Toml.Value.string "")
      (List.mem_singleton_self
        ("services",
          Toml.Value.array [.table [("name", .string "a"),
              ("alias", .string "a")]]))
    exact (refuses _ _ _ _ _ aliased member listed refused).2
      ⟨[("namespace", .string "")], [], _, rfl, decoded⟩

end Config

end ClusterConsole
