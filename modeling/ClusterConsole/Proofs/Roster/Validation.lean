import ClusterConsole.Proofs.Roster.Resolution
import ClusterConsole.Proofs.Text.Lines

/-!
# What is no roster

A list of services is refused for the first entry that does not fit: all names
are gone through before the first alias, and what is wrong with an entry depends
on the entries before it.  Whether a list is refused does not depend on its
order, and in a list that is not refused a query has at most one service to
find.
-/

namespace ClusterConsole.Roster

/-! ## First faults -/

/-- What is wrong with a name that comes after `earlier` ones. -/
inductive NameFault (earlier : List String) (name : String) : Fault → Prop where
  | blank (isBlank : Text.isAllBlank name = true) :
      NameFault earlier name .blankName
  | repeated (notBlank : Text.isAllBlank name = false)
      (member : name ∈ earlier) :
      NameFault earlier name (.repeatedName name)

/-- What is wrong with an alias that comes after `earlier` ones, where there are
the `names`. -/
inductive AliasFault (names earlier : List String) (entry : String) :
    Fault → Prop where
  | blank (isBlank : Text.isAllBlank entry = true) :
      AliasFault names earlier entry .blankAlias
  | isName (notBlank : Text.isAllBlank entry = false) (member : entry ∈ names) :
      AliasFault names earlier entry (.aliasIsName entry)
  | repeated (notBlank : Text.isAllBlank entry = false)
      (notName : entry ∉ names)
      (member : entry ∈ earlier) :
        AliasFault names earlier entry (.repeatedAlias entry)

/-- Something is wrong with an entry of a list, and it is the first such
entry. -/
def FirstFault (hasFault : List String → String → Fault → Prop)
    (entries : List String) (fault : Fault) : Prop :=
  ∃ place entry, entries[place]? = some entry ∧
    hasFault (entries.take place) entry fault ∧
    ∀ before < place, ∀ other, entries[before]? = some other →
      ∀ fault, ¬ hasFault (entries.take before) other fault

section Scan

variable {hasFault : List String → String → Fault → Prop} {entry : String}
  {rest : List String}
  {fault : Fault}

theorem not_firstFault_nil : ¬ FirstFault hasFault [] fault := by
  intro first
  obtain ⟨place, entry, found, -⟩ := first
  simp at found

theorem firstFault_of_wrong (wrong : hasFault [] entry fault) :
    FirstFault hasFault (entry :: rest) fault :=
  ⟨0, entry, rfl, wrong, by simp⟩

theorem exists_wrong_of_firstFault {other : Fault}
    (wrong : hasFault [] entry other)
    (first : FirstFault hasFault (entry :: rest) fault) :
    hasFault [] entry fault := by
  obtain ⟨place, found, isThere, hasIt, before⟩ := first
  cases place with
  | zero =>
      cases isThere
      exact hasIt
  | succ place => exact absurd wrong (before 0 (by simp) entry rfl other)

theorem firstFault_cons_iff (passes : ∀ fault, ¬ hasFault [] entry fault) :
    FirstFault hasFault (entry :: rest) fault ↔
      FirstFault (fun earlier => hasFault (entry :: earlier)) rest fault := by
  constructor
  · intro first
    obtain ⟨place, found, isThere, wrong, before⟩ := first
    cases place with
    | zero =>
        cases isThere
        exact absurd wrong (passes fault)
    | succ place =>
        refine ⟨place, found, isThere, wrong, ?_⟩
        intro earlier isEarlier
        exact before (earlier + 1) (by simpa using isEarlier)
  · intro first
    obtain ⟨place, found, isThere, wrong, before⟩ := first
    refine ⟨place + 1, found, isThere, wrong, ?_⟩
    intro earlier isEarlier other otherThere
    cases earlier with
    | zero =>
        cases otherThere
        exact passes
    | succ earlier =>
      exact before earlier (by simpa using isEarlier) other otherThere

/-- What scans a list, remembers what it has passed and stops at the first fault
finds the first fault. -/
theorem scan_eq_some_iff (scan : List String → List String → Option Fault)
    (ends : ∀ earlier, scan earlier [] = none)
    (stops : ∀ earlier entry rest fault, hasFault earlier entry fault →
      scan earlier (entry :: rest) = some fault)
    (goesOn : ∀ earlier entry rest, (∀ fault, ¬ hasFault earlier entry fault) →
      scan earlier (entry :: rest) = scan (earlier ++ [entry]) rest)
    (entries : List String) :
    scan [] entries = some fault ↔ FirstFault hasFault entries fault := by
  -- The scan begins with nothing passed, but the induction needs it from
  -- anywhere.
  suffices fromAny : ∀ earlier, scan earlier entries = some fault ↔
      FirstFault (fun passed => hasFault (earlier ++ passed)) entries fault from
      fromAny []
  induction entries with
  | nil =>
      intro earlier
      simp [ends, not_firstFault_nil]
  | cons entry rest ih =>
      intro earlier
      by_cases wrong : ∃ other, hasFault earlier entry other
      · obtain ⟨other, otherWrong⟩ := wrong
        constructor
        · intro found
          rw [stops earlier entry rest other otherWrong] at found
          cases found
          exact firstFault_of_wrong (by simpa using otherWrong)
        · intro first
          have wrong :=
            exists_wrong_of_firstFault (by simpa using otherWrong) first
          exact stops earlier entry rest fault (by simpa using wrong)
      · have passes : ∀ fault, ¬ hasFault earlier entry fault :=
          not_exists.mp wrong
        rw [goesOn earlier entry rest passes, ih,
          firstFault_cons_iff (by simpa using passes)]
        simp

end Scan

theorem nameFault?_eq_some_iff {names : List String} {fault : Fault} :
    nameFault? [] names = some fault ↔ FirstFault NameFault names fault := by
  apply scan_eq_some_iff fun earlier => nameFault? earlier.reverse
  · intro earlier
    rfl
  · intro earlier name rest fault wrong
    cases wrong with
    | blank isBlank => simp [nameFault?, isBlank]
    | repeated notBlank member => simp [nameFault?, notBlank, member]
  · intro earlier name rest passes
    have notBlank : Text.isAllBlank name = false := by
      simpa using fun isBlank => passes _ (.blank isBlank)
    have notRepeated : name ∉ earlier := fun member =>
      passes _ (.repeated notBlank member)
    simp [nameFault?, notBlank, notRepeated]

theorem aliasFault?_eq_some_iff {names aliases : List String} {fault : Fault} :
    aliasFault? names [] aliases = some fault ↔
      FirstFault (AliasFault names) aliases fault := by
  apply scan_eq_some_iff fun earlier => aliasFault? names earlier.reverse
  · intro earlier
    rfl
  · intro earlier entry rest fault wrong
    cases wrong with
    | blank isBlank => simp [aliasFault?, isBlank]
    | isName notBlank member => simp [aliasFault?, notBlank, member]
    | repeated notBlank notName member =>
      simp [aliasFault?, notBlank, notName, member]
  · intro earlier entry rest passes
    have notBlank : Text.isAllBlank entry = false := by
      simpa using fun isBlank => passes _ (.blank isBlank)
    have notName : entry ∉ names := fun member =>
      passes _ (.isName notBlank member)
    have notRepeated : entry ∉ earlier := fun member =>
      passes _ (.repeated notBlank notName member)
    simp [aliasFault?, notBlank, notName, notRepeated]

/-- Why a list of services is no roster.  An alias counts only if nothing is
wrong with any name. -/
inductive Refused (services : List Service) : Fault → Prop where
  | byName {fault : Fault}
      (first : FirstFault NameFault (namesOf services) fault) :
      Refused services fault
  | byAlias {fault : Fault}
      (namesNotBlank : ∀ name ∈ namesOf services, Text.isAllBlank name = false)
      (namesNodup : (namesOf services).Nodup)
      (first : FirstFault (AliasFault (namesOf services)) (aliasesOf services)
          fault) :
      Refused services fault

theorem fault?_eq_some_iff {services : List Service} {fault : Fault} :
    fault? services = some fault ↔ Refused services fault := by
  have parts : fault? services = some fault ↔
      nameFault? [] (namesOf services) = some fault ∨
        nameFault? [] (namesOf services) = none ∧
          aliasFault? (namesOf services) [] (aliasesOf services) =
            some fault := by
    simp [fault?]
  rw [parts, nameFault?_eq_some_iff, nameFault?_eq_none_iff,
    aliasFault?_eq_some_iff]
  constructor
  · intro either
    cases either with
    | inl first => exact .byName first
    | inr both =>
        obtain ⟨⟨names, nodup⟩, first⟩ := both
        exact .byAlias (fun name member => (names name member).1) nodup first
  · intro refused
    cases refused with
    | byName first => exact .inl first
    | byAlias notBlank nodup first =>
        exact .inr ⟨⟨fun name member => ⟨notBlank name member, by simp⟩,
            nodup⟩, first⟩

theorem ofServices_eq_error_iff {services : List Service} {fault : Fault} :
    ofServices services = .error fault ↔ Refused services fault := by
  rw [← fault?_eq_some_iff]
  unfold ofServices
  split
  · rename_i none
    simp [none]
  · rename_i other some
    simp [some]

/-! ## What the order does not change -/

theorem exists_ofServices_iff {services : List Service} :
    (∃ roster, ofServices services = .ok roster) ↔ Distinct services := by
  rw [← fault?_eq_none_iff]
  unfold ofServices
  split
  · rename_i none
    simp [none]
  · rename_i fault some
    simp [some]

theorem Distinct.of_perm {services others : List Service}
    (distinct : Distinct services) (reordered : others.Perm services) :
    Distinct others := by
  have names : (namesOf others).Perm (namesOf services) := reordered.map _
  have aliases : (aliasesOf others).Perm (aliasesOf services) :=
    reordered.filterMap _
  constructor
  · intro name member
    exact distinct.name_not_blank name (names.mem_iff.mp member)
  · exact names.nodup_iff.mpr distinct.names_nodup
  · intro entry member
    exact distinct.alias_not_blank entry (aliases.mem_iff.mp member)
  · intro entry member isName
    exact distinct.alias_not_name entry (aliases.mem_iff.mp member)
      (names.mem_iff.mp isName)
  · exact aliases.nodup_iff.mpr distinct.aliases_nodup

/-! ## One service to find -/

section Lookup

variable (roster : Roster) (query : String)

def candidates : List Service :=
  roster.services.filter fun service => service.isKnownAs (Text.trim query)

theorem services_nodup : roster.services.Nodup :=
  List.Pairwise.of_map Service.name
    (fun _ _ unequal same => unequal (congrArg _ same))
    roster.distinct.names_nodup

theorem length_candidates_le_one : (roster.candidates query).length ≤ 1 := by
  have nodup : (roster.candidates query).Nodup := roster.services_nodup.filter _
  have agree :
      ∀ service ∈ roster.candidates query, ∀ other ∈ roster.candidates query,
      other = service := by
    intro service member other otherMember
    rw [candidates, List.mem_filter, decide_eq_true_iff] at member otherMember
    exact roster.distinct.eq_of_isKnownAs member.1 otherMember.1 member.2
      otherMember.2
  cases found : roster.candidates query with
  | nil => simp
  | cons service rest =>
      cases rest with
      | nil => simp
      | cons other rest =>
          rw [found] at nodup agree
          have same := agree service (by simp) other (by simp)
          simp [same] at nodup

theorem resolve?_eq_head? :
    roster.resolve? query = (roster.candidates query).head? := by
  cases found : roster.resolve? query with
  | none =>
      have unknown := resolve?_eq_none_iff.mp found
      have none : roster.candidates query = [] := by
        simpa [candidates, List.filter_eq_nil_iff] using unknown
      rw [none, List.head?_nil]
  | some service =>
      have known := resolve?_eq_some_iff.mp found
      have member : service ∈ roster.candidates query := by
        simpa [candidates, List.mem_filter] using known
      have short := roster.length_candidates_le_one query
      cases whole : roster.candidates query with
      | nil => simp [whole] at member
      | cons first rest =>
          rw [whole] at member short
          have alone : rest = [] := by simpa using short
          subst alone
          rw [List.mem_singleton] at member
          simp [member]

theorem resolve?_trim :
    roster.resolve? (Text.trim query) = roster.resolve? query := by
  simp only [resolve?, Text.trim_trim]

end Lookup

/-- A list of services is a roster exactly when its names and aliases are
distinct and not blank, in whatever order it is, and otherwise is refused for
its first fault.  In a roster a query finds the one service that there is for
it. -/
theorem ofServices_exact (services : List Service) :
    ((∃ roster, ofServices services = .ok roster) ↔ Distinct services) ∧
      (∀ fault, ofServices services = .error fault ↔ Refused services fault) ∧
      (∀ others : List Service, others.Perm services →
        ((∃ roster, ofServices others = .ok roster) ↔
          ∃ roster, ofServices services = .ok roster)) ∧
      ∀ roster, ofServices services = .ok roster → ∀ query,
        (services.filter fun service =>
          service.isKnownAs (Text.trim query)).length ≤ 1 ∧
          roster.resolve? query =
            (services.filter fun service =>
              service.isKnownAs (Text.trim query)).head? ∧
          roster.resolve? query = roster.resolve? (Text.trim query) := by
  refine ⟨exists_ofServices_iff, fun fault => ofServices_eq_error_iff, ?_, ?_⟩
  · intro others reordered
    rw [exists_ofServices_iff, exists_ofServices_iff]
    constructor
    · intro distinct
      exact distinct.of_perm reordered.symm
    · intro distinct
      exact distinct.of_perm reordered
  · intro roster accepted query
    rw [← services_of_ofServices accepted]
    exact ⟨roster.length_candidates_le_one query,
      roster.resolve?_eq_head? query, (roster.resolve?_trim query).symm⟩

/-- The standard services in another order are a roster too, and blanks do no
harm to a query. -/
theorem ofServices_exact_standard :
    (∃ roster, ofServices standardServices.reverse = .ok roster) ∧
      standard.resolve? " f\n" = standard.resolve? "frontend" ∧
      (standard.resolve? "frontend").map Service.alias? = some (some "f") := by
  obtain ⟨_, _, reorders, finds⟩ := ofServices_exact standardServices
  have accepted : ofServices standardServices = .ok standard := rfl
  refine ⟨(reorders _ (List.reverse_perm _)).mpr ⟨standard, accepted⟩, ?_, ?_⟩
  · rw [(finds standard accepted " f\n").2.1,
      (finds standard accepted "frontend").2.1]
    decide +kernel
  · rw [(finds standard accepted "frontend").2.1]
    decide +kernel

end ClusterConsole.Roster
