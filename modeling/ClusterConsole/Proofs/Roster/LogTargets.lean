import ClusterConsole.Config.Source
import ClusterConsole.Operation.Observation
import ClusterConsole.Proofs.Procedure.Ensures
import ClusterConsole.Proofs.Roster.Resolution
import ClusterConsole.Proofs.Text.Lines
import ClusterConsole.Rehearsal.Basic

/-!
# Targets of logs

What is listed as a target of logs is the names of the services and the other
workloads that a configuration adds to them.  A query is trimmed and then taken
for an entry of the roster before it is taken for another workload, so a listed
workload need not be found by its own name: blanks around it hide it, and so
does a service that has the name for its alias.
-/

namespace ClusterConsole

namespace Config

variable {config : Config} {target query workload : String}

theorem mem_allLogTargets_iff :
    target ∈ config.allLogTargets ↔
      (∃ service ∈ config.roster.services, service.name = target) ∨
        target ∈ config.logTargets := by
  rw [allLogTargets, List.mem_append, List.mem_map]

theorem logTarget?_eq_some_iff :
    config.logTarget? (Text.trim query) = some workload ↔
      (∃ service ∈ config.roster.services,
        service.isKnownAs (Text.trim query) ∧ service.name = workload) ∨
      (∀ service ∈ config.roster.services,
        ¬ service.isKnownAs (Text.trim query)) ∧
        Text.trim query ∈ config.logTargets ∧ Text.trim query = workload := by
  cases found : config.roster.resolve? (Text.trim query) with
  | none =>
      have unknown := Roster.resolve?_eq_none_iff.mp found
      rw [Text.trim_trim] at unknown
      simp only [logTarget?, found, Option.ite_none_right_eq_some,
        Option.some.injEq]
      constructor
      · intro listed
        exact .inr ⟨unknown, listed⟩
      · rintro (⟨service, member, known, -⟩ | ⟨-, listed⟩)
        · exact absurd known (unknown service member)
        · exact listed
  | some service =>
      obtain ⟨member, known⟩ := Roster.resolve?_eq_some_iff.mp found
      rw [Text.trim_trim] at known
      simp only [logTarget?, found, Option.some.injEq]
      constructor
      · intro isName
        exact .inl ⟨service, member, known, isName⟩
      · rintro (⟨other, otherMember, otherKnown, isName⟩ | ⟨unknown, -⟩)
        · rw [← config.roster.distinct.eq_of_isKnownAs member otherMember known
              otherKnown]
          exact isName
        · exact absurd known (unknown service member)

/-- A listed target stands for itself if there are no blanks around it and it is
no alias.  Blanks around it do no harm only to a service that has what is left
of its name for an alias. -/
theorem logTarget?_self_iff (listed : target ∈ config.allLogTargets) :
    config.logTarget? (Text.trim target) = some target ↔
      (Text.trim target = target ∧
        target ∉ Roster.aliasesOf config.roster.services) ∨
        ∃ service ∈ config.roster.services,
          service.name = target ∧ service.alias? = some (Text.trim target) := by
  have distinct := config.roster.distinct
  rw [logTarget?_eq_some_iff]
  constructor
  · rintro (⟨service, member, isName | isAlias, rfl⟩ | ⟨unknown, -, tidy⟩)
    · have notAlias
          (isAlias : service.name ∈ Roster.aliasesOf config.roster.services) :
          False :=
        distinct.alias_not_name _ isAlias (Roster.name_mem_namesOf member)
      exact .inl ⟨isName.symm, notAlias⟩
    · exact .inr ⟨service, member, rfl, isAlias⟩
    · refine .inl ⟨tidy, fun isAlias => ?_⟩
      obtain ⟨service, member, known⟩ := List.mem_filterMap.mp isAlias
      exact unknown service member
        (.inr (known.trans (congrArg some tidy.symm)))
  · rintro (⟨tidy, notAlias⟩ | ⟨service, member, isName, isAlias⟩)
    · rw [tidy]
      by_cases named : ∃ service ∈ config.roster.services, service.name = target
      · obtain ⟨service, member, isName⟩ := named
        exact .inl ⟨service, member, .inl isName, isName⟩
      · have inTargets := (mem_allLogTargets_iff.mp listed).resolve_left named
        refine .inr ⟨?_, inTargets, rfl⟩
        rintro service member (isName | isAlias)
        · exact named ⟨service, member, isName⟩
        · exact notAlias (Roster.alias_mem_aliasesOf member isAlias)
    · exact .inl ⟨service, member, .inr isAlias, isName⟩

/-- The query for the pods that are labelled with a workload. -/
def podQuery (config : Config) (workload : String) : Invocation where
  program := config.tools.control
  arguments :=
    ["get", "pods", "-l", "app=" ++ workload, "-n", config.namespaceName, "-o",
      "jsonpath=\x7b.items[0].metadata.name\x7d"]
  directory? := some config.root

/-- What it means that the pods of a workload are looked for: one query is made,
which is for the pods that bear its name, and the workload is not taken for
unknown. -/
structure LooksFor (config : Config) (workload : String)
    (run : Run σ (Except Failure (Option String))) : Prop where
  asksOnce :
    ∃ reply, run.trace = [⟨.run (config.podQuery workload) .probe, reply⟩]
  isKnown : ∀ name, run.value ≠ .error (.unknownService name)

theorem podQuery_inj {other : String}
    (same : config.podQuery workload = config.podQuery other) :
    workload = other := by
  have selectors : "app=" ++ workload = "app=" ++ other := by
    simpa [podQuery] using same
  have characters := congrArg String.toList selectors
  rw [String.toList_append, String.toList_append, List.append_cancel_left_eq]
    at characters
  exact String.toList_inj.mp characters

end Config

namespace Operation

variable {config : Config} {query workload : String}
  (surroundings : Surroundings σ) (state : σ)

def searching (config : Config) (query : String) :
    Run σ (Except Failure (Option String)) :=
  (findPod config query).toProcedure.run surroundings state

theorem looksFor_searching
    (found : config.logTarget? (Text.trim query) = some workload) :
    config.LooksFor workload (searching surroundings state config query) := by
  have looks : Ensures (findPod config query) fun trace result =>
      (∃ reply, trace = [⟨.run (config.podQuery workload) .probe, reply⟩]) ∧
        ∀ name, result ≠ .error (.unknownService name) := by
    have one : findPod config query = (do
        let output ← invoke (config.podCommand workload) .probe
        return output.name?) := by
      simp [findPod, found]
    rw [one]
    apply ensures_bind
    apply ensures_invoke
    intro reply
    cases reply with
    | error cause => exact ⟨⟨_, rfl⟩, nofun⟩
    | ok output => exact ensures_pure ⟨⟨_, rfl⟩, nofun⟩
  obtain ⟨asksOnce, isKnown⟩ := looks.run surroundings state
  exact ⟨asksOnce, isKnown⟩

theorem searching_unknown
    (unknown : config.logTarget? (Text.trim query) = none) :
    (searching surroundings state config query).trace = [] ∧
      (searching surroundings state config query).value =
        .error (.unknownService (Text.trim query)) := by
  have stops :
      findPod config query = throw (.unknownService (Text.trim query)) := by
    simp [findPod, unknown]
  rw [searching, stops]
  exact ⟨rfl, rfl⟩

theorem looksFor_searching_iff :
    config.LooksFor workload (searching surroundings state config query) ↔
      config.logTarget? (Text.trim query) = some workload := by
  constructor
  · rintro ⟨⟨reply, asked⟩, -⟩
    cases found : config.logTarget? (Text.trim query) with
    | none => simp [searching_unknown surroundings state found] at asked
    | some other =>
        obtain ⟨⟨own, really⟩, -⟩ := looksFor_searching surroundings state found
        have same : config.podQuery other = config.podQuery workload := by
          have requests :=
            congrArg (List.map Exchange.request) (really.symm.trans asked)
          simpa using requests
        rw [Config.podQuery_inj same]
  · exact looksFor_searching surroundings state

/-- A listed target is looked for exactly when blanks and aliases do not hide
it; one that they hide is unknown, or the pods of something else are looked
for. -/
theorem looksFor_listed_iff {target : String}
    (listed : target ∈ config.allLogTargets) :
    config.LooksFor target (searching surroundings state config target) ↔
      (Text.trim target = target ∧
        target ∉ Roster.aliasesOf config.roster.services) ∨
        ∃ service ∈ config.roster.services,
          service.name = target ∧ service.alias? = some (Text.trim target) := by
  rw [looksFor_searching_iff, Config.logTarget?_self_iff listed]

/-- A workload that has the name of an alias is not looked for, and one that has
not is. -/
theorem looksFor_listed_iff_aliased :
    ∃ config, (Config.parse "log_targets = [\"as\", \"redis\"]\n").toOption =
      some config ∧
      "as" ∈ config.allLogTargets ∧ "redis" ∈ config.allLogTargets ∧
      ¬ config.LooksFor "as"
        (searching Rehearsal.performers (.ofScript .empty) config "as") ∧
      config.LooksFor "redis"
        (searching Rehearsal.performers (.ofScript .empty) config "redis") := by
  refine ⟨{ Config.standard with logTargets := ["as", "redis"] }, ?_, ?_,
    ?_, ?_, ?_⟩
  · decide +kernel
  · decide +kernel
  · decide +kernel
  · rw [looksFor_listed_iff _ _ (by decide +kernel)]
    decide +kernel
  · rw [looksFor_listed_iff _ _ (by decide +kernel)]
    decide +kernel

/-- A workload that a document lists with a blank before its name is unknown. -/
theorem listed_is_unknown :
    ∃ config, (Config.parse "log_targets = [\" x\"]\n").toOption = some config ∧
      " x" ∈ config.allLogTargets ∧
      (searching Rehearsal.performers (.ofScript .empty) config " x").trace =
        [] ∧
      (searching Rehearsal.performers (.ofScript .empty) config " x").value =
        .error (.unknownService "x") := by
  refine ⟨{ Config.standard with logTargets := [" x"] }, ?_, ?_, ?_⟩
  · decide +kernel
  · decide +kernel
  · exact searching_unknown _ _ (by decide +kernel)

end Operation

end ClusterConsole
