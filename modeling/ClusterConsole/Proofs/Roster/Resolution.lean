import ClusterConsole.Roster

/-!
# Resolution

In a roster each name and each alias belongs to one service.  A query is trimmed
before it is looked up, and the entries of a roster are not: an entry with
blanks around it can be listed and then not be found, or be found as an entry of
another service.
-/

namespace ClusterConsole

/-- Whether a service has a text for its name or for its alias. -/
def Service.isKnownAs (service : Service) (entry : String) : Prop :=
  service.name = entry ∨ service.alias? = some entry

instance (service : Service) (entry : String) :
    Decidable (service.isKnownAs entry) :=
  inferInstanceAs (Decidable (_ ∨ _))

namespace Roster

theorem nameFault?_eq_none_iff {earlier names : List String} :
    nameFault? earlier names = none ↔
      (∀ name ∈ names, Text.isAllBlank name = false ∧ name ∉ earlier) ∧
      names.Nodup := by
  -- Each name that passes is one of the earlier names for the rest.
  induction names generalizing earlier with
  | nil => simp [nameFault?]
  | cons name rest ih =>
      cases blank : Text.isAllBlank name with
      | true => simp [nameFault?, blank]
      | false =>
          by_cases isRepeated : name ∈ earlier
          · simp [nameFault?, blank, isRepeated]
          · have goesOn : nameFault? earlier (name :: rest) =
                nameFault? (name :: earlier) rest := by
              simp [nameFault?, blank, isRepeated]
            rw [goesOn, ih, List.forall_mem_cons, List.nodup_cons]
            grind

theorem aliasFault?_eq_none_iff {names earlier aliases : List String} :
    aliasFault? names earlier aliases = none ↔
      (∀ entry ∈ aliases,
        Text.isAllBlank entry = false ∧ entry ∉ names ∧ entry ∉ earlier) ∧
        aliases.Nodup := by
  induction aliases generalizing earlier with
  | nil => simp [aliasFault?]
  | cons entry rest ih =>
      cases blank : Text.isAllBlank entry with
      | true => simp [aliasFault?, blank]
      | false =>
          by_cases isName : entry ∈ names
          · simp [aliasFault?, blank, isName]
          · by_cases isRepeated : entry ∈ earlier
            · simp [aliasFault?, blank, isName, isRepeated]
            · have goesOn : aliasFault? names earlier (entry :: rest) =
                  aliasFault? names (entry :: earlier) rest := by
                simp [aliasFault?, blank, isName, isRepeated]
              rw [goesOn, ih, List.forall_mem_cons, List.nodup_cons]
              grind

/-- What it means for a list of services to be without fault. -/
structure Distinct (services : List Service) : Prop where
  name_not_blank : ∀ name ∈ namesOf services, Text.isAllBlank name = false
  names_nodup : (namesOf services).Nodup
  alias_not_blank : ∀ entry ∈ aliasesOf services, Text.isAllBlank entry = false
  alias_not_name : ∀ entry ∈ aliasesOf services, entry ∉ namesOf services
  aliases_nodup : (aliasesOf services).Nodup

theorem fault?_eq_none_iff {services : List Service} :
    fault? services = none ↔ Distinct services := by
  have parts : fault? services = none ↔
      nameFault? [] (namesOf services) = none ∧
        aliasFault? (namesOf services) [] (aliasesOf services) = none := by
    simp [fault?]
  rw [parts, nameFault?_eq_none_iff, aliasFault?_eq_none_iff]
  constructor
  · rintro ⟨⟨names, namesNodup⟩, aliases, aliasesNodup⟩
    exact ⟨fun name member => (names name member).1, namesNodup,
      fun entry member => (aliases entry member).1,
      fun entry member => (aliases entry member).2.1, aliasesNodup⟩
  · intro distinct
    refine ⟨⟨?_, distinct.names_nodup⟩, ?_, distinct.aliases_nodup⟩
    · intro name member
      exact ⟨distinct.name_not_blank name member, by simp⟩
    · intro entry member
      exact ⟨distinct.alias_not_blank entry member,
        distinct.alias_not_name entry member, by simp⟩

theorem distinct (roster : Roster) : Distinct roster.services :=
  fault?_eq_none_iff.mp roster.faultless

theorem services_of_ofServices {services : List Service} {roster : Roster}
    (accepted : ofServices services = .ok roster) :
    roster.services = services := by
  unfold ofServices at accepted
  split at accepted
  · cases accepted
    rfl
  · cases accepted

/-! ## One service for each entry -/

section Distinct

variable {services : List Service} {service other : Service} {entry : String}

theorem name_mem_namesOf (member : service ∈ services) :
    service.name ∈ namesOf services :=
  List.mem_map_of_mem member

theorem alias_mem_aliasesOf (member : service ∈ services)
    (isAlias : service.alias? = some entry) :
    entry ∈ aliasesOf services :=
  List.mem_filterMap.mpr ⟨service, member, isAlias⟩

/-- Where no text occurs twice, it comes from one service only. -/
theorem eq_of_shared {textOf : Service → Option String}
    (nodup : (services.filterMap textOf).Nodup) (member : service ∈ services)
    (otherMember : other ∈ services) (text : textOf service = some entry)
    (otherText : textOf other = some entry) : other = service := by
  have apart := List.pairwise_filterMap.mp nodup
  have agree : services.Pairwise fun left right =>
      textOf left = some entry → textOf right = some entry → left = right :=
    apart.imp fun unequal isLeft isRight =>
      absurd rfl (unequal entry isLeft entry isRight)
  have agreeBack : services.Pairwise (flip fun left right =>
      textOf left = some entry → textOf right = some entry → left = right) :=
    apart.imp fun unequal isRight isLeft =>
      absurd rfl (unequal entry isLeft entry isRight)
  exact List.Pairwise.forall_of_forall_of_flip (fun _ _ _ _ => rfl) agree
    agreeBack
    otherMember member otherText text

/-- No two services are known as the same entry. -/
theorem Distinct.eq_of_isKnownAs (distinct : Distinct services)
    (member : service ∈ services) (otherMember : other ∈ services)
    (known : service.isKnownAs entry) (otherKnown : other.isKnownAs entry) :
    other = service := by
  -- No alias is a name, so what is shared is a name of both or an alias of
  -- both.
  rcases known with isName | isAlias
  · rcases otherKnown with otherName | otherAlias
    · have nodup : (services.filterMap (some ∘ Service.name)).Nodup := by
        rw [List.filterMap_eq_map]
        exact distinct.names_nodup
      exact eq_of_shared nodup member otherMember (congrArg some isName)
        (congrArg some otherName)
    · have isAlso : entry ∈ namesOf services := isName ▸ name_mem_namesOf member
      have isAlias := alias_mem_aliasesOf otherMember otherAlias
      exact absurd isAlso (distinct.alias_not_name entry isAlias)
  · rcases otherKnown with otherName | otherAlias
    · have isAlso : entry ∈ namesOf services :=
        otherName ▸ name_mem_namesOf otherMember
      exact absurd isAlso
        (distinct.alias_not_name entry (alias_mem_aliasesOf member isAlias))
    · exact eq_of_shared distinct.aliases_nodup member otherMember isAlias
        otherAlias

end Distinct

/-! ## Looking up -/

section Lookup

variable {roster : Roster} {query : String} {service : Service}

theorem known_of_resolve? (found : roster.resolve? query = some service) :
    service ∈ roster.services ∧ service.isKnownAs (Text.trim query) := by
  cases named : roster.get? (Text.trim query) with
  | some own =>
      have same : own = service := by simpa [resolve?, named] using found
      subst same
      have isName := List.find?_some named
      exact ⟨List.mem_of_find?_eq_some named, .inl (by simpa using isName)⟩
  | none =>
      have byAlias : roster.getByAlias? (Text.trim query) = some service := by
        simpa [resolve?, named] using found
      have isAlias := List.find?_some byAlias
      exact ⟨List.mem_of_find?_eq_some byAlias, .inr (by simpa using isAlias)⟩

theorem resolve?_eq_none_iff :
    roster.resolve? query = none ↔
      ∀ service ∈ roster.services, ¬ service.isKnownAs (Text.trim query) := by
  have split : roster.resolve? query = none ↔
      roster.get? (Text.trim query) = none ∧
      roster.getByAlias? (Text.trim query) = none := by
    cases named : roster.get? (Text.trim query) with
    | none => simp [resolve?, named]
    | some own => simp [resolve?, named]
  rw [split]
  simp only [get?, getByAlias?, List.find?_eq_none, decide_eq_true_eq,
    Service.isKnownAs]
  constructor
  · rintro ⟨noName, noAlias⟩ service member (isName | isAlias)
    · exact noName service member isName
    · exact noAlias service member isAlias
  · intro unknown
    exact ⟨fun service member isName => unknown service member (.inl isName),
      fun service member isAlias => unknown service member (.inr isAlias)⟩

/-- A query finds the service that is known as what is left of the query when it
is trimmed, and nothing else. -/
theorem resolve?_eq_some_iff :
    roster.resolve? query = some service ↔
      service ∈ roster.services ∧ service.isKnownAs (Text.trim query) := by
  constructor
  · exact known_of_resolve?
  · rintro ⟨member, known⟩
    cases found : roster.resolve? query with
    | none => exact absurd known (resolve?_eq_none_iff.mp found service member)
    | some other =>
        obtain ⟨otherMember, otherKnown⟩ := known_of_resolve? found
        rw [roster.distinct.eq_of_isKnownAs member otherMember known otherKnown]

end Lookup

/-! ## What is listed -/

section Choices

variable {roster : Roster} {entry : String}

theorem choices_eq (roster : Roster) :
    roster.choices = namesOf roster.services ++ aliasesOf roster.services := by
  simp [choices, aliases, namesOf, aliasesOf, List.map_filterMap,
    Function.comp_def]

theorem mem_choices_iff :
    entry ∈ roster.choices ↔
      ∃ service ∈ roster.services, service.isKnownAs entry := by
  rw [choices_eq, List.mem_append, namesOf, aliasesOf, List.mem_map,
    List.mem_filterMap]
  constructor
  · rintro (⟨service, member, isName⟩ | ⟨service, member, isAlias⟩)
    · exact ⟨service, member, .inl isName⟩
    · exact ⟨service, member, .inr isAlias⟩
  · rintro ⟨service, member, isName | isAlias⟩
    · exact .inl ⟨service, member, isName⟩
    · exact .inr ⟨service, member, isAlias⟩

theorem choices_nodup (roster : Roster) : roster.choices.Nodup := by
  rw [choices_eq, List.nodup_append]
  refine ⟨roster.distinct.names_nodup, roster.distinct.aliases_nodup, ?_⟩
  rintro name isName entry isAlias rfl
  exact roster.distinct.alias_not_name name isAlias isName

end Choices

/-- Each entry belongs to one service.  It resolves to this service exactly when
the service is also known as the trimmed entry, as it is when there are no
blanks to trim; otherwise the entry is unknown, or is taken for an entry of
another service. -/
theorem resolve?_choice {services : List Service} {roster : Roster}
    (accepted : ofServices services = .ok roster) :
    roster.services = services ∧ roster.choices.Nodup ∧
      (∀ entry ∈ roster.choices, ∃ service ∈ services,
        service.isKnownAs entry) ∧
      ∀ service ∈ services, ∀ entry, service.isKnownAs entry →
        entry ∈ roster.choices ∧
          (∀ other ∈ services, other.isKnownAs entry → other = service) ∧
          (roster.resolve? entry = some service ↔
            service.isKnownAs (Text.trim entry)) ∧
          (Text.trim entry = entry → roster.resolve? entry = some service) ∧
          (roster.resolve? entry = none ↔
            Text.trim entry ∉ roster.choices) := by
  have same := services_of_ofServices accepted
  subst same
  refine ⟨rfl, choices_nodup roster, fun entry => mem_choices_iff.mp, ?_⟩
  intro service member entry known
  have resolves : roster.resolve? entry = some service ↔
      service.isKnownAs (Text.trim entry) := by
    rw [resolve?_eq_some_iff]
    exact and_iff_right member
  refine ⟨mem_choices_iff.mpr ⟨service, member, known⟩, ?_, resolves, ?_, ?_⟩
  · intro other otherMember otherKnown
    exact roster.distinct.eq_of_isKnownAs member otherMember known otherKnown
  · intro tidy
    exact resolves.mpr (tidy.symm ▸ known)
  · rw [resolve?_eq_none_iff, mem_choices_iff]
    simp

/-- Two services whose names differ in a blank. -/
def nearlySame : List Service := [.named "a", .named " a"]

theorem resolve?_choice_nearlySame :
    ∃ roster, ofServices nearlySame = .ok roster ∧
      roster.resolve? "a" = some (.named "a") ∧
      roster.resolve? " a" ≠ some (.named " a") := by
  have accepted :
    ofServices nearlySame = .ok ⟨nearlySame, by decide +kernel⟩ := rfl
  obtain ⟨_, _, _, known⟩ := resolve?_choice accepted
  have tidy := known (.named "a") (by decide) "a" (.inl rfl)
  have untidy := known (.named " a") (by decide) " a" (.inl rfl)
  have notKnown : ¬ (Service.named " a").isKnownAs (Text.trim " a") := by
    decide +kernel
  refine ⟨_, accepted, tidy.2.2.2.1 (by decide +kernel), ?_⟩
  intro found
  exact notKnown (untidy.2.2.1.mp found)

/-- What is listed for the one service stands for the other one. -/
theorem resolve?_takes_blank_for_other :
    ∃ roster, ofServices nearlySame = .ok roster ∧ " a" ∈ roster.choices ∧
      Service.named " a" ∈ roster.services ∧
      Service.named "a" ≠ Service.named " a" ∧
      roster.resolve? " a" = some (.named "a") :=
  ⟨_, rfl, by decide +kernel, by decide +kernel, by decide +kernel, by
    decide +kernel⟩

end Roster

end ClusterConsole
