import ClusterConsole.Proofs.Config.BuildArguments
import ClusterConsole.Proofs.Config.Edits
import ClusterConsole.Proofs.Config.Fields

/-!
# What edits do not change

What a value of a configuration is decoded to is the same before and after an
edit, and so is whether it can be decoded; only the mismatch that is reported
may be another one.
-/

namespace ClusterConsole

open Toml (Value Mismatch)

/-- Before and after an edit at a position the same contents are decoded. -/
def Steady (position : Position) (decode : Value → Except Mismatch α) : Prop :=
  ∀ value other, Edit position value other → value.Proper →
    ∀ content, decode value = .ok content ↔ decode other = .ok content

section Steady

variable {position : Position}

/-- A value that is neither a table nor an array is not edited. -/
theorem steady_of_plain {decode : Value → Except Mismatch α}
    (noTable : ∀ entries content, decode (.table entries) ≠ .ok content)
    (noArray : ∀ items content, decode (.array items) ≠ .ok content) :
    Steady position decode := by
  intro value other edit proper content
  rcases edit.isTable_or_isArray with ⟨entries, others, rfl, rfl⟩ |
    ⟨items, others, rfl, rfl⟩
  · exact iff_of_false (noTable entries content) (noTable others content)
  · exact iff_of_false (noArray items content) (noArray others content)

theorem steady_text : Steady position Decode.text :=
  steady_of_plain (fun _ _ => nofun) (fun _ _ => nofun)

theorem steady_path : Steady position Decode.path :=
  steady_of_plain (fun _ _ => nofun) (fun _ _ => nofun)

theorem steady_natural : Steady position Decode.natural :=
  steady_of_plain (fun _ _ => nofun) (fun _ _ => nofun)

theorem steady_map {decode : Value → Except Mismatch α}
    (steady : Steady position decode) (next : α → β) :
    Steady position fun value => (decode value).map next := by
  intro value other edit proper content
  have same := steady value other edit proper
  cases first : decode value with
  | ok found =>
      have second := (same found).mp first
      simp only [first, second]
  | error mismatch =>
      cases second : decode other with
      | ok found =>
          have first' := (same found).mpr second
          rw [first] at first'
          cases first'
      | error another => simp [first, second, Except.map]

/-! ## Arrays -/

theorem mapM_replace_iff {item : γ → Except Mismatch α} {value other : γ}
    (same : ∀ content, item value = .ok content ↔ item other = .ok content)
    (early late : List γ) {contents : List α} :
    (early ++ value :: late).mapM item = .ok contents ↔
      (early ++ other :: late).mapM item = .ok contents := by
  induction early generalizing contents with
  | nil =>
      rw [List.nil_append, List.nil_append, List.mapM_cons, List.mapM_cons,
        bind_eq_ok_iff, bind_eq_ok_iff]
      exact exists_congr fun content => and_congr_left' (same content)
  | cons first early ih =>
      simp only [List.cons_append, List.mapM_cons, bind_eq_ok_iff, ih]

theorem steady_list {item : Value → Except Mismatch α}
    (steady : Steady position item) :
    Steady position (Decode.list item) := by
  intro value other edit proper contents
  cases edit with
  | permute => exact iff_of_false nofun nofun
  | add => exact iff_of_false nofun nofun
  | entry => exact iff_of_false nofun nofun
  | @item _ early late value other isNoRecord inside =>
      have own := proper.items value (by simp)
      exact mapM_replace_iff (steady value other inside own) early late

/-! ## Records -/

/-- The keys that do not matter at a position are passed over by a record
there. -/
def Passes (position : Position) (fields : List (Field α)) (isOpen : Bool) :
    Prop :=
  ∀ key, position.Ignores key → isOpen = true ∧ key ∉ fields.map Field.key

theorem holds_iff_of_edit {field : Field α}
    {entries others : List (String × Value)} {start record : α}
    (edit : Edit position (.table entries) (.table others))
    (proper : (Value.table entries).Proper)
    (declared : ¬ position.Ignores field.key)
    (steady : Steady (position.under field.key) field.decode) :
    field.Holds entries start record ↔ field.Holds others start record := by
  rw [Field.Holds, Field.Holds]
  rcases edit.lookup proper.entries.distinct declared with
    same | ⟨value, other, isValue, isOther, inside⟩
  · rw [same]
  · rw [isValue, isOther]
    exact steady value other inside
      (proper.entries.each _ (mem_of_lookup isValue)) _

theorem accepts_iff_of_edit {fields : List (Field α)} {isOpen : Bool}
    {entries others : List (String × Value)}
    (edit : Edit position (.table entries) (.table others))
    (passes : Passes position fields isOpen) :
    (∀ key ∈ entries.map Prod.fst, SetsFields.Accepts fields isOpen key) ↔
      ∀ key ∈ others.map Prod.fst, SetsFields.Accepts fields isOpen key := by
  cases edit with
  | permute _ same =>
      exact forall_congr' fun key => imp_congr_left (same.map Prod.fst).mem_iff
  | @add _ new _ _ ignored =>
      have isAccepted : SetsFields.Accepts fields isOpen new :=
        .inl (passes new ignored).1
      rw [List.map_cons, List.forall_mem_cons]
      exact ⟨fun rest => ⟨isAccepted, rest⟩, fun all => all.2⟩
  | entry inside => simp

theorem setAll_iff_of_edit {set : α → String → Value → Except Mismatch α}
    {fields : List (Field α)} {isOpen : Bool}
    (laws : SetsFields set fields isOpen)
    (passes : Passes position fields isOpen)
    (steady : ∀ field ∈ fields, Steady (position.under field.key) field.decode)
    {entries others : List (String × Value)}
    (edit : Edit position (.table entries) (.table others))
    (proper : (Value.table entries).Proper) {start record : α} :
    Decode.setAll set start entries = .ok record ↔
      Decode.setAll set start others = .ok record := by
  have othersProper := edit.proper_iff.mp proper
  rw [laws.setAll_eq_ok_iff proper.entries.distinct,
    laws.setAll_eq_ok_iff othersProper.entries.distinct,
    accepts_iff_of_edit edit passes]
  refine and_congr_right fun _ => forall_congr' fun field =>
    forall_congr' fun isField => ?_
  apply holds_iff_of_edit edit proper _ (steady field isField)
  intro ignored
  exact (passes _ ignored).2 (List.mem_map_of_mem isField)

/-- The items of an array stand for the entries with the names in front of
them. -/
theorem zip_replace (names : List String) (early late : List Value)
    (value other : Value) :
    names.zip (early ++ value :: late) = names.zip (early ++ other :: late) ∨
      ∃ front key back, names.zip (early ++ value :: late) = front ++
        (key, value) :: back ∧
        names.zip (early ++ other :: late) = front ++ (key, other) :: back := by
  induction names generalizing early with
  | nil => exact .inl rfl
  | cons name names ih =>
      cases early with
      | nil => exact .inr ⟨[], name, names.zip late, rfl, rfl⟩
      | cons first early =>
          rcases ih early with same | ⟨front, key, back, isFirst, isSecond⟩
          · left
            simpa using same
          · refine .inr ⟨(name, first) :: front, key, back, ?_, ?_⟩
            · simpa using isFirst
            · simpa using isSecond

theorem proper_zip {names : List String} {items : List Value}
    (distinct : names.Nodup) (proper : ∀ item ∈ items, item.Proper) :
    (Value.table (names.zip items)).Proper := by
  refine proper_table_iff.mpr ⟨?_,
    fun entry member => proper _ (List.of_mem_zip member).2⟩
  induction names generalizing items with
  | nil => exact List.nodup_nil
  | cons name names ih =>
      obtain ⟨isNew, distinct⟩ := List.nodup_cons.mp distinct
      cases items with
      | nil => exact List.nodup_nil
      | cons item items =>
          rw [List.zip_cons_cons, List.map_cons, List.nodup_cons]
          refine ⟨?_, ih distinct fun own member =>
            proper own (List.mem_cons_of_mem _ member)⟩
          intro again
          obtain ⟨entry, member, same⟩ := List.mem_map.mp again
          have isName : entry.1 = name := same
          exact isNew (isName ▸ (List.of_mem_zip member).1)

theorem steady_record {set : α → String → Value → Except Mismatch α}
    {fields : List (Field α)} {isOpen : Bool}
    (laws : SetsFields set fields isOpen)
    (passes : Passes position fields isOpen)
    (steady : ∀ field ∈ fields, Steady (position.under field.key) field.decode)
    (expected : String) {names : List String} (distinct : names.Nodup)
    (start : α) :
    Steady position (Decode.record expected names set start) := by
  intro value other edit proper record
  rcases edit.isTable_or_isArray with ⟨entries, others, rfl, rfl⟩ |
    ⟨items, others, rfl, rfl⟩
  · exact setAll_iff_of_edit laws passes steady edit proper
  · cases edit with
    | @item _ early late value other isNoRecord inside =>
        -- The items are set like entries, so that the edit of an item is that
        -- of an entry.
        show Decode.setAll set start (names.zip _) = _ ↔
          Decode.setAll set start (names.zip _) = _
        rcases zip_replace names early late value other with
          same | ⟨front, key, back, isFirst, isSecond⟩
        · rw [same]
        · have zipped := proper_zip distinct proper.items
          rw [isFirst] at zipped ⊢
          rw [isSecond]
          have inEntry : Edit (position.under key) value other := by
            rwa [Position.under_eq_self isNoRecord]
          exact setAll_iff_of_edit laws passes steady (.entry inEntry) zipped

end Steady

/-! ## Services -/

theorem steady_arguments : Steady .services Decode.arguments := by
  intro value other edit proper arguments
  have otherProper := edit.proper_iff.mp proper
  cases edit with
  | permute _ same =>
      rw [BuildArguments.decode_eq_ok_iff proper.entries.distinct,
        BuildArguments.decode_eq_ok_iff otherProper.entries.distinct]
      exact ⟨fun before => same.symm.trans before,
        fun after => same.trans after⟩
  | add ignored => exact absurd ignored id
  | @entry _ early late key value other inside =>
      rw [BuildArguments.decode_eq_ok_iff proper.entries.distinct,
        BuildArguments.decode_eq_ok_iff otherProper.entries.distinct]
      -- What is edited is no text.
      have noText : ∀ {changed}, (∀ text, changed ≠ Value.string text) →
          ¬ (early ++ (key, changed) :: late).Perm
            (BuildArguments.spelled arguments.entries) := by
        intro changed isOther same
        obtain ⟨own, -, isSpelled⟩ :=
          List.mem_map.mp (same.mem_iff.mp List.mem_append_cons_self)
        exact isOther own.2 (congrArg Prod.snd isSpelled).symm
      rcases inside.isTable_or_isArray with ⟨_, _, rfl, rfl⟩ | ⟨_, _, rfl, rfl⟩
      · exact iff_of_false (noText nofun) (noText nofun)
      · exact iff_of_false (noText nofun) (noText nofun)
  | item => exact iff_of_false nofun nofun

theorem required_eq_ok_iff {expected name : String} {names : List String}
    {value : Value} {found? : Option α} {found : α} :
    Decode.required expected name names value found? = .ok found ↔
      found? = some found := by
  unfold Decode.required
  split <;> simp_all

theorem decodeService_eq_ok_iff {value : Value} {service : Service} :
    Service.decode value = .ok service ↔
      Decode.record "struct ServiceDescriptor" Service.fieldNames
        Service.Partial.setField
        ⟨none, none, none, none, none⟩ value =
          .ok ⟨some service.name, service.alias?, service.context?,
            service.dockerfile?,
            service.buildArguments?⟩ := by
  unfold Service.decode
  rw [bind_eq_ok_iff]
  constructor
  · intro decoded
    obtain ⟨known, isKnown, decoded⟩ := decoded
    obtain ⟨name, isNamed, isService⟩ := bind_eq_ok_iff.mp decoded
    cases isService
    rw [required_eq_ok_iff] at isNamed
    rw [isKnown, ← isNamed]
  · intro isKnown
    exact ⟨_, isKnown, bind_eq_ok_iff.mpr ⟨_, required_eq_ok_iff.mpr rfl, rfl⟩⟩

theorem steady_service : Steady .services Service.decode := by
  intro value other edit proper service
  rw [decodeService_eq_ok_iff, decodeService_eq_ok_iff]
  refine steady_record Service.setsFields (fun _ ignored => absurd ignored id)
    ?_ _ (by decide) _
    value other edit proper _
  simp only [Service.fields, List.forall_mem_cons]
  exact ⟨steady_map steady_text _, steady_map steady_text _,
    steady_map steady_path _, steady_map steady_text _,
    steady_map steady_arguments _, List.forall_mem_nil _⟩

theorem ofServices_eq_ok_iff {services : List Service} {roster : Roster} :
    Roster.ofServices services = .ok roster ↔ services = roster.services := by
  obtain ⟨own, faultless⟩ := roster
  unfold Roster.ofServices
  split
  · simp
  · rename_i fault found
    refine iff_of_false nofun ?_
    rintro rfl
    rw [faultless] at found
    cases found

theorem decodeRoster_eq_ok_iff {value : Value} {roster : Roster} :
    Roster.decode value = .ok roster ↔
      Decode.list Service.decode value = .ok roster.services := by
  unfold Roster.decode
  rw [bind_eq_ok_iff]
  constructor
  · intro decoded
    obtain ⟨services, isList, decoded⟩ := decoded
    split at decoded
    · rename_i own isRoster
      cases decoded
      rw [isList, ofServices_eq_ok_iff.mp isRoster]
    · cases decoded
  · intro isList
    refine ⟨roster.services, isList, ?_⟩
    rw [ofServices_eq_ok_iff.mpr rfl]
    rfl

theorem steady_roster : Steady .services Roster.decode := by
  intro value other edit proper roster
  rw [decodeRoster_eq_ok_iff, decodeRoster_eq_ok_iff]
  exact steady_list steady_service value other edit proper _

/-! ## Sections -/

theorem decodeProbe_eq_ok_iff {value : Value} {settings : ProbeSettings} :
    ProbeSettings.decode value = .ok settings ↔
      Decode.record "struct ProbeConfig" ProbeSettings.fieldNames
        ProbeSettings.Partial.setField
        ⟨none, none, none⟩ value =
          .ok ⟨some settings.selector, settings.namespaceName?,
            some settings.timeoutSeconds⟩ := by
  unfold ProbeSettings.decode
  rw [bind_eq_ok_iff]
  constructor
  · intro decoded
    obtain ⟨known, isKnown, decoded⟩ := decoded
    obtain ⟨selector, isSelector, decoded⟩ := bind_eq_ok_iff.mp decoded
    obtain ⟨timeout, isTimeout, isSettings⟩ := bind_eq_ok_iff.mp decoded
    cases isSettings
    rw [required_eq_ok_iff] at isSelector isTimeout
    rw [isKnown, ← isSelector, ← isTimeout]
  · intro isKnown
    exact ⟨_, isKnown, bind_eq_ok_iff.mpr ⟨_, required_eq_ok_iff.mpr rfl,
      bind_eq_ok_iff.mpr ⟨_, required_eq_ok_iff.mpr rfl, rfl⟩⟩⟩

/-- What a section does not declare is no field of its record. -/
theorem passes_section {own : Section} {fields : List (Field α)}
    (declares : fields.map Field.key = own.keys) :
    Passes (.record own) fields true :=
  fun _ ignored => ⟨rfl, declares ▸ ignored⟩

theorem steady_cluster : Steady (.record .cluster) ClusterSettings.decode := by
  refine steady_record ClusterSettings.setsFields (passes_section rfl) ?_ _
    (by decide) _
  simp only [ClusterSettings.fields, List.forall_mem_cons]
  exact ⟨steady_text, steady_path, steady_text, List.forall_mem_nil _⟩

theorem steady_tools : Steady (.record .tools) Tools.decode := by
  refine steady_record Tools.setsFields (passes_section rfl) ?_ _ (by decide) _
  simp only [Tools.fields, List.forall_mem_cons]
  exact ⟨steady_text, steady_text, steady_text, List.forall_mem_nil _⟩

theorem steady_layout : Steady (.record .paths) Layout.decode := by
  refine steady_record Layout.setsFields (passes_section rfl) ?_ _ (by decide) _
  simp only [Layout.fields, List.forall_mem_cons]
  exact ⟨steady_path, steady_path, steady_path, steady_path, steady_path,
    steady_path, steady_path, steady_path, List.forall_mem_nil _⟩

theorem steady_logging : Steady (.record .logging) LogSettings.decode := by
  refine steady_record LogSettings.setsFields (passes_section rfl) ?_ _
    (by decide) _
  simp only [LogSettings.fields, List.forall_mem_cons]
  exact ⟨steady_text, steady_text, List.forall_mem_nil _⟩

theorem steady_probe : Steady (.record .probe) ProbeSettings.decode := by
  intro value other edit proper settings
  rw [decodeProbe_eq_ok_iff, decodeProbe_eq_ok_iff]
  refine steady_record ProbeSettings.setsFields (passes_section rfl) ?_ _
    (by decide) _ value other
    edit proper _
  simp only [ProbeSettings.fields, List.forall_mem_cons]
  exact ⟨steady_map steady_text _, steady_map steady_text _,
    steady_map steady_natural _, List.forall_mem_nil _⟩

theorem steady_readiness :
    Steady (.record .readiness) ReadinessSettings.decode := by
  refine steady_record ReadinessSettings.setsFields (passes_section rfl) ?_ _
    (by decide) _
  simp only [ReadinessSettings.fields, List.forall_mem_cons]
  exact ⟨steady_probe, steady_probe, steady_natural, List.forall_mem_nil _⟩

namespace Config

theorem steady_fields :
    ∀ field ∈ fields, Steady ((Position.record .config).under field.key)
      field.decode := by
  simp only [fields, List.forall_mem_cons]
  exact ⟨steady_path, steady_text, steady_text, steady_cluster, steady_tools,
    steady_layout, steady_readiness, steady_roster, steady_list steady_text,
    steady_logging, List.forall_mem_nil _⟩

/-- Documents that edits lead to from each other stand for the same
configuration, or for none. -/
theorem ofEntries_iff_of_alike {entries others : List (String × Value)}
    (alike : Alike entries others) :
    ((Value.table entries).Proper ↔ (Value.table others).Proper) ∧
      ((Value.table entries).Proper →
        ∀ config, ofEntries entries = .ok config ↔
          ofEntries others = .ok config) := by
  induction alike with
  | rel entries others edit =>
      refine ⟨edit.proper_iff, fun proper config => ?_⟩
      exact setAll_iff_of_edit setsFields (passes_section rfl) steady_fields
        edit proper
  | refl entries => exact ⟨.rfl, fun _ _ => .rfl⟩
  | symm entries others _ ih =>
      exact ⟨ih.1.symm, fun proper config =>
        (ih.2 (ih.1.mpr proper) config).symm⟩
  | trans entries between others _ _ first second =>
      refine ⟨first.1.trans second.1, fun proper config => ?_⟩
      exact (first.2 proper config).trans (second.2 (first.1.mp proper) config)

end Config

end ClusterConsole
