import Mathlib.Data.List.Forall2
import ClusterConsole.Config.Decode
import ClusterConsole.Proofs.Procedure.Ensures

/-!
# Records

A record is decoded from the entries of a table one after the other.  As the
fields of a record are independent of each other, and no key is there twice,
what comes out is told field by field: a field has the content that its entry
stands for, or is what it was where there is none.
-/

namespace ClusterConsole

open Toml (Value Mismatch)

/-- One field of a record: what a value stands for under its key, and where that
is put. -/
structure Field (α : Type) where
  key : String
  Content : Type
  decode : Value → Except Mismatch Content
  get : α → Content
  put : α → Content → α

/-- The fields of a record are set by their keys.  Other keys are passed over if
the record is `isOpen`, and refused otherwise. -/
structure SetsFields (set : α → String → Value → Except Mismatch α)
    (fields : List (Field α)) (isOpen : Bool) : Prop where
  sets : ∀ field ∈ fields, ∀ record value,
    set record field.key value = (field.decode value).map (field.put record)
  others : ∀ key, key ∉ fields.map Field.key → ∀ record value next,
    set record key value = .ok next ↔ isOpen = true ∧ next = record
  get_put : ∀ field ∈ fields, ∀ record content,
    field.get (field.put record content) = content
  get_put_of_ne : ∀ field ∈ fields, ∀ other ∈ fields, other.key ≠ field.key →
    ∀ record content, other.get (field.put record content) = other.get record
  ext : ∀ first second, (∀ field ∈ fields, field.get first = field.get second) →
    first = second

/-- A field of a record has the content of its entry, or is as it was if there
is none. -/
def Field.Holds (field : Field α) (entries : List (String × Value))
    (start record : α) : Prop :=
  match entries.lookup field.key with
  | none => field.get record = field.get start
  | some value => field.decode value = .ok (field.get record)

section Holds

variable {field : Field α} {entries : List (String × Value)} {start record : α}

theorem Field.Holds.absent (holds : field.Holds entries start record)
    (isAbsent : entries.lookup field.key = none) :
    field.get record = field.get start := by
  rwa [Field.Holds, isAbsent] at holds

theorem Field.Holds.present (holds : field.Holds entries start record)
    {value : Value} (found : entries.lookup field.key = some value) :
    field.decode value = .ok (field.get record) := by
  rwa [Field.Holds, found] at holds

end Holds

theorem lookup_cons_of_ne {key other : String} (differs : key ≠ other)
    (value : α) (entries : List (String × α)) :
    ((other, value) :: entries).lookup key = entries.lookup key := by
  rw [List.lookup_cons, beq_eq_false_iff_ne.mpr differs]

theorem lookup_eq_none_of_not_mem {key : String} {entries : List (String × α)}
    (absent : key ∉ entries.map Prod.fst) : entries.lookup key = none := by
  rw [List.lookup_eq_none_iff]
  intro entry member
  rw [bne_iff_ne]
  intro same
  exact absent (same ▸ List.mem_map_of_mem member)

theorem mapM_eq_ok_iff {item : γ → Except Mismatch α} {items : List γ}
    {contents : List α} :
    items.mapM item = .ok contents ↔
      List.Forall₂ (fun value content => item value = .ok content) items
        contents := by
  induction items generalizing contents with
  | nil =>
      rw [List.forall₂_nil_left_iff]
      exact ⟨fun same => (Except.ok.inj same).symm, fun none => none ▸ rfl⟩
  | cons value items ih =>
      rw [List.mapM_cons, bind_eq_ok_iff, List.forall₂_cons_left_iff]
      refine exists_congr fun content => ?_
      rw [bind_eq_ok_iff]
      constructor
      · intro decoded
        obtain ⟨isContent, others, areOthers, same⟩ := decoded
        cases same
        exact ⟨others, isContent, ih.mp areOthers, rfl⟩
      · intro decoded
        obtain ⟨others, isContent, areOthers, rfl⟩ := decoded
        exact ⟨isContent, others, ih.mpr areOthers, rfl⟩

namespace SetsFields

variable {set : α → String → Value → Except Mismatch α}
  {fields : List (Field α)} {isOpen : Bool}
  {field : Field α} {start next record : α} {key : String} {value : Value}

theorem get_of_set (laws : SetsFields set fields isOpen)
    (isField : field ∈ fields) (isSet : set start field.key value = .ok next) :
    field.decode value = .ok (field.get next) := by
  rw [laws.sets field isField] at isSet
  cases decoded : field.decode value with
  | error mismatch =>
      rw [decoded] at isSet
      cases isSet
  | ok content =>
      rw [decoded] at isSet
      cases isSet
      rw [laws.get_put field isField]

theorem get_of_set_of_ne (laws : SetsFields set fields isOpen)
    (isField : field ∈ fields) (differs : field.key ≠ key)
    (isSet : set start key value = .ok next) :
    field.get next = field.get start := by
  by_cases declared : key ∈ fields.map Field.key
  · obtain ⟨own, isOwn, rfl⟩ := List.mem_map.mp declared
    rw [laws.sets own isOwn] at isSet
    cases decoded : own.decode value with
    | error mismatch =>
        rw [decoded] at isSet
        cases isSet
    | ok content =>
        rw [decoded] at isSet
        cases isSet
        exact laws.get_put_of_ne own isOwn field isField differs start content
  · rw [((laws.others key declared start value next).mp isSet).2]

/-- A first entry that is new only sets its own field. -/
theorem holds_cons_iff (laws : SetsFields set fields isOpen)
    (isField : field ∈ fields) (isSet : set start key value = .ok next)
    {rest : List (String × Value)} (isNew : rest.lookup key = none) :
    field.Holds ((key, value) :: rest) start record ↔
      field.Holds rest next record := by
  rw [Field.Holds, Field.Holds]
  by_cases same : field.key = key
  · subst same
    rw [List.lookup_cons_self, isNew]
    dsimp only
    rw [laws.get_of_set isField isSet, Except.ok.injEq, eq_comm]
  · rw [lookup_cons_of_ne same, laws.get_of_set_of_ne isField same isSet]

/-- Whether a key may be there: it is that of a field, or does not matter. -/
def Accepts (fields : List (Field α)) (isOpen : Bool) (key : String) : Prop :=
  isOpen = true ∨ key ∈ fields.map Field.key

theorem accepts_of_set (laws : SetsFields set fields isOpen)
    (isSet : set start key value = .ok next) : Accepts fields isOpen key := by
  by_cases declared : key ∈ fields.map Field.key
  · exact .inr declared
  · exact .inl ((laws.others key declared start value next).mp isSet).1

theorem exists_set (laws : SetsFields set fields isOpen)
    (accepted : Accepts fields isOpen key) {entries : List (String × Value)}
    (isEntry : entries.lookup key = some value)
    (holds : ∀ field ∈ fields, field.Holds entries start record) :
    ∃ next, set start key value = .ok next := by
  by_cases declared : key ∈ fields.map Field.key
  · obtain ⟨field, isField, rfl⟩ := List.mem_map.mp declared
    rw [laws.sets field isField, (holds field isField).present isEntry]
    exact ⟨_, rfl⟩
  · exact ⟨start, (laws.others key declared start value start).mpr
      ⟨accepted.resolve_right declared, rfl⟩⟩

theorem setAll_eq_ok_iff (laws : SetsFields set fields isOpen)
    {entries : List (String × Value)}
    (distinct : (entries.map Prod.fst).Nodup) :
    Decode.setAll set start entries = .ok record ↔
      (∀ key ∈ entries.map Prod.fst, Accepts fields isOpen key) ∧
        ∀ field ∈ fields, field.Holds entries start record := by
  -- The keys are distinct: what the first entry sets is what the others leave
  -- alone.
  induction entries generalizing start with
  | nil =>
      have none : Decode.setAll set start [] = .ok start := rfl
      rw [none]
      constructor
      · intro same
        cases same
        exact ⟨nofun, fun field isField => rfl⟩
      · intro holds
        exact congrArg Except.ok (laws.ext _ _ fun field isField =>
          (holds.2 field isField).symm)
  | cons entry rest ih =>
      obtain ⟨key, value⟩ := entry
      obtain ⟨isNew, restDistinct⟩ := List.nodup_cons.mp distinct
      have isNone : rest.lookup key = none := lookup_eq_none_of_not_mem isNew
      have first : Decode.setAll set start ((key, value) :: rest) = .ok record ↔
          ∃ next, set start key value = .ok next ∧
          Decode.setAll set next rest = .ok record := by
        rw [Decode.setAll, List.foldlM_cons, bind_eq_ok_iff]
        rfl
      rw [first, List.map_cons, List.forall_mem_cons]
      constructor
      · intro isSet
        obtain ⟨next, isSet, goesOn⟩ := isSet
        obtain ⟨accepted, holds⟩ := (ih restDistinct).mp goesOn
        refine ⟨⟨laws.accepts_of_set isSet, accepted⟩, ?_⟩
        intro field isField
        exact (laws.holds_cons_iff isField isSet isNone).mpr
          (holds field isField)
      · intro holds
        obtain ⟨⟨isKnown, accepted⟩, holds⟩ := holds
        obtain ⟨next, isSet⟩ :=
          laws.exists_set isKnown List.lookup_cons_self holds
        refine ⟨next, isSet, (ih restDistinct).mpr ⟨accepted, ?_⟩⟩
        intro field isField
        exact (laws.holds_cons_iff isField isSet isNone).mp
          (holds field isField)

end SetsFields

end ClusterConsole
