import Mathlib.Data.List.Nodup
import Mathlib.Logic.Relation
import ClusterConsole.Proofs.Config.Records
import ClusterConsole.Proofs.Toml.DistinctKeys

/-!
# Edits of a document

An edit of a document changes the order of the keys of a table, or adds a key
that the configuration does not declare.  It may be anywhere, but in the entries
of services it is only the order that changes.
-/

namespace ClusterConsole

open Toml (Value)

/-- The records of a configuration that stand in a document as tables, services
aside. -/
inductive Section where
  | config
  | cluster
  | tools
  | paths
  | readiness
  | probe
  | logging
deriving DecidableEq

/-- Where a value stands in a document: it is that of a section, it belongs to
the services, or it is neither. -/
inductive Position where
  | record (own : Section)
  | services
  | elsewhere
deriving DecidableEq

namespace Section

def keys : Section → List String
  | .config =>
    ["root", "namespace", "registry_prefix", "cluster", "tools", "paths",
      "readiness", "services", "log_targets", "logging"]
  | .cluster => ["name", "config_file", "ingress_manifest"]
  | .tools => ["cluster", "control", "build"]
  | .paths =>
    ["namespace", "metrics_server", "common", "infrastructure", "services",
      "ingress", "secret", "env_file"]
  | .readiness => ["ingress", "datastore", "namespace_settle_ms"]
  | .probe => ["selector", "namespace", "timeout_secs"]
  | .logging => ["level", "format"]

def under : Section → String → Position
  | .config, "cluster" => .record .cluster
  | .config, "tools" => .record .tools
  | .config, "paths" => .record .paths
  | .config, "readiness" => .record .readiness
  | .config, "services" => .services
  | .config, "logging" => .record .logging
  | .readiness, "ingress" => .record .probe
  | .readiness, "datastore" => .record .probe
  | _, _ => .elsewhere

end Section

namespace Position

def under : Position → String → Position
  | .record own, key => own.under key
  | position, _ => position

theorem under_eq_self {position : Position}
    (isNoRecord : ∀ own, position ≠ .record own) (key : String) :
    position.under key = position := by
  cases position with
  | record own => exact absurd rfl (isNoRecord own)
  | services => rfl
  | elsewhere => rfl

/-- Whether a key of a table is none that the configuration declares. -/
def Ignores : Position → String → Prop
  | .record own, key => key ∉ own.keys
  | .services, _ => False
  | .elsewhere, _ => True

end Position

/-- One edit of the value at a position. -/
inductive Edit : Position → Value → Value → Prop where
  | permute (position : Position) {entries others : List (String × Value)}
      (same : entries.Perm others) :
        Edit position (.table entries) (.table others)
  | add {position : Position} {key : String} {value : Value}
      {entries : List (String × Value)}
      (ignored : position.Ignores key) (isNew : key ∉ entries.map Prod.fst)
      (proper : value.Proper) :
        Edit position (.table entries) (.table ((key, value) :: entries))
  | entry {position : Position} {early late : List (String × Value)}
      {key : String}
      {value other : Value} (inside : Edit (position.under key) value other) :
      Edit position (.table (early ++ (key, value) :: late))
        (.table (early ++ (key, other) :: late))
  | item {position : Position} {early late : List Value} {value other : Value}
      (isNoRecord : ∀ own, position ≠ .record own)
      (inside : Edit position value other) :
      Edit position (.array (early ++ value :: late))
        (.array (early ++ other :: late))

/-- Documents that any number of edits lead to from each other, forwards or
backwards. -/
def Alike : List (String × Value) → List (String × Value) → Prop :=
  Relation.EqvGen fun entries others =>
    Edit (.record .config) (.table entries) (.table others)

theorem Toml.Value.Proper.entries {entries : List (String × Value)}
    (proper : (Value.table entries).Proper) :
    Toml.Tidy Value.Proper entries := by
  cases proper with
  | table distinct each => exact ⟨distinct, each⟩

theorem Toml.Value.Proper.items {items : List Value}
    (proper : (Value.array items).Proper) :
    ∀ item ∈ items, item.Proper := by
  cases proper with
  | array each => exact each

theorem proper_table_iff {entries : List (String × Value)} :
    (Value.table entries).Proper ↔
      (entries.map Prod.fst).Nodup ∧ ∀ entry ∈ entries, entry.2.Proper := by
  constructor
  · intro proper
    exact ⟨proper.entries.distinct, proper.entries.each⟩
  · intro tidy
    exact .table tidy.1 tidy.2

theorem proper_array_iff {items : List Value} :
    (Value.array items).Proper ↔ ∀ item ∈ items, item.Proper :=
  ⟨fun proper => proper.items, .array⟩

section Edits

variable {position : Position} {value other : Value}

/-- An edit neither takes away that no key is there twice nor brings it
about. -/
theorem Edit.proper_iff (edit : Edit position value other) :
    value.Proper ↔ other.Proper := by
  induction edit with
  | permute position same =>
      rw [proper_table_iff, proper_table_iff, (same.map Prod.fst).nodup_iff]
      exact and_congr_right fun _ => forall_congr' fun entry =>
        imp_congr_left same.mem_iff
  | add ignored isNew proper =>
      rw [proper_table_iff, proper_table_iff, List.map_cons, List.nodup_cons,
        List.forall_mem_cons]
      simp [isNew, proper]
  | entry inside ih =>
      rw [proper_table_iff, proper_table_iff]
      simp [or_imp, forall_and, ih]
  | item isNoRecord inside ih =>
      rw [proper_array_iff, proper_array_iff]
      simp [or_imp, forall_and, ih]

theorem Edit.isTable_or_isArray (edit : Edit position value other) :
    (∃ entries others, value = .table entries ∧ other = .table others) ∨
      ∃ items others, value = .array items ∧ other = .array others := by
  cases edit with
  | permute => exact .inl ⟨_, _, rfl, rfl⟩
  | add => exact .inl ⟨_, _, rfl, rfl⟩
  | entry => exact .inl ⟨_, _, rfl, rfl⟩
  | item => exact .inr ⟨_, _, rfl, rfl⟩

end Edits

/-! ## What there is under a key -/

section Lookups

variable {entries others : List (String × Value)} {key : String}

theorem mem_of_lookup {α : Type} {entries : List (String × α)} {content : α}
    (found : entries.lookup key = some content) : (key, content) ∈ entries := by
  obtain ⟨early, late, rfl, -⟩ := List.lookup_eq_some_iff.mp found
  exact List.mem_append_cons_self

theorem lookup_eq_some_iff_mem {α : Type} {entries : List (String × α)}
    {content : α} (distinct : (entries.map Prod.fst).Nodup) :
    entries.lookup key = some content ↔ (key, content) ∈ entries := by
  refine ⟨mem_of_lookup, fun member => ?_⟩
  obtain ⟨early, late, rfl⟩ := List.append_of_mem member
  refine List.lookup_eq_some_iff.mpr ⟨early, late, rfl, fun entry isEarly => ?_⟩
  rw [List.map_append, List.map_cons, List.nodup_append] at distinct
  have differs :=
    distinct.2.2 entry.1 (List.mem_map_of_mem isEarly) key List.mem_cons_self
  exact bne_iff_ne.mpr fun same => differs same.symm

theorem lookup_eq_of_perm {α : Type} {entries others : List (String × α)}
    (same : entries.Perm others) (distinct : (entries.map Prod.fst).Nodup) :
    entries.lookup key = others.lookup key := by
  apply Option.ext
  intro content
  have othersDistinct := (same.map Prod.fst).nodup_iff.mp distinct
  rw [lookup_eq_some_iff_mem distinct, lookup_eq_some_iff_mem othersDistinct,
    same.mem_iff]

/-- What an edit does to what there is under a key that is declared: nothing, or
an edit. -/
theorem Edit.lookup {position : Position}
    (edit : Edit position (.table entries) (.table others))
    (distinct : (entries.map Prod.fst).Nodup)
    (declared : ¬ position.Ignores key) :
    entries.lookup key = others.lookup key ∨
      ∃ value other, entries.lookup key = some value ∧
        others.lookup key = some other ∧
        Edit (position.under key) value other := by
  cases edit with
  | permute position same => exact .inl (lookup_eq_of_perm same distinct)
  | @add _ new value _ ignored isNew proper =>
      have differs : key ≠ new := by
        intro same
        exact declared (same ▸ ignored)
      exact .inl (lookup_cons_of_ne differs value entries).symm
  | @entry _ early late changed value other inside =>
      rw [List.lookup_append, List.lookup_append]
      cases isEarly : early.lookup key with
      | some content => exact .inl rfl
      | none =>
          by_cases same : key = changed
          · subst same
            exact .inr ⟨value, other, by simp, by simp, inside⟩
          · left
            rw [lookup_cons_of_ne same, lookup_cons_of_ne same]

end Lookups

end ClusterConsole
