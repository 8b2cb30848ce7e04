import Mathlib.Data.List.Perm.Basic
import ClusterConsole.Proofs.Config.Records

/-!
# Build arguments of a document

A table of texts stands for build arguments, which are its entries sorted by
their keys.
-/

namespace ClusterConsole

open Toml (Value)

namespace BuildArguments

theorem perm_insertEntry {key value : String} {entries : List (String × String)}
    (isNew : key ∉ entries.map Prod.fst) :
    (insertEntry key value entries).Perm ((key, value) :: entries) := by
  induction entries with
  | nil => exact .refl _
  | cons entry rest ih =>
      obtain ⟨otherKey, otherValue⟩ := entry
      rw [List.map_cons, List.mem_cons, not_or] at isNew
      rw [insertEntry, if_neg isNew.1]
      split
      · exact .refl _
      · exact ((ih isNew.2).cons _).trans (.swap ..)

theorem perm_foldl_insert {entries : List (String × String)}
    (start : BuildArguments)
    (distinct : ((entries ++ start.entries).map Prod.fst).Nodup) :
    (entries.foldl (fun arguments entry => arguments.insert entry.1 entry.2)
        start).entries.Perm
      (entries ++ start.entries) := by
  induction entries generalizing start with
  | nil => exact .refl _
  | cons entry rest ih =>
      have isNew : entry.1 ∉ start.entries.map Prod.fst := by
        rw [List.cons_append, List.map_cons, List.map_append, List.nodup_cons]
          at distinct
        intro isOld
        exact distinct.1 (List.mem_append_right _ isOld)
      have inserted :
          (start.insert entry.1 entry.2).entries.Perm
          (entry :: start.entries) :=
        perm_insertEntry isNew
      have whole : (rest ++ (start.insert entry.1 entry.2).entries).Perm
          (entry :: rest ++ start.entries) :=
        (inserted.append_left rest).trans List.perm_middle
      exact (ih _ ((whole.map Prod.fst).nodup_iff.mpr distinct)).trans whole

/-- Entries without a key that is there twice are sorted, and nothing else. -/
theorem perm_ofList {entries : List (String × String)}
    (distinct : (entries.map Prod.fst).Nodup) :
    (ofList entries).entries.Perm entries := by
  have noOthers : entries ++ empty.entries = entries := List.append_nil entries
  have whole := perm_foldl_insert empty (noOthers.symm ▸ distinct)
  rwa [noOthers] at whole

theorem eq_of_perm {first second : BuildArguments}
    (same : first.entries.Perm second.entries) :
    first = second := by
  have entries : first.entries = second.entries := by
    apply List.Perm.eq_of_pairwise _ first.sorted second.sorted same
    intro one other _ _ before after
    exact absurd before (String.lt_asymm after)
  cases first
  cases second
  cases entries
  rfl

/-- The entries of a table that stands for build arguments. -/
def spelled (arguments : List (String × String)) : List (String × Value) :=
  arguments.map fun entry => (entry.1, .string entry.2)

theorem keys_spelled (arguments : List (String × String)) :
    (spelled arguments).map Prod.fst = arguments.map Prod.fst := by
  simp [spelled]

theorem exists_spelled {entries : List (String × Value)}
    (areTexts : ∀ entry ∈ entries, ∃ text, entry.2 = .string text) :
    ∃ found, entries = spelled found := by
  induction entries with
  | nil => exact ⟨[], rfl⟩
  | cons entry rest ih =>
      obtain ⟨text, isText⟩ := areTexts entry List.mem_cons_self
      obtain ⟨found, rfl⟩ :=
        ih fun own member => areTexts own (List.mem_cons_of_mem _ member)
      exact ⟨(entry.1, text) :: found, by simp [spelled, ← isText]⟩

/-- Whatever order spelled arguments are brought into, they are the arguments in
some order. -/
theorem exists_spelled_of_perm {entries : List (String × Value)}
    {arguments : List (String × String)}
    (same : entries.Perm (spelled arguments)) :
    ∃ found, entries = spelled found ∧ found.Perm arguments := by
  have areTexts : ∀ entry ∈ entries, ∃ text, entry.2 = .string text := by
    intro entry member
    obtain ⟨own, -, rfl⟩ := List.mem_map.mp (same.mem_iff.mp member)
    exact ⟨own.2, rfl⟩
  obtain ⟨found, rfl⟩ := exists_spelled areTexts
  refine ⟨found, rfl, (List.map_perm_map_iff ?_).mp same⟩
  intro first second isSame
  simp only [Prod.mk.injEq, Value.string.injEq] at isSame
  exact Prod.ext isSame.1 isSame.2

theorem mapM_eq_ok_iff_spelled {entries : List (String × Value)}
    {found : List (String × String)} :
    (entries.mapM fun entry => do
        let content ← Decode.text entry.2
        return (entry.1, content)) = .ok found ↔
      entries = spelled found := by
  rw [mapM_eq_ok_iff, spelled, ← List.forall₂_eq_eq_eq,
    List.forall₂_map_right_iff]
  refine iff_of_eq
    (congrArg (fun relation => List.Forall₂ relation entries found) ?_)
  funext entry own
  obtain ⟨key, value⟩ := entry
  obtain ⟨ownKey, ownText⟩ := own
  cases value <;> simp [Decode.text, bind, Except.bind, pure, Except.pure]

theorem decode_eq_ok_iff {entries : List (String × Value)}
    {arguments : BuildArguments} (distinct : (entries.map Prod.fst).Nodup) :
    Decode.arguments (.table entries) = .ok arguments ↔
      entries.Perm (spelled arguments.entries) := by
  have sequence : Decode.arguments (.table entries) = .ok arguments ↔
      ∃ found, entries = spelled found ∧ ofList found = arguments := by
    show (_ >>= _ : Except Toml.Mismatch BuildArguments) = _ ↔ _
    rw [bind_eq_ok_iff]
    refine exists_congr fun found => and_congr mapM_eq_ok_iff_spelled ?_
    exact ⟨Except.ok.inj, congrArg Except.ok⟩
  rw [sequence]
  constructor
  · intro decoded
    obtain ⟨found, rfl, rfl⟩ := decoded
    rw [keys_spelled] at distinct
    exact (perm_ofList distinct).symm.map _
  · intro same
    obtain ⟨found, rfl, reordered⟩ := exists_spelled_of_perm same
    rw [keys_spelled] at distinct
    exact ⟨found, rfl, eq_of_perm ((perm_ofList distinct).trans reordered)⟩

end BuildArguments

end ClusterConsole
