import ClusterConsole.Overrides

/-!
# What an environment source sets

The last line that sets a key decides on its value, and a value is a part of the
line that it comes from.
-/

namespace ClusterConsole

namespace Text

theorem mem_of_mem_dropTrailingBlanks {char : Char} {chars : List Char}
    (member : char ∈ dropTrailingBlanks chars) : char ∈ chars := by
  induction chars with
  | nil => exact member
  | cons first rest ih =>
      rw [dropTrailingBlanks] at member
      split at member
      · split at member
        · simp at member
        · exact List.mem_cons.mpr (.inl (List.mem_singleton.mp member))
      · rcases List.mem_cons.mp member with rfl | later
        · exact List.mem_cons_self
        · exact List.mem_cons_of_mem _ (ih later)

theorem mem_of_mem_trimChars {char : Char} {chars : List Char}
    (member : char ∈ trimChars chars) : char ∈ chars :=
  (List.dropWhile_sublist isBlank).subset (mem_of_mem_dropTrailingBlanks member)

end Text

namespace Overrides

/-- The last entry for a key decides on its value. -/
theorem get?_ofList (entries : List (String × String)) (key : String) :
    (ofList entries).get? key =
      (entries.reverse.find? fun entry => entry.1 = key).map (·.2) := by
  -- The fold begins without any values, but the induction needs it from
  -- anywhere.
  suffices fromAny : ∀ overrides : Overrides,
      (entries.foldl (fun overrides entry => overrides.set entry.1 entry.2)
          overrides).get? key =
        ((entries.reverse.find? fun entry => entry.1 = key).map (·.2)).or
          (overrides.get? key) by
    rw [ofList, fromAny]
    simp [empty, get?, valueOf?]
  induction entries with
  | nil => simp
  | cons entry entries ih =>
      intro overrides
      rw [List.foldl_cons, ih, get?_set, List.reverse_cons, List.find?_append,
        Option.map_or, Option.or_assoc]
      by_cases isKey : entry.1 = key <;> simp [isKey]

theorem exists_line_of_get?_parse {source key value : String}
    (found : (parse source).get? key = some value) :
    ∃ line ∈ Text.charLines source.toList,
    assignment? line = some (key, value) := by
  rw [parse, get?_ofList, Option.map_eq_some_iff] at found
  obtain ⟨entry, last, rfl⟩ := found
  have isKey : entry.1 = key := by simpa using List.find?_some last
  subst isKey
  have member := List.mem_of_find?_eq_some last
  rw [List.mem_reverse, List.mem_filterMap] at member
  exact member

theorem mem_line_of_assignment? {line : List Char} {key value : String}
    {char : Char} (sets : assignment? line = some (key, value))
    (member : char ∈ value.toList) :
    char ∈ Text.trimChars line := by
  rw [assignment?] at sets
  split at sets
  · cases sets
  · cases sets
  · split at sets
    · cases sets
    · simp only [Option.some.injEq, Prod.mk.injEq] at sets
      rw [← sets.2, String.toList_ofList] at member
      exact (List.dropWhile_sublist _).subset
        (List.mem_of_mem_drop (Text.mem_of_mem_trimChars member))

end Overrides

end ClusterConsole
