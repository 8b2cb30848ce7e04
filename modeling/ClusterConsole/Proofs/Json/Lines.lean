import ClusterConsole.Proofs.Json.Reading

/-!
# Lines of JSON

What is written of a value has no control character, so it takes up a single
line, and a program that takes a text apart at its line feeds can read each line
by itself.
-/

namespace ClusterConsole.Json

/-! ## No control characters -/

def Visible (text : List Char) : Prop :=
  ∀ char ∈ text, 0x20 ≤ char.toNat

@[simp] theorem visible_nil : Visible [] := nofun

@[simp] theorem visible_cons {char : Char} {text : List Char} :
    Visible (char :: text) ↔ 0x20 ≤ char.toNat ∧ Visible text :=
  List.forall_mem_cons

@[simp] theorem visible_append {first second : List Char} :
    Visible (first ++ second) ↔ Visible first ∧ Visible second :=
  List.forall_mem_append

theorem visible_digitChar {digit : Nat} (isDigit : digit < 16) :
    0x20 ≤ (Nat.digitChar digit).toNat := by
  revert digit
  decide

theorem visible_escaped (char : Char) : Visible (escaped char) := by
  unfold escaped
  split
  case h_8 =>
    split
    case isTrue isControl =>
      have first := visible_digitChar (show char.toNat / 16 < 16 by omega)
      have second := visible_digitChar (show char.toNat % 16 < 16 by omega)
      simpa [controlEscape] using ⟨first, second⟩
    case isFalse notControl => simpa using notControl
  all_goals simp

theorem visible_quotedText (text : List Char) : Visible (quotedText text) := by
  have escapes : Visible (text.flatMap escaped) := by
    intro own member
    obtain ⟨char, _, escapes⟩ := List.mem_flatMap.mp member
    exact visible_escaped char own escapes
  simpa [quotedText] using escapes

theorem visible_toDigits (number : Nat) : Visible (Nat.toDigits 10 number) := by
  intro char member
  have isDigit := Nat.isDigit_of_mem_toDigits (by decide) (by decide) member
  simp only [Char.isDigit, Bool.and_eq_true, decide_eq_true_eq] at isDigit
  exact Nat.le_trans (by decide) (UInt32.le_iff_toNat_le.mp isDigit.1)

theorem visible_toString (number : Int) : Visible (toString number).toList := by
  cases number with
  | ofNat number =>
      rw [toList_toString_ofNat]
      exact visible_toDigits number
  | negSucc number =>
      rw [toList_toString_negSucc, visible_cons]
      exact ⟨by decide, visible_toDigits _⟩

theorem visible_itemChars {items : List Value}
    (all : ∀ item ∈ items, Visible item.chars) :
    Visible (Value.itemChars items) := by
  induction items with
  | nil => exact visible_nil
  | cons item items ih =>
      obtain ⟨first, others⟩ := List.forall_mem_cons.mp all
      cases items with
      | nil => simpa [Value.itemChars] using first
      | cons next items => simpa [itemChars_cons_cons] using ⟨first, ih others⟩

theorem visible_entryChars {entries : List (String × Value)}
    (all : ∀ entry ∈ entries, Visible entry.2.chars) :
    Visible (Value.entryChars entries) := by
  induction entries with
  | nil => exact visible_nil
  | cons entry entries ih =>
      obtain ⟨first, others⟩ := List.forall_mem_cons.mp all
      have key := visible_quotedText entry.1.toList
      cases entries with
      | nil => simpa [Value.entryChars] using ⟨key, first⟩
      | cons next entries =>
          have rest := ih others
          rw [entryChars_cons_cons, visible_append, visible_cons,
            visible_append, visible_cons]
          exact ⟨key, by decide, first, by decide, rest⟩

/-- What is written of a value has no control character. -/
theorem IsMapped.visible {value : Value} (mapped : IsMapped value) :
    Visible value.chars := by
  induction mapped with
  | null => simp [Value.chars]
  | boolean value => cases value <;> simp [Value.chars]
  | number number => exact visible_toString number
  | text text => exact visible_quotedText text.toList
  | list _ ih => simpa [Value.chars] using visible_itemChars ih
  | record _ _ ih => simpa [Value.chars] using visible_entryChars ih

/-! ## Lines -/

/-- The lines of a text in which each line ends with a line feed; the first one
goes on after what there is `before`. -/
def linesAfter? (before : List Char) : List Char → Option (List (List Char))
  | [] => if before = [] then some [] else none
  | char :: rest =>
    if char = '\n' then (linesAfter? [] rest).map (before :: ·)
    else linesAfter? (before ++ [char]) rest

def readLines? (text : List Char) : Option (List Value) := do
  (← linesAfter? [] text).mapM read?

theorem linesAfter?_line {line : List Char} (isLine : '\n' ∉ line)
    (before rest : List Char) :
    linesAfter? before (line ++ '\n' :: rest) =
      (linesAfter? [] rest).map ((before ++ line) :: ·) := by
  induction line generalizing before with
  | nil => simp [linesAfter?]
  | cons char line ih =>
      have noBreak : char ≠ '\n' := fun same =>
        isLine (same ▸ List.mem_cons_self)
      have others : '\n' ∉ line := fun member =>
        isLine (List.mem_cons_of_mem _ member)
      rw [List.cons_append, linesAfter?, if_neg noBreak, ih others,
        List.append_assoc, List.singleton_append]

theorem Visible.isLine {text : List Char} (visible : Visible text) :
    '\n' ∉ text :=
  fun member => absurd (visible '\n' member) (by decide)

theorem linesAfter?_lines {lines : List (List Char)}
    (areLines : ∀ line ∈ lines, '\n' ∉ line) :
    linesAfter? [] (lines.flatMap fun line => line ++ ['\n']) = some lines := by
  induction lines with
  | nil => rfl
  | cons line lines ih =>
      obtain ⟨isLine, others⟩ := List.forall_mem_cons.mp areLines
      rw [List.flatMap_cons, List.append_assoc, List.singleton_append,
        linesAfter?_line isLine, ih others]
      rfl

/-- Values that are written line by line are read again. -/
theorem readLines?_lines {values : List Value}
    (mapped : ∀ value ∈ values, IsMapped value) :
    readLines? (values.flatMap fun value => value.chars ++ ['\n']) =
      some values := by
  have lines : linesAfter? [] ((values.map Value.chars).flatMap fun line =>
    line ++ ['\n']) =
      some (values.map Value.chars) := by
    apply linesAfter?_lines
    intro line member
    obtain ⟨value, isValue, rfl⟩ := List.mem_map.mp member
    exact (mapped value isValue).visible.isLine
  have reads : ∀ values : List Value, (∀ value ∈ values, IsMapped value) →
      (values.map Value.chars).mapM read? = some values := by
    intro values
    induction values with
    | nil => exact fun _ => rfl
    | cons value values ih =>
        intro mapped
        obtain ⟨first, others⟩ := List.forall_mem_cons.mp mapped
        rw [List.map_cons, List.mapM_cons, read?_chars first, ih others]
        rfl
  rw [List.flatMap_map] at lines
  rw [readLines?, lines]
  exact reads values mapped

end ClusterConsole.Json
