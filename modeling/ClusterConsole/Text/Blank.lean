/-!
# Blank characters

A character is blank when Unicode gives it the property White_Space.  Trimming,
blank tests and the quoting of command arguments all use this one set.
-/

namespace ClusterConsole.Text

/-- The White_Space property.  The zero-width characters and the separators
U+001C to U+001F are not blank. -/
def isBlank (char : Char) : Bool :=
  let code := char.toNat
  (0x09 ≤ code && code ≤ 0x0D) || code == 0x20 || code == 0x85 ||
    code == 0xA0 ||
    code == 0x1680 || (0x2000 ≤ code && code ≤ 0x200A) || code == 0x2028 ||
    code == 0x2029 || code == 0x202F || code == 0x205F || code == 0x3000

/-- The characters up to and including the last one that is not blank. -/
def dropTrailingBlanks : List Char → List Char
  | [] => []
  | char :: rest =>
    match dropTrailingBlanks rest with
    | [] => if isBlank char then [] else [char]
    | kept => char :: kept

/-- The characters between the blanks at either end. -/
def trimChars (chars : List Char) : List Char :=
  dropTrailingBlanks (chars.dropWhile isBlank)

/-- The text between the blanks at either end. -/
def trim (text : String) : String :=
  String.ofList (trimChars text.toList)

/-- Whether a text has no character that is not blank. -/
def isAllBlank (text : String) : Bool :=
  text.toList.all isBlank

theorem dropTrailingBlanks_eq_nil_iff {chars : List Char} :
    dropTrailingBlanks chars = [] ↔ chars.all isBlank = true := by
  induction chars with
  | nil => simp [dropTrailingBlanks]
  | cons char rest ih =>
      rw [dropTrailingBlanks]
      split
      · rename_i none
        by_cases blank : isBlank char = true <;> simp_all
      · rename_i kept some
        have : rest.all isBlank ≠ true := fun all => some (ih.mpr all)
        simp_all

end ClusterConsole.Text
