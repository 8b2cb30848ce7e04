import Mathlib.Data.List.Basic
import Mathlib.Data.Nat.Notation
import ClusterConsole.Json.Value
import ClusterConsole.Proofs.Text.Lines

/-!
# Reading JSON

The rules by which another program reads JSON: blanks between the parts of a
value have no meaning, a text has its escapes undone, and an object is a map, in
which the last of several entries with one key counts.  Of the numbers only the
whole ones are read.  What is written of a value is read as that value again,
and it takes up a single line.
-/

namespace ClusterConsole.Json

/-! ## Texts -/

/-- A part of a text between quotes: a character, or a unit of UTF-16 by its
number. -/
inductive Piece where
  | char (char : Char)
  | unit (number : Nat)
deriving DecidableEq, Repr

/-- The character that is escaped by a single one. -/
def named? : Char → Option Char
  | '"' => some '"'
  | '\\' => some '\\'
  | '/' => some '/'
  | 'b' => some '\x08'
  | 'f' => some '\x0c'
  | 'n' => some '\n'
  | 'r' => some '\r'
  | 't' => some '\t'
  | _ => none

def hexDigit? (char : Char) : Option Nat :=
  if '0' ≤ char ∧ char ≤ '9' then some (char.toNat - '0'.toNat)
  else if 'a' ≤ char ∧ char ≤ 'f' then some (char.toNat - 'a'.toNat + 10)
  else if 'A' ≤ char ∧ char ≤ 'F' then some (char.toNat - 'A'.toNat + 10)
  else none

/-- The number that some hexadecimal digits stand for. -/
def hexNumber? (digits : List Char) : Option Nat :=
  digits.foldlM (fun number digit => (hexDigit? digit).map (16 * number + ·)) 0

/-- The pieces of a text up to its closing quote, and what comes after it.  No
control character may stand in a text as it is. -/
def pieces? : List Char → Option (List Piece × List Char)
  | [] => none
  | '"' :: after => some ([], after)
  | '\\' :: 'u' :: first :: second :: third :: fourth :: rest => do
    let number ← hexNumber? [first, second, third, fourth]
    (pieces? rest).map fun (pieces, after) => (.unit number :: pieces, after)
  | '\\' :: name :: rest => do
    let char ← named? name
    (pieces? rest).map fun (pieces, after) => (.char char :: pieces, after)
  | char :: rest =>
    if char.toNat < 0x20 then none
    else (pieces? rest).map fun (pieces, after) => (.char char :: pieces, after)

/-- The number of the character that two units stand for together. -/
def surrogates? (high low : Nat) : Option Nat :=
  if 0xd800 ≤ high ∧ high < 0xdc00 ∧ 0xdc00 ≤ low ∧ low < 0xe000 then
    some (0x10000 + 0x400 * (high - 0xd800) + (low - 0xdc00))
  else none

/-- The characters of a text.  A unit that needs another one does not stand
alone. -/
def joined? : List Piece → Option (List Char)
  | [] => some []
  | .char char :: rest => (joined? rest).map (char :: ·)
  | .unit high :: .unit low :: rest =>
    match surrogates? high low with
    | some number => (joined? rest).map (.ofNat number :: ·)
    | none =>
      if high.isValidChar then
        (joined? (.unit low :: rest)).map (.ofNat high :: ·)
      else none
  | .unit number :: rest =>
    if number.isValidChar then (joined? rest).map (.ofNat number :: ·) else none

/-- The text up to a closing quote, and what comes after it. -/
def readText? (text : List Char) : Option (String × List Char) := do
  let (pieces, after) ← pieces? text
  return (.ofList (← joined? pieces), after)

theorem hexNumber?_control {number : Nat} (isControl : number < 0x20) :
    hexNumber? ['0', '0', Nat.digitChar (number / 16),
      Nat.digitChar (number % 16)] =
      some number := by
  revert number
  decide

theorem joined?_unit {number : Nat} (isControl : number < 0x20)
    (pieces : List Piece) :
    joined? (.unit number :: pieces) =
      (joined? pieces).map (.ofNat number :: ·) := by
  have isValid : number.isValidChar := .inl (by omega)
  cases pieces with
  | nil => simp [joined?, isValid]
  | cons piece rest =>
      cases piece with
      | char other => simp [joined?, isValid]
      | unit low =>
          have isSingle : surrogates? number low = none := by
            rw [surrogates?, if_neg (by omega)]
          simp [joined?, isValid, isSingle]

theorem pieces?_plain {char : Char} (notQuote : char ≠ '"')
    (notBackslash : char ≠ '\\') (notControl : ¬ char.toNat < 0x20)
    (rest : List Char) :
    pieces? (char :: rest) =
      (pieces? rest).map fun (pieces, after) =>
        (.char char :: pieces, after) := by
  rw [pieces?, if_neg notControl]
  all_goals simp_all

/-- A character is read as one piece, which stands for it whatever comes
after. -/
theorem exists_piece (char : Char) :
    ∃ piece : Piece,
      (∀ rest, pieces? (escaped char ++ rest) =
        (pieces? rest).map fun (pieces, after) => (piece :: pieces, after)) ∧
      ∀ pieces, joined? (piece :: pieces) =
        (joined? pieces).map (char :: ·) := by
  unfold escaped
  split
  case h_8 _ notQuote notBackslash _ _ _ _ _ =>
    by_cases isControl : char.toNat < 0x20
    · refine ⟨.unit char.toNat, fun rest => ?_, fun pieces => ?_⟩
      · simp [isControl, controlEscape, pieces?, hexNumber?_control isControl]
      · rw [joined?_unit isControl, Char.ofNat_toNat]
    · refine ⟨.char char, fun rest => ?_, fun pieces => rfl⟩
      rw [if_neg isControl]
      exact pieces?_plain notQuote notBackslash isControl rest
  all_goals
    refine ⟨.char _, fun rest => ?_, fun pieces => rfl⟩
    simp [pieces?, named?]

theorem readText?_escaped (text rest : List Char) :
    readText? (text.flatMap escaped ++ '"' :: rest) =
      some (.ofList text, rest) := by
  have reads : ∃ pieces, pieces? (text.flatMap escaped ++ '"' :: rest) =
      some (pieces, rest) ∧
      joined? pieces = some text := by
    induction text with
    | nil => exact ⟨[], rfl, rfl⟩
    | cons char text ih =>
        obtain ⟨pieces, read, joined⟩ := ih
        obtain ⟨piece, readsFirst, joins⟩ := exists_piece char
        refine ⟨piece :: pieces, ?_, ?_⟩
        · rw [List.flatMap_cons, List.append_assoc, readsFirst, read]
          rfl
        · rw [joins, joined]
          rfl
  obtain ⟨pieces, read, joined⟩ := reads
  simp [readText?, read, joined]

/-! ## Numbers -/

/-- The whole number that a text begins with, and what comes after it. -/
def readNatural? (text : List Char) : Option (Nat × List Char) :=
  let digits := text.takeWhile Char.isDigit
  if digits = [] ∨ digits.head? = some '0' ∧ digits ≠ ['0'] then none
  else some (Nat.ofDigitChars 10 digits 0, text.dropWhile Char.isDigit)

def readNumber? : List Char → Option (Value × List Char)
  | '-' :: text =>
    (readNatural? text).map fun (number, after) => (.number (-number), after)
  | text =>
    (readNatural? text).map fun (number, after) => (.number number, after)

/-- Whether a text goes on without a digit, as it does after a value. -/
def EndsNumber (rest : List Char) : Prop :=
  ∀ char ∈ rest.head?, char.isDigit = false

theorem head?_toDigits_ne {number : Nat} (isPositive : 0 < number) :
    (Nat.toDigits 10 number).head? ≠ some '0' := by
  -- The first digit is that of the number without its last digit.
  induction number using Nat.strongRecOn with
  | ind number ih =>
      rw [Nat.toDigits_eq_if (by decide)]
      split
      case isTrue isDigit =>
        have digits :
            ∀ digit < 10, 0 < digit →
            [Nat.digitChar digit].head? ≠ some '0' := by
          decide
        exact digits number isDigit isPositive
      case isFalse isLong =>
        have first := ih (number / 10) (by omega) (by omega)
        rwa [List.head?_append_of_ne_nil _ Nat.toDigits_ne_nil]

theorem readNatural?_toDigits (number : Nat) {rest : List Char}
    (ends : EndsNumber rest) :
    readNatural? (Nat.toDigits 10 number ++ rest) = some (number, rest) := by
  have areDigits : ∀ char ∈ Nat.toDigits 10 number, char.isDigit = true :=
    fun char member =>
      Nat.isDigit_of_mem_toDigits (by decide) (by decide) member
  have taken := Text.takeWhile_append_of_ends areDigits ends
  have dropped := Text.dropWhile_append_of_ends areDigits ends
  have isNumeral : ¬ (Nat.toDigits 10 number = [] ∨
      (Nat.toDigits 10 number).head? = some '0' ∧
      Nat.toDigits 10 number ≠ ['0']) := by
    rintro (isEmpty | ⟨zero, notZero⟩)
    · exact Nat.toDigits_ne_nil isEmpty
    · cases number with
      | zero => exact notZero rfl
      | succ number => exact head?_toDigits_ne (Nat.succ_pos number) zero
  simp only [readNatural?, taken, dropped, if_neg isNumeral,
    Nat.ofDigitChars_ten_toDigits]

theorem toList_toString_ofNat (number : Nat) :
    (toString (Int.ofNat number)).toList = Nat.toDigits 10 number := by
  simp [toString, Int.repr]

theorem toList_toString_negSucc (number : Nat) :
    (toString (Int.negSucc number)).toList = '-' :: Nat.toDigits 10
    (number + 1) := by
  simp [toString, Int.repr]

theorem exists_first_digit (number : Nat) :
    ∃ first others, Nat.toDigits 10 number = first :: others ∧
    first.isDigit = true := by
  obtain ⟨first, others, cons⟩ :=
    List.exists_cons_of_ne_nil (Nat.toDigits_ne_nil (b := 10) (n := number))
  exact ⟨first, others, cons,
    Nat.isDigit_of_mem_toDigits (by decide) (by decide)
      (cons ▸ List.mem_cons_self)⟩

theorem readNumber?_toString (number : Int) {rest : List Char}
    (ends : EndsNumber rest) :
    readNumber? ((toString number).toList ++ rest) =
      some (.number number, rest) := by
  cases number with
  | ofNat number =>
      obtain ⟨first, others, cons, isDigit⟩ := exists_first_digit number
      have noSign : first ≠ '-' := by
        rintro rfl
        cases isDigit
      have natural := readNatural?_toDigits number ends
      rw [toList_toString_ofNat]
      rw [cons, List.cons_append] at natural ⊢
      rw [readNumber?, natural]
      · rfl
      · simp [noSign]
  | negSucc number =>
      rw [toList_toString_negSucc, List.cons_append, readNumber?,
        readNatural?_toDigits _ ends]
      rfl

/-! ## Values -/

def isBlank (char : Char) : Bool :=
  char == ' ' || char == '\t' || char == '\n' || char == '\r'

def skipBlanks (text : List Char) : List Char :=
  text.dropWhile isBlank

/-- The key that a text begins with, and what comes after its colon. -/
def readKey? (text : List Char) : Option (String × List Char) :=
  match skipBlanks text with
  | '"' :: text => do
    let (key, rest) ← readText? text
    match skipBlanks rest with
    | ':' :: after => return (key, after)
    | _ => none
  | _ => none

mutual

/-- The value that a text begins with, and what comes after it.  The `depth`
bounds the parts of values that are read, one after the other or one in the
other. -/
def readValue? : (depth : Nat) → List Char → Option (Value × List Char)
  | 0, _ => none
  | depth + 1, text =>
    match skipBlanks text with
    | '"' :: text =>
      (readText? text).map fun (content, after) => (.text content, after)
    | '[' :: rest =>
      match skipBlanks rest with
      | ']' :: after => some (.list [], after)
      | _ =>
        (readItems? depth rest).map fun (items, after) => (.list items, after)
    | '\x7b' :: rest =>
      match skipBlanks rest with
      | '\x7d' :: after => some (.object [], after)
      | _ =>
        (readEntries? depth rest).map fun (entries, after) =>
          (.object entries, after)
    | 'n' :: 'u' :: 'l' :: 'l' :: after => some (.null, after)
    | 't' :: 'r' :: 'u' :: 'e' :: after => some (.boolean true, after)
    | 'f' :: 'a' :: 'l' :: 's' :: 'e' :: after => some (.boolean false, after)
    | text => readNumber? text

/-- Some values with commas between them up to the end of a list, and what comes
after. -/
def readItems? : (depth : Nat) → List Char → Option (List Value × List Char)
  | 0, _ => none
  | depth + 1, text => do
    let (item, rest) ← readValue? depth text
    match skipBlanks rest with
    | ',' :: rest =>
      (readItems? depth rest).map fun (items, after) => (item :: items, after)
    | ']' :: after => return ([item], after)
    | _ => none

/-- Some entries with commas between them up to the end of an object, and what
comes after. -/
def readEntries? :
    (depth : Nat) → List Char → Option (List (String × Value) × List Char)
  | 0, _ => none
  | depth + 1, text => do
    let (key, rest) ← readKey? text
    let (value, rest) ← readValue? depth rest
    match skipBlanks rest with
    | ',' :: rest =>
      (readEntries? depth rest).map fun (entries, after) =>
        ((key, value) :: entries, after)
    | '\x7d' :: after => return ([(key, value)], after)
    | _ => none

end

def read? (text : List Char) : Option Value := do
  let (value, after) ← readValue? (text.length + 1) text
  if skipBlanks after = [] then some value else none

/-! ## What is written is read -/

theorem skipBlanks_cons {char : Char} (isNoBlank : isBlank char = false)
    (rest : List Char) :
    skipBlanks (char :: rest) = char :: rest := by
  simp [skipBlanks, isNoBlank]

/-- Whether a value is read wherever it is written. -/
def Reads (value : Value) : Prop :=
  ∀ (depth : Nat) (rest : List Char), value.chars.length ≤ depth →
    EndsNumber rest →
    readValue? (depth + 1) (value.chars ++ rest) = some (value, rest)

theorem reads_null : Reads .null := by
  intro depth rest _ _
  rfl

theorem reads_boolean (value : Bool) : Reads (.boolean value) := by
  intro depth rest _ _
  cases value <;> rfl

theorem readValue?_quote (depth : Nat) (text : List Char) :
    readValue? (depth + 1) ('"' :: text) =
      (readText? text).map fun (content, after) => (.text content, after) :=
  rfl

theorem reads_text (content : String) : Reads (.text content) := by
  intro depth rest _ _
  simp [Value.chars, quotedText, readValue?_quote, readText?_escaped]

def beginsNumber (char : Char) : Bool :=
  char == '-' || char.isDigit

theorem exists_first_number (number : Int) :
    ∃ first others, (toString number).toList = first :: others ∧
    beginsNumber first = true := by
  cases number with
  | ofNat number =>
      obtain ⟨first, others, digits⟩ := exists_first_digit number
      rw [toList_toString_ofNat]
      exact ⟨first, others, digits.1, by simp [beginsNumber, digits.2]⟩
  | negSucc number => exact ⟨'-', _, toList_toString_negSucc number, rfl⟩

theorem isBlank_of_beginsNumber {char : Char}
    (begins : beginsNumber char = true) :
    isBlank char = false := by
  apply Bool.eq_false_iff.mpr
  intro blank
  simp only [isBlank, Bool.or_eq_true, beq_iff_eq] at blank
  rcases blank with ((rfl | rfl) | rfl) | rfl <;> cases begins

theorem readValue?_number {first : Char} (begins : beginsNumber first = true)
    (depth : Nat) (rest : List Char) :
    readValue? (depth + 1) (first :: rest) = readNumber? (first :: rest) := by
  have isOther : first ≠ '"' ∧ first ≠ '[' ∧ first ≠ '\x7b' ∧ first ≠ 'n' ∧
      first ≠ 't' ∧
      first ≠ 'f' := by
    refine ⟨?_, ?_, ?_, ?_, ?_, ?_⟩ <;> rintro rfl <;> cases begins
  rw [readValue?, skipBlanks_cons (isBlank_of_beginsNumber begins)]
  split <;> simp_all

theorem reads_number (number : Int) : Reads (.number number) := by
  intro depth rest _ ends
  obtain ⟨first, others, cons, begins⟩ := exists_first_number number
  have read := readNumber?_toString number ends
  rw [Value.chars, cons, List.cons_append] at *
  rw [readValue?_number begins, read]

theorem endsNumber_cons {char : Char} (noDigit : char.isDigit = false)
    (rest : List Char) :
    EndsNumber (char :: rest) := by
  simpa [EndsNumber] using noDigit

/-- A value begins with a character that neither is passed over nor closes a
list. -/
theorem exists_first_chars (value : Value) :
    ∃ first others, value.chars = first :: others ∧ isBlank first = false ∧
    first ≠ ']' := by
  cases value with
  | number number =>
      obtain ⟨first, others, cons, begins⟩ := exists_first_number number
      exact ⟨first, others, cons, isBlank_of_beginsNumber begins,
        by rintro rfl; cases begins⟩
  | boolean value => cases value <;> exact ⟨_, _, rfl, rfl, by decide⟩
  | _ => exact ⟨_, _, rfl, rfl, by decide⟩

theorem itemChars_cons_cons (first second : Value) (rest : List Value) :
    Value.itemChars (first :: second :: rest) =
      first.chars ++ ',' :: Value.itemChars (second :: rest) := by
  simp [Value.itemChars]

theorem readItems?_itemChars (items : List Value)
    (reads : ∀ item ∈ items, Reads item) (isNonempty : items ≠ []) (depth : Nat)
    (rest : List Char) (enough : (Value.itemChars items).length + 1 ≤ depth) :
    readItems? (depth + 1) (Value.itemChars items ++ ']' :: rest) =
      some (items, rest) := by
  induction items generalizing depth with
  | nil => exact absurd rfl isNonempty
  | cons item items ih =>
      obtain ⟨depth, rfl⟩ : ∃ less, depth = less + 1 := ⟨depth - 1, by omega⟩
      have readsItem := reads item List.mem_cons_self
      cases items with
      | nil =>
          rw [Value.itemChars] at enough ⊢
          rw [readItems?, readsItem depth _ (by omega) (endsNumber_cons rfl _)]
          simp [skipBlanks_cons, isBlank]
      | cons next items =>
          rw [itemChars_cons_cons, List.length_append, List.length_cons]
            at enough
          have readsRest :=
            ih (fun item member => reads item (List.mem_cons_of_mem _ member))
            (List.cons_ne_nil _ _) depth (by omega)
          rw [itemChars_cons_cons, List.append_assoc, List.cons_append,
            readItems?, readsItem depth _ (by omega) (endsNumber_cons rfl _)]
          simp [skipBlanks_cons, isBlank, readsRest]

theorem exists_first_itemChars (item : Value) (items : List Value) :
    ∃ first others, Value.itemChars (item :: items) = first :: others ∧
      isBlank first = false ∧ first ≠ ']' := by
  obtain ⟨first, others, cons, isFirst⟩ := exists_first_chars item
  cases items with
  | nil => exact ⟨first, others, by simp [Value.itemChars, cons], isFirst⟩
  | cons next items =>
    exact ⟨first, _, by rw [itemChars_cons_cons, cons]; rfl, isFirst⟩

theorem readValue?_list {first : Char} (isNoBlank : isBlank first = false)
    (isNoEnd : first ≠ ']') (depth : Nat) (others : List Char) :
    readValue? (depth + 1) ('[' :: first :: others) =
      (readItems? depth (first :: others)).map fun (items, after) =>
        (.list items, after) := by
  have skips : isBlank '[' = false := rfl
  simp only [readValue?, skipBlanks_cons skips, skipBlanks_cons isNoBlank]
  split <;> simp_all

theorem reads_list {items : List Value} (reads : ∀ item ∈ items, Reads item) :
    Reads (.list items) := by
  intro depth rest enough _
  cases items with
  | nil => rfl
  | cons item items =>
      rw [Value.chars, List.cons_append, List.length_cons, List.length_append,
        List.length_singleton] at enough
      obtain ⟨depth, rfl⟩ : ∃ less, depth = less + 1 := ⟨depth - 1, by omega⟩
      have readsItems :=
        readItems?_itemChars (item :: items) reads (List.cons_ne_nil _ _) depth
        rest (by omega)
      obtain ⟨first, others, cons, isNoBlank, isNoEnd⟩ :=
        exists_first_itemChars item items
      rw [cons, List.cons_append] at readsItems
      simp [Value.chars, cons, readValue?_list isNoBlank isNoEnd, readsItems]

/-! ## Objects -/

theorem readKey?_quotedText (key : String) (rest : List Char) :
    readKey? (quotedText key.toList ++ ':' :: rest) = some (key, rest) := by
  simp [readKey?, quotedText, skipBlanks_cons, isBlank, readText?_escaped]

theorem entryChars_cons_cons (key : String) (value : Value)
    (second : String × Value) (rest : List (String × Value)) :
    Value.entryChars ((key, value) :: second :: rest) =
      quotedText key.toList ++
        ':' :: (value.chars ++ ',' :: Value.entryChars (second :: rest)) := by
  simp [Value.entryChars]

theorem readEntries?_entryChars (entries : List (String × Value))
    (reads : ∀ entry ∈ entries, Reads entry.2)
    (isNonempty : entries ≠ []) (depth : Nat) (rest : List Char)
    (enough : (Value.entryChars entries).length + 1 ≤ depth) :
    readEntries? (depth + 1) (Value.entryChars entries ++ '\x7d' :: rest) =
      some (entries, rest) := by
  induction entries generalizing depth with
  | nil => exact absurd rfl isNonempty
  | cons entry entries ih =>
      obtain ⟨key, value⟩ := entry
      obtain ⟨depth, rfl⟩ : ∃ less, depth = less + 1 := ⟨depth - 1, by omega⟩
      have readsValue : Reads value := reads (key, value) List.mem_cons_self
      cases entries with
      | nil =>
          rw [Value.entryChars, List.length_append, List.length_cons] at enough
          have read :=
            readsValue depth ('\x7d' :: rest) (by omega) (endsNumber_cons rfl _)
          rw [Value.entryChars, List.append_assoc, List.cons_append,
            readEntries?, readKey?_quotedText]
          simp [read, skipBlanks_cons, isBlank]
      | cons next entries =>
          rw [entryChars_cons_cons, List.length_append, List.length_cons,
            List.length_append, List.length_cons] at enough
          have readsRest :=
            ih (fun entry member => reads entry (List.mem_cons_of_mem _ member))
            (List.cons_ne_nil _ _) depth (by omega)
          have read := readsValue depth
            (',' :: (Value.entryChars (next :: entries) ++ '\x7d' :: rest))
              (by omega)
            (endsNumber_cons rfl _)
          rw [entryChars_cons_cons, List.append_assoc, List.cons_append,
            List.append_assoc, List.cons_append, readEntries?,
            readKey?_quotedText]
          simp [read, skipBlanks_cons, isBlank, readsRest]

theorem readValue?_record {first : Char} (isNoBlank : isBlank first = false)
    (isNoEnd : first ≠ '\x7d') (depth : Nat) (others : List Char) :
    readValue? (depth + 1) ('\x7b' :: first :: others) =
      (readEntries? depth (first :: others)).map fun (entries, after) =>
        (.object entries, after) := by
  have skips : isBlank '\x7b' = false := rfl
  simp only [readValue?, skipBlanks_cons skips, skipBlanks_cons isNoBlank]
  split <;> simp_all

theorem exists_entryChars (entry : String × Value)
    (entries : List (String × Value)) :
    ∃ others, Value.entryChars (entry :: entries) = '"' :: others := by
  cases entries with
  | nil => exact ⟨_, rfl⟩
  | cons next entries =>
    exact ⟨_, entryChars_cons_cons entry.1 entry.2 next entries⟩

theorem reads_record {entries : List (String × Value)}
    (isSorted : Value.object entries = .record entries)
    (reads : ∀ entry ∈ entries, Reads entry.2) : Reads (.record entries) := by
  intro depth rest enough _
  cases entries with
  | nil => rfl
  | cons entry entries =>
      rw [Value.chars, List.cons_append, List.length_cons, List.length_append,
        List.length_singleton] at enough
      obtain ⟨depth, rfl⟩ : ∃ less, depth = less + 1 := ⟨depth - 1, by omega⟩
      have readsEntries := readEntries?_entryChars (entry :: entries) reads
        (List.cons_ne_nil _ _) depth rest (by omega)
      obtain ⟨others, cons⟩ := exists_entryChars entry entries
      rw [cons, List.cons_append] at readsEntries
      have skips : isBlank '"' = false := rfl
      simp [Value.chars, cons, readValue?_record skips (by decide),
        readsEntries, isSorted]

/-! ## Maps -/

/-- Whether entries are in the order of their keys, with one entry for each
key. -/
def IsSorted (entries : List (String × Value)) : Prop :=
  entries.Pairwise fun first second => first.1 < second.1

/-- A value whose objects are maps. -/
inductive IsMapped : Value → Prop where
  | null : IsMapped .null
  | boolean (value : Bool) : IsMapped (.boolean value)
  | number (value : Int) : IsMapped (.number value)
  | text (value : String) : IsMapped (.text value)
  | list {items : List Value} (all : ∀ item ∈ items, IsMapped item) :
      IsMapped (.list items)
  | record {entries : List (String × Value)} (sorted : IsSorted entries)
      (all : ∀ entry ∈ entries, IsMapped entry.2) : IsMapped (.record entries)

theorem insertEntry_last {key : String}
    (value : Value) {entries : List (String × Value)}
    (isLast : ∀ entry ∈ entries, entry.1 < key) :
    Value.insertEntry key value entries = entries ++ [(key, value)] := by
  induction entries with
  | nil => rfl
  | cons entry entries ih =>
      have before := isLast entry List.mem_cons_self
      have isOther : key ≠ entry.1 := fun same =>
        String.lt_irrefl key (same ▸ before)
      have isLater : ¬ key < entry.1 := fun after =>
        String.lt_irrefl key (String.lt_trans after before)
      rw [Value.insertEntry, if_neg isOther, if_neg isLater,
        ih fun entry member => isLast entry (List.mem_cons_of_mem _ member),
        List.cons_append]

theorem object_of_sorted {entries : List (String × Value)}
    (sorted : IsSorted entries) :
    Value.object entries = .record entries := by
  have inserted : ∀ later earlier, IsSorted (earlier ++ later) →
      later.foldl (fun sorted entry => Value.insertEntry entry.1 entry.2 sorted)
        earlier =
        earlier ++ later := by
    intro later
    induction later with
    | nil => simp
    | cons entry later ih =>
        intro earlier sorted
        have isLast := (List.pairwise_append.mp sorted).2.2
        rw [List.foldl_cons, insertEntry_last entry.2 fun first member =>
          isLast first member entry List.mem_cons_self]
        rw [ih _ (by simpa using sorted), List.append_assoc,
          List.singleton_append]
  rw [Value.object, inserted entries [] sorted, List.nil_append]

theorem mem_insertEntry {key : String} {value : Value}
    {entries : List (String × Value)} {entry : String × Value}
    (member : entry ∈ Value.insertEntry key value entries) :
    entry = (key, value) ∨ entry ∈ entries := by
  induction entries with
  | nil => simpa [Value.insertEntry] using member
  | cons other entries ih =>
      rw [Value.insertEntry] at member
      split at member
      · rcases List.mem_cons.mp member with rfl | inRest
        · exact .inl rfl
        · exact .inr (List.mem_cons_of_mem _ inRest)
      · split at member
        · exact List.mem_cons.mp member
        · rcases List.mem_cons.mp member with rfl | inRest
          · exact .inr List.mem_cons_self
          · exact (ih inRest).imp_right (List.mem_cons_of_mem _)

theorem isSorted_insertEntry (key : String) (value : Value)
    {entries : List (String × Value)} (sorted : IsSorted entries) :
    IsSorted (Value.insertEntry key value entries) := by
  induction entries with
  | nil => exact List.pairwise_singleton _ _
  | cons other entries ih =>
      obtain ⟨isFirst, rest⟩ := List.pairwise_cons.mp sorted
      rw [Value.insertEntry]
      split
      case isTrue same => exact List.pairwise_cons.mpr ⟨same ▸ isFirst, rest⟩
      case isFalse isOther =>
        split
        case isTrue before =>
          refine List.pairwise_cons.mpr ⟨fun entry member => ?_, sorted⟩
          rcases List.mem_cons.mp member with rfl | inRest
          · exact before
          · exact String.lt_trans before (isFirst entry inRest)
        case isFalse notBefore =>
          refine List.pairwise_cons.mpr ⟨fun entry member => ?_, ih rest⟩
          rcases mem_insertEntry member with rfl | inRest
          · exact Std.lt_of_le_of_ne notBefore fun same => isOther same.symm
          · exact isFirst entry inRest

theorem isMapped_object {entries : List (String × Value)}
    (all : ∀ entry ∈ entries, IsMapped entry.2) :
    IsMapped (.object entries) := by
  have inserted : ∀ later earlier : List (String × Value), IsSorted earlier →
      (∀ entry ∈ earlier, IsMapped entry.2) →
      (∀ entry ∈ later, IsMapped entry.2) →
      IsMapped (.record (later.foldl (fun sorted entry =>
        Value.insertEntry entry.1 entry.2 sorted) earlier)) := by
    intro later
    induction later with
    | nil => exact fun earlier sorted mapped _ => .record sorted mapped
    | cons entry later ih =>
        intro earlier sorted mapped others
        apply ih _ (isSorted_insertEntry entry.1 entry.2 sorted)
        · intro found member
          rcases mem_insertEntry member with rfl | isEarlier
          · exact others entry List.mem_cons_self
          · exact mapped found isEarlier
        · exact fun found member => others found (List.mem_cons_of_mem _ member)
  exact inserted entries [] .nil nofun all

/-- Whether a value is an object, of maps all through. -/
def IsObject (value : Value) : Prop :=
  IsMapped value ∧ ∃ entries, value = .record entries

theorem isObject_object {entries : List (String × Value)}
    (all : ∀ entry ∈ entries, IsMapped entry.2) : IsObject (.object entries) :=
  ⟨isMapped_object all, _, rfl⟩

/-- What is written of a value is read as that value, wherever it stands. -/
theorem IsMapped.reads {value : Value} (mapped : IsMapped value) :
    Reads value := by
  induction mapped with
  | null => exact reads_null
  | boolean value => exact reads_boolean value
  | number value => exact reads_number value
  | text value => exact reads_text value
  | list _ ih => exact reads_list ih
  | record sorted _ ih => exact reads_record (object_of_sorted sorted) ih

/-- What is written of a value stands for that value. -/
theorem read?_chars {value : Value} (mapped : IsMapped value) :
    read? value.chars = some value := by
  have read := mapped.reads value.chars.length [] (Nat.le_refl _) nofun
  rw [List.append_nil] at read
  rw [read?, read]
  show (if skipBlanks [] = [] then some value else none) = some value
  exact if_pos rfl

end ClusterConsole.Json
