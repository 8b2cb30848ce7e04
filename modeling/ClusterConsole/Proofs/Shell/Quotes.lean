import ClusterConsole.Proofs.Shell.Fields
import ClusterConsole.Proofs.Shell.Processes
import ClusterConsole.Proofs.Text.Lines
import ClusterConsole.Shell.Words

/-!
# What stands in quotes stands for itself

Any text can be written as a word that stands for just this text, whatever
characters are in it: between single quotes, with a backslash for each single
quote.  It is read as one word, which is neither taken apart nor looked up among
the names of files.
-/

namespace ClusterConsole.Shell

namespace Reader

/-! ## Reading -/

theorem run_takeWhile {test : Char → Bool} {taken rest : List Char}
    (fits : ∀ char ∈ taken, test char = true)
    (stops : ∀ char ∈ rest.head?, test char = false)
    {source : Source} (isRest : source.rest = taken ++ rest) :
    (takeWhile test).run source =
      .ok (taken, { source with rest, line :=
          source.line + taken.count '\n' }) := by
  have isTaken : source.rest.takeWhile test = taken := by
    rw [isRest, Text.takeWhile_append_of_ends fits stops]
  show Except.ok _ = _
  rw [isTaken, isRest, List.drop_left]

@[simp] theorem run_ok_bind {α β : Type}
    (value : α) (next : α → Except Fault β) :
    (Except.ok value >>= next) = next value := rfl

@[simp] theorem run_pure_eq {α : Type} (value : α) :
    (pure value : Except Fault α) = .ok value := rfl

/-- No character of a word in nothing is taken as it is before these. -/
theorem run_takeWhile_nothing (source : Source)
    (stops : ∀ char ∈ source.rest.head?,
      Surround.isOrdinary .nothing char = false) :
    (takeWhile (Surround.isOrdinary .nothing)).run source = .ok ([], source) :=
  run_takeWhile (List.forall_mem_nil _) stops rfl

theorem run_takeWhile_noQuote (source : Source) {chars rest : List Char}
    (noQuote : '\'' ∉ chars) (isRest : source.rest = chars ++ '\'' :: rest) :
    (takeWhile fun char => !decide (char = '\'')).run source =
      .ok (chars, { source with
        rest := '\'' :: rest, line := source.line + chars.count '\n' }) := by
  refine run_takeWhile (fun char member => ?_) ?_ isRest
  · have isOther : char ≠ '\'' := fun isQuote => noQuote (isQuote ▸ member)
    simpa using isOther
  · rintro char ⟨⟩
    rfl

/-- Everything between single quotes is one piece, as it is. -/
theorem run_pieces_quote (nested : Nested) (fuel : Nat) (rest : List Char)
    {source : Source} {chars : List Char} (noQuote : '\'' ∉ chars)
    (isRest : source.rest = '\'' :: (chars ++ '\'' :: rest)) :
    (pieces nested false (fuel + 1) .nothing).run source =
      (do return .literal chars ::
        (← pieces nested false fuel .nothing) : Reader Word).run
        { source with rest, line := source.line + chars.count '\n' } := by
  have atStart := run_takeWhile_nothing source (by
    rw [isRest]
    rintro char ⟨⟩
    rfl)
  have inside := run_takeWhile_noQuote
    { source with rest := chars ++ '\'' :: rest } noQuote rfl
  rw [pieces, StateT.run_bind, atStart]
  · simp [peek?, skip, isRest, inside]
  · exact nofun
  · exact nofun

/-- A single quote after a backslash is one piece. -/
theorem run_pieces_escaped (nested : Nested) (fuel : Nat) {source : Source}
    {rest : List Char} (isRest : source.rest = '\\' :: '\'' :: rest) :
    (pieces nested false (fuel + 1) .nothing).run source =
      (do return .literal ['\''] ::
        (← pieces nested false fuel .nothing) : Reader Word).run
        { source with rest } := by
  have atStart := run_takeWhile_nothing source (by
    rw [isRest]
    rintro char ⟨⟩
    rfl)
  rw [pieces, StateT.run_bind, atStart]
  · simp [peek?, skip, isRest, Surround.escapes, Surround.isQuoted]
  · exact nofun
  · exact nofun

/-- A character that ends a word, or the end of the text. -/
def EndsWord (rest : List Char) : Prop :=
  ∀ char ∈ rest.head?, Surround.endsWord char = true

theorem run_pieces_end (nested : Nested) (fuel : Nat)
    {source : Source} (ends : EndsWord source.rest) :
    (pieces nested false (fuel + 1) .nothing).run source = .ok
    ([], source) := by
  have atStart := run_takeWhile_nothing source fun char isNext => by
    simp [Surround.isOrdinary, ends char isNext]
  rw [pieces, StateT.run_bind, atStart]
  · cases isRest : source.rest with
    | nil => simp [peek?, isRest, Surround.missing?]
    | cons char rest =>
        have isEnd :
            char ∈ [' ', '\t', '\n', ';', '&', '|', '<', '>', '(', ')'] := by
          simpa [Surround.endsWord] using ends char (by simp [isRest])
        simp only [List.mem_cons, List.not_mem_nil, or_false] at isEnd
        rcases isEnd with rfl | rfl | rfl | rfl | rfl | rfl | rfl | rfl |
          rfl | rfl <;>
          simp [peek?, isRest]
  · exact nofun
  · exact nofun

/-! ## Writing -/

/-- Parts of a text between single quotes, with a single quote after a backslash
between them. -/
def inQuotes (parts : List (List Char)) : List Char :=
  '\'' :: (['\'', '\\', '\'', '\''].intercalate parts ++ ['\''])

theorem inQuotes_cons_cons (first second : List Char)
    (parts : List (List Char)) :
    inQuotes (first :: second :: parts) =
      '\'' :: (first ++ '\'' :: '\\' :: '\'' ::
        inQuotes (second :: parts)) := by
  simp [inQuotes, List.intercalate]

theorem run_pieces_inQuotes (nested : Nested) {parts : List (List Char)}
    (isSome : parts ≠ []) (noQuotes : ∀ part ∈ parts, '\'' ∉ part) {fuel : Nat}
    (isEnough : 2 * parts.length ≤ fuel) {source : Source} {rest : List Char}
    (isRest : source.rest = inQuotes parts ++ rest) (ends : EndsWord rest) :
    (pieces nested false fuel .nothing).run source =
      .ok ((parts.intersperse ['\'']).map .literal,
        { source with rest, line :=
          source.line + (inQuotes parts).count '\n' }) := by
  induction parts generalizing fuel source with
  | nil => exact absurd rfl isSome
  | cons first parts ih =>
      obtain ⟨noQuote, noQuotes⟩ := List.forall_mem_cons.mp noQuotes
      rw [List.length_cons] at isEnough
      obtain ⟨fuel, rfl⟩ := Nat.exists_eq_add_of_le' (show 2 ≤ fuel by omega)
      cases parts with
      | nil =>
          have line_eq : (inQuotes [first]).count '\n' = first.count '\n' := by
            simp [inQuotes, List.intercalate]
          rw [run_pieces_quote nested (fuel + 1) rest noQuote
              (by simp [isRest, inQuotes, List.intercalate]),
            StateT.run_bind, run_pieces_end nested fuel ends, line_eq]
          rfl
      | cons second parts =>
          have line_eq : (inQuotes (first :: second :: parts)).count '\n' =
              first.count '\n' + (inQuotes (second :: parts)).count '\n' := by
            simp [inQuotes_cons_cons]
          rw [run_pieces_quote nested (fuel + 1)
              ('\\' :: '\'' :: (inQuotes (second :: parts) ++ rest)) noQuote
              (by simp [isRest, inQuotes_cons_cons]),
            StateT.run_bind, run_pieces_escaped nested fuel rfl,
            StateT.run_bind,
            ih (by simp) noQuotes (by simp only [List.length_cons] at *; omega)
              rfl, line_eq,
            ← Nat.add_assoc]
          rfl

end Reader

/-! ## Expanding -/

open Shell.Action

/-- What a quoted text is among the glyphs of a word. -/
def glyphsOf (text : List Char) : List Glyph :=
  if text.isEmpty then [.quote] else Glyph.ofChars text true

theorem outcome_pieces_literals (capture : Capture) (purpose : Purpose)
    (isFirst : Bool) (texts : List (List Char)) (state : State) :
    outcome (Expand.pieces capture purpose isFirst (texts.map .literal)) state =
      (.ok (texts.map fun text => .fixed (glyphsOf text)), state) := by
  induction texts generalizing purpose isFirst with
  | nil => simp [Expand.pieces]
  | cons text texts ih =>
      have first : outcome (Expand.piece capture purpose isFirst
          (texts.map Piece.literal).isEmpty (.literal text)) state =
          (.ok [.fixed (glyphsOf text)], state) := by
        simp [Expand.piece, glyphsOf]
      rw [List.map_cons, Expand.pieces, outcome_bind_ok first,
        outcome_bind_ok (ih purpose.later false)]
      rfl

theorem filterMap_mark_glyphsOf (text : List Char) :
    (glyphsOf text).filterMap Glyph.mark? = text.map (·, true) := by
  cases text with
  | nil => rfl
  | cons char text =>
      simp [glyphsOf, Glyph.ofChars, List.filterMap_map, Glyph.mark?,
        Function.comp_def]

theorem ofSegments_literals (separators : List Char) {texts : List (List Char)}
    (isSome : texts ≠ []) :
    Fields.ofSegments separators
      (texts.map fun text => .fixed (glyphsOf text)) =
      [texts.flatten.map (·, true)] := by
  rw [Fields.ofSegments_of_never]
  · simp [Segment.marks, List.flatMap_def, Segment.fixed, Function.comp_def,
      filterMap_mark_glyphsOf, List.map_flatten]
  · simp [Segment.fixed]
  · obtain ⟨first, rest, rfl⟩ := List.exists_cons_of_ne_nil isSome
    refine ⟨_, List.mem_cons_self .., ?_⟩
    cases first <;> simp [Segment.fixed, glyphsOf, Glyph.ofChars]

/-- A field whose characters are all quoted names no files. -/
theorem named_quoted (files : FileTree) (chars : List Char) :
    Words.named files (chars.map (·, true)) = [String.ofList chars] := by
  simp [Words.named, Segment.unmarked, Function.comp_def]

theorem fields_literals (capture : Capture) {texts : List (List Char)}
    (isSome : texts ≠ []) (state : State) :
    outcome (Words.fields capture (texts.map .literal)) state =
      (.ok [String.ofList texts.flatten], state) := by
  have expanded := outcome_pieces_literals capture .fields true texts state
  rw [Words.fields, outcome_bind_ok expanded,
    outcome_bind_ok (outcome_process state)]
  dsimp only
  rw [ofSegments_literals state.process.separators isSome]
  split
  · simp [Segment.unmarked, Function.comp_def]
  · rw [outcome_bind_ok (outcome_files state)]
    simp only [outcome_pure, List.flatMap_cons, List.flatMap_nil, named_quoted,
      List.append_nil]

/-- A text that is written in quotes is read as a word that stands for this text
and nothing else, wherever the word stands. -/
theorem stands_for_quoted (nested : Nested) (text : List Char) {fuel : Nat}
    (isEnough : 2 * (text.splitOn '\'').length ≤ fuel) {source : Source}
    {rest : List Char}
    (isRest : source.rest = Reader.inQuotes (text.splitOn '\'') ++ rest)
    (ends : Reader.EndsWord rest) :
    ∃ word line,
      (Reader.pieces nested false fuel .nothing).run source =
        .ok (word, { source with rest, line }) ∧
      ∀ capture state, outcome (Words.fields capture word) state =
        (.ok [String.ofList text], state) := by
  have isSome : text.splitOn '\'' ≠ [] := List.splitOn_ne_nil '\'' text
  have noQuotes : ∀ part ∈ text.splitOn '\'', '\'' ∉ part := fun _ =>
    Text.not_mem_of_mem_splitOn
  refine ⟨_, _, Reader.run_pieces_inQuotes nested isSome noQuotes isEnough
      isRest ends,
    fun capture state => ?_⟩
  have isNotEmpty : (text.splitOn '\'').intersperse ['\''] ≠ [] := by
    obtain ⟨first, rest, isCons⟩ := List.exists_cons_of_ne_nil isSome
    cases rest <;> simp [isCons]
  rw [fields_literals capture isNotEmpty]
  have joined : ((text.splitOn '\'').intersperse ['\'']).flatten = text :=
    List.intercalate_splitOn '\''
  rw [joined]

end ClusterConsole.Shell
