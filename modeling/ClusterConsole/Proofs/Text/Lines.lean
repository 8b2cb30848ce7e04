import ClusterConsole.Text.Blank
import ClusterConsole.Text.Line

/-!
# Lines and blanks

How a text is taken apart when its first part or its lines are known, and what
trimming leaves alone.
-/

namespace ClusterConsole.Text

/-! ## First parts -/

/-- A text that goes on with a mark or not at all. -/
def EndsAt (mark : Char) (rest : List Char) : Prop :=
  ∀ char ∈ rest.head?, char = mark

section FirstParts

variable {isPart : Char → Bool} {mark : Char} {part rest : List Char}

theorem takeWhile_append_of_ends (areParts : ∀ char ∈ part, isPart char = true)
    (ends : ∀ char ∈ rest.head?, isPart char = false) :
    (part ++ rest).takeWhile isPart = part := by
  rw [List.takeWhile_append_of_pos areParts]
  cases rest with
  | nil => simp
  | cons char rest => simp [ends char rfl]

theorem dropWhile_append_of_ends (areParts : ∀ char ∈ part, isPart char = true)
    (ends : ∀ char ∈ rest.head?, isPart char = false) :
    (part ++ rest).dropWhile isPart = rest := by
  rw [List.dropWhile_append_of_pos areParts]
  cases rest with
  | nil => simp
  | cons char rest => simp [ends char rfl]

theorem endsAt_nil : EndsAt mark [] := by
  simp [EndsAt]

theorem endsAt_cons : EndsAt mark (mark :: rest) := by
  simp [EndsAt]

theorem differs_of_not_mem (noMark : mark ∉ part) :
    ∀ char ∈ part, decide (char ≠ mark) = true := by
  intro char member
  rw [decide_eq_true_iff]
  intro same
  exact noMark (same ▸ member)

theorem EndsAt.not_differs (ends : EndsAt mark rest) :
    ∀ char ∈ rest.head?, decide (char ≠ mark) = false := by
  intro char first
  simp [ends char first]

/-- The part before a mark is what comes before the first one. -/
theorem takeWhile_append_of_not_mem
    (noMark : mark ∉ part) (ends : EndsAt mark rest) :
    (part ++ rest).takeWhile (· ≠ mark) = part :=
  takeWhile_append_of_ends (differs_of_not_mem noMark) ends.not_differs

theorem dropWhile_append_of_not_mem
    (noMark : mark ∉ part) (ends : EndsAt mark rest) :
    (part ++ rest).dropWhile (· ≠ mark) = rest :=
  dropWhile_append_of_ends (differs_of_not_mem noMark) ends.not_differs

theorem not_mem_of_mem_splitOn {separator : Char} {chars piece : List Char}
    (member : piece ∈ chars.splitOn separator) : separator ∉ piece := by
  induction chars generalizing piece with
  | nil =>
      rw [List.splitOn_nil, List.mem_singleton] at member
      simp [member]
  | cons char rest ih =>
      obtain ⟨first, others, split⟩ :=
        List.exists_cons_of_ne_nil (List.splitOn_ne_nil separator rest)
      rw [split] at ih
      rw [List.splitOn_cons_eq_if_modifyHead, split] at member
      split at member
      · rcases List.mem_cons.mp member with rfl | inRest
        · exact List.not_mem_nil
        · exact ih inRest
      · rename_i isOther
        rcases List.mem_cons.mp member with rfl | inRest
        · rw [List.mem_cons, not_or]
          exact ⟨fun same => isOther (beq_iff_eq.mpr same.symm),
            ih List.mem_cons_self⟩
        · exact ih (List.mem_cons_of_mem first inRest)

theorem not_mem_takeWhile (mark : Char) (chars : List Char) :
    mark ∉ chars.takeWhile (· ≠ mark) := by
  intro member
  have differs := List.all_eq_true.mp List.all_takeWhile mark member
  simp at differs

end FirstParts

/-! ## Lines -/

theorem segments_ne_nil (chars : List Char) : segments chars ≠ [] := by
  fun_cases segments chars <;> simp

theorem segments_cons {char : Char} (noFeed : char ≠ '\n') (rest : List Char) :
    ∃ first others, segments rest = first :: others ∧
      segments (char :: rest) = (char :: first) :: others := by
  cases same : segments rest with
  | nil => exact absurd same (segments_ne_nil rest)
  | cons first others => exact ⟨first, others, rfl, by simp [segments, same]⟩

theorem segments_line {line : List Char} (noFeed : '\n' ∉ line)
    (rest : List Char) :
    segments (line ++ '\n' :: rest) = line :: segments rest := by
  induction line with
  | nil => rfl
  | cons char line ih =>
      have isOther : char ≠ '\n' := fun same =>
        noFeed (same ▸ List.mem_cons_self)
      obtain ⟨first, others, same, together⟩ :=
        segments_cons isOther (line ++ '\n' :: rest)
      rw [ih fun member => noFeed (List.mem_cons_of_mem _ member)] at same
      cases same
      exact together

theorem segments_eq_singleton {line : List Char} (noFeed : '\n' ∉ line) :
    segments line = [line] := by
  induction line with
  | nil => rfl
  | cons char line ih =>
      have isOther : char ≠ '\n' := fun same =>
        noFeed (same ▸ List.mem_cons_self)
      obtain ⟨first, others, same, together⟩ := segments_cons isOther line
      rw [ih fun member => noFeed (List.mem_cons_of_mem _ member)] at same
      cases same
      exact together

/-- The first line ends at the first line feed. -/
theorem charLines_line {line : List Char} (noFeed : '\n' ∉ line)
    (rest : List Char) :
    charLines (line ++ '\n' :: rest) = dropCarriageReturn line ::
      charLines rest := by
  rw [charLines, segments_line noFeed, charLines]
  cases same : segments rest with
  | nil => exact absurd same (segments_ne_nil rest)
  | cons first others => simp [linesOfSegments]

/-- A last line need not be ended, and keeps its carriage return. -/
theorem charLines_unended {line : List Char} (noFeed : '\n' ∉ line)
    (notEmpty : line ≠ []) :
    charLines line = [line] := by
  rw [charLines, segments_eq_singleton noFeed]
  cases line with
  | nil => exact absurd rfl notEmpty
  | cons char line => rfl

theorem dropCarriageReturn_of_not_mem {line : List Char}
    (noReturn : '\r' ∉ line) :
    dropCarriageReturn line = line := by
  induction line with
  | nil => rfl
  | cons char line ih =>
      have rest := ih fun member => noReturn (List.mem_cons_of_mem _ member)
      have isOther : char ≠ '\r' := fun same =>
        noReturn (same ▸ List.mem_cons_self)
      cases line with
      | nil => simp [dropCarriageReturn, isOther]
      | cons next line => simpa [dropCarriageReturn] using rest

theorem dropCarriageReturn_append (line : List Char) :
    dropCarriageReturn (line ++ ['\r']) = line := by
  induction line with
  | nil => rfl
  | cons char line ih =>
      cases line with
      | nil => simp [dropCarriageReturn]
      | cons next line => simpa [dropCarriageReturn] using ih

theorem dropCarriageReturn_eq_or (line : List Char) :
    dropCarriageReturn line = line ∨
    dropCarriageReturn line ++ ['\r'] = line := by
  induction line with
  | nil => exact .inl rfl
  | cons char line ih =>
      cases line with
      | nil =>
          by_cases isReturn : char = '\r'
          · subst isReturn
            exact .inr rfl
          · exact .inl (by simp [dropCarriageReturn, isReturn])
      | cons next line => simpa [dropCarriageReturn] using ih

theorem mem_of_mem_dropCarriageReturn {char : Char} {line : List Char}
    (member : char ∈ dropCarriageReturn line) : char ∈ line := by
  cases dropCarriageReturn_eq_or line with
  | inl same => rwa [same] at member
  | inr same =>
      rw [← same]
      exact List.mem_append_left _ member

/-- A text is a line without an end, or a line with its end and then a text. -/
theorem line_induction {motive : List Char → Prop}
    (unended : ∀ line, '\n' ∉ line → motive line) (ended : ∀ line rest, '\n' ∉
      line → motive rest → motive (line ++ '\n' :: rest)) (chars : List Char) :
    motive chars := by
  -- What has been gone through since the last line feed comes in front.
  suffices fromAny : ∀ line, '\n' ∉ line →
    motive (line ++ chars) from fromAny [] (by simp)
  induction chars with
  | nil =>
      intro line noFeed
      simpa using unended line noFeed
  | cons char rest ih =>
      intro line noFeed
      by_cases isFeed : char = '\n'
      · subst isFeed
        exact ended line rest noFeed (ih [] (by simp))
      · have longer : '\n' ∉ line ++ [char] := by simp [noFeed, Ne.symm isFeed]
        simpa using ih (line ++ [char]) longer

theorem segments_append_feed (first second : List Char) :
    segments (first ++ '\n' :: second) = segments first ++ segments second := by
  induction first using line_induction with
  | unended line noFeed =>
    rw [segments_line noFeed, segments_eq_singleton noFeed]; rfl
  | ended line rest noFeed ih =>
      rw [List.append_assoc, List.cons_append, segments_line noFeed,
        segments_line noFeed, ih]
      rfl

theorem not_mem_of_mem_charLines {chars line : List Char}
    (member : line ∈ charLines chars) :
    '\n' ∉ line := by
  induction chars using line_induction with
  | unended whole noFeed =>
      cases whole with
      | nil => simp [charLines, segments, linesOfSegments] at member
      | cons char whole =>
          rw [charLines_unended noFeed (by simp), List.mem_singleton] at member
          exact member ▸ noFeed
  | ended whole rest noFeed ih =>
      rw [charLines_line noFeed] at member
      cases member with
      | head =>
        exact fun inLine => noFeed (mem_of_mem_dropCarriageReturn inLine)
      | tail _ later => exact ih later

/-- The text in which every line feed has a carriage return in front of it. -/
def returned (chars : List Char) : List Char :=
  chars.flatMap fun char => if char = '\n' then ['\r', '\n'] else [char]

theorem returned_of_not_mem {line : List Char} (noFeed : '\n' ∉ line) :
    returned line = line := by
  induction line with
  | nil => rfl
  | cons char line ih =>
      have isOther : char ≠ '\n' := fun same =>
        noFeed (same ▸ List.mem_cons_self)
      have rest := ih fun member => noFeed (List.mem_cons_of_mem _ member)
      rw [returned] at rest
      simp [returned, isOther, rest]

theorem returned_line {line : List Char} (noFeed : '\n' ∉ line)
    (rest : List Char) :
    returned (line ++ '\n' :: rest) = (line ++ ['\r']) ++
      '\n' :: returned rest := by
  have same := returned_of_not_mem noFeed
  rw [returned] at same
  simp [returned, same]

/-! ## Blanks -/

theorem dropTrailingBlanks_of_no_blank {chars : List Char}
    (noBlank : ∀ char ∈ chars, isBlank char = false) :
    dropTrailingBlanks chars = chars := by
  induction chars with
  | nil => rfl
  | cons char rest ih =>
      rw [dropTrailingBlanks,
        ih fun other member => noBlank other (List.mem_cons_of_mem _ member)]
      cases rest with
      | nil => simp [noBlank char List.mem_cons_self]
      | cons next rest => rfl

theorem trimChars_of_no_blank {chars : List Char}
    (noBlank : ∀ char ∈ chars, isBlank char = false) :
    trimChars chars = chars := by
  have kept : chars.dropWhile isBlank = chars := by
    cases chars with
    | nil => rfl
    | cons char rest => simp [noBlank char List.mem_cons_self]
  rw [trimChars, kept, dropTrailingBlanks_of_no_blank noBlank]

theorem dropTrailingBlanks_cons {char : Char} {rest : List Char}
    (isKept : isBlank char = false ∨ dropTrailingBlanks rest ≠ []) :
    dropTrailingBlanks (char :: rest) = char :: dropTrailingBlanks rest := by
  rw [dropTrailingBlanks]
  split
  · rename_i none
    have notBlank := isKept.resolve_right fun some => some none
    simp [notBlank, none]
  · rfl

theorem dropTrailingBlanks_idem (chars : List Char) :
    dropTrailingBlanks (dropTrailingBlanks chars) =
      dropTrailingBlanks chars := by
  induction chars with
  | nil => rfl
  | cons char rest ih =>
      by_cases isKept : isBlank char = false ∨ dropTrailingBlanks rest ≠ []
      · have stays : isBlank char = false ∨
            dropTrailingBlanks (dropTrailingBlanks rest) ≠ [] := by rwa [ih]
        rw [dropTrailingBlanks_cons isKept, dropTrailingBlanks_cons stays, ih]
      · have none : dropTrailingBlanks (char :: rest) = [] := by
          rw [dropTrailingBlanks_eq_nil_iff, List.all_cons, Bool.and_eq_true,
            ← dropTrailingBlanks_eq_nil_iff]
          simpa using isKept
        rw [none]
        rfl

theorem trimChars_trimChars (chars : List Char) :
    trimChars (trimChars chars) = trimChars chars := by
  have startsUnblank :
      (trimChars chars).dropWhile isBlank = trimChars chars := by
    unfold trimChars
    cases left : chars.dropWhile isBlank with
    | nil => rfl
    | cons char rest =>
        have notBlank : isBlank char = false := by
          simpa [left] using List.head?_dropWhile_not isBlank chars
        rw [dropTrailingBlanks_cons (.inl notBlank)]
        simp [notBlank]
  rw [trimChars, startsUnblank]
  exact dropTrailingBlanks_idem _

theorem dropTrailingBlanks_append_blanks {chars blanks : List Char}
    (areBlank : blanks.all isBlank = true) :
    dropTrailingBlanks (chars ++ blanks) = dropTrailingBlanks chars := by
  induction chars with
  | nil => exact dropTrailingBlanks_eq_nil_iff.mpr areBlank
  | cons char rest ih =>
    rw [List.cons_append, dropTrailingBlanks, ih, dropTrailingBlanks]

theorem exists_trailing_blanks (chars : List Char) :
    ∃ blanks : List Char, blanks.all isBlank = true ∧
      chars = dropTrailingBlanks chars ++ blanks := by
  induction chars with
  | nil => exact ⟨[], rfl, rfl⟩
  | cons char rest ih =>
      by_cases isKept : isBlank char = false ∨ dropTrailingBlanks rest ≠ []
      · obtain ⟨blanks, areBlank, split⟩ := ih
        refine ⟨blanks, areBlank, ?_⟩
        rw [dropTrailingBlanks_cons isKept, List.cons_append, ← split]
      · have blank : isBlank char = true ∧ dropTrailingBlanks rest = [] := by
          simpa using isKept
        have areBlank : (char :: rest).all isBlank = true := by
          simp [blank.1, dropTrailingBlanks_eq_nil_iff.mp blank.2]
        refine ⟨char :: rest, areBlank, ?_⟩
        rw [dropTrailingBlanks_eq_nil_iff.mpr areBlank, List.nil_append]

/-- Blanks around a text are trimmed away with those that it has itself. -/
theorem trimChars_padded {chars before after : List Char}
    (beforeBlank : before.all isBlank = true)
    (afterBlank : after.all isBlank = true) :
    trimChars (before ++ chars ++ after) = trimChars chars := by
  rw [List.all_eq_true] at beforeBlank
  rw [trimChars, List.append_assoc, List.dropWhile_append_of_pos beforeBlank,
    List.dropWhile_append]
  split
  · rename_i allBlank
    have nothing : chars.dropWhile isBlank = [] := List.isEmpty_iff.mp allBlank
    have nothingAfter : after.dropWhile isBlank = [] := by
      have passed : (after ++ []).dropWhile isBlank = [] :=
        List.dropWhile_append_of_pos (List.all_eq_true.mp afterBlank)
      simpa using passed
    rw [trimChars, nothing, nothingAfter]
  · rw [dropTrailingBlanks_append_blanks afterBlank, trimChars]

theorem exists_padding (chars : List Char) :
    ∃ before after : List Char, before.all isBlank = true ∧
      after.all isBlank = true ∧
      chars = before ++ trimChars chars ++ after := by
  obtain ⟨after, afterBlank, split⟩ :=
    exists_trailing_blanks (chars.dropWhile isBlank)
  refine ⟨chars.takeWhile isBlank, after, List.all_takeWhile, afterBlank, ?_⟩
  rw [trimChars, List.append_assoc, ← split, List.takeWhile_append_dropWhile]

/-- Trimming leaves a text that begins with the first character that is not
blank. -/
theorem head?_trimChars (chars : List Char) :
    (trimChars chars).head? = chars.find? fun char => !isBlank char := by
  induction chars with
  | nil => rfl
  | cons char rest ih =>
      cases blank : isBlank char with
      | true =>
          have skipped : trimChars (char :: rest) = trimChars rest := by
            simp [trimChars, blank]
          rw [skipped, ih]
          simp [blank]
      | false =>
          have kept :
              trimChars (char :: rest) = char :: dropTrailingBlanks rest := by
            simp [trimChars, blank, dropTrailingBlanks_cons]
          simp [kept, blank]

theorem trimChars_dropCarriageReturn (line : List Char) :
    trimChars (dropCarriageReturn line) = trimChars line := by
  cases dropCarriageReturn_eq_or line with
  | inl same => rw [same]
  | inr same =>
      have padded : trimChars ([] ++ dropCarriageReturn line ++ ['\r']) =
          trimChars (dropCarriageReturn line) := trimChars_padded rfl rfl
      rw [List.nil_append, same] at padded
      exact padded.symm

/-- What trimming leaves has no blanks around it any more. -/
theorem trim_trim (text : String) : trim (trim text) = trim text := by
  rw [trim, trim, String.toList_ofList, trimChars_trimChars]

end ClusterConsole.Text
