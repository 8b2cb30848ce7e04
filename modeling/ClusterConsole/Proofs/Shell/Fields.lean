import ClusterConsole.Shell.Field
import Mathlib.Tactic.SplitIfs

/-!
# What the fields of a word hold

Taking a word apart loses nothing but separators: the fields hold, in their
order, all characters of the word save the separators that came without quotes
from values and outputs.  What is not taken apart is one field, and blanks take
a value apart into the parts between them that are not empty.
-/

namespace ClusterConsole.Shell

/-- What a glyph leaves in the fields of a segment that is taken apart at
separators. -/
def Glyph.kept (separators : List Char) : Glyph → List Marked
  | .char it isQuoted =>
      if isQuoted = false ∧ it ∈ separators then [] else [(it, isQuoted)]
  | .quote | .gap => []

def Segment.kept (separators : List Char) (segment : Segment) : List Marked :=
  match segment.splitting with
  | .atSeparators => segment.glyphs.flatMap (Glyph.kept separators)
  | .never | .atGaps => segment.glyphs.filterMap Glyph.mark?

namespace Fields

/-! ## One glyph -/

theorem kept_of_separates {separators : List Char} {glyph : Glyph}
    (isSeparator : (separates separators glyph).1 = true) :
    glyph.kept separators = [] := by
  cases glyph with
  | quote | gap => rfl
  | char it isQuoted =>
      cases isQuoted <;> simp_all [Glyph.kept, separates]

theorem kept_of_not_separates {separators : List Char} {glyph : Glyph}
    (isPart : (separates separators glyph).1 = false) :
    glyph.kept separators = glyph.mark?.toList := by
  cases glyph with
  | quote | gap => rfl
  | char it isQuoted =>
      cases isQuoted <;> simp_all [Glyph.kept, separates, Glyph.mark?]

theorem separates_of_isBlank {separators : List Char} {glyph : Glyph}
    (isBlank : (separates separators glyph).2 = true) :
    (separates separators glyph).1 = true := by
  cases glyph with
  | quote => exact isBlank
  | gap => rfl
  | char it isQuoted =>
      cases isQuoted <;> simp_all [separates]

/-- Right after a blank that closed a field no other one is open. -/
def Rests (fields : Fields) : Prop :=
  fields.isAfterBlank = true → fields.opened = []

/-- All that a glyph can do: it goes on with the open field, or it separates,
and then the open field is closed unless there is none.  A blank closes no empty
field, but after arguments. -/
theorem addSplit_cases (separators : List Char) (isAfterGaps : Bool)
    {fields : Fields} (rests : fields.Rests) (glyph : Glyph) :
    ((separates separators glyph).1 = false ∧
      addSplit separators isAfterGaps fields glyph =
        ⟨fields.closed, glyph :: fields.opened, false⟩) ∨
    ((separates separators glyph).1 = true ∧ ∃ isAfterBlank,
      (fields.opened = [] ∧
        addSplit separators isAfterGaps fields glyph =
          ⟨fields.closed, [], isAfterBlank⟩) ∨
      ((fields.opened = [] → (separates separators glyph).2 = true →
          isAfterGaps = true) ∧
        addSplit separators isAfterGaps fields glyph =
          { fields.close with isAfterBlank })) := by
  have separatesBlank : (separates separators glyph).2 = true →
      (separates separators glyph).1 = true := separates_of_isBlank
  obtain ⟨closed, opened, isAfterBlank⟩ := fields
  rcases separated : separates separators glyph with ⟨isSeparator, isBlank⟩
  simp only [separated] at separatesBlank
  cases isAfterBlank with
  | true =>
      obtain rfl : opened = [] := rests rfl
      cases isBlank with
      | true =>
          have isSeparator := separatesBlank rfl
          exact .inr ⟨isSeparator, true,
            .inl ⟨rfl, by simp [addSplit, separated]⟩⟩
      | false =>
          cases isSeparator with
          | true =>
              exact .inr ⟨rfl, false, .inl ⟨rfl, by simp [addSplit, separated]⟩⟩
          | false => exact .inl ⟨rfl, by simp [addSplit, separated]⟩
  | false =>
      cases isSeparator with
      | false => exact .inl ⟨rfl, by simp [addSplit, separated]⟩
      | true =>
          by_cases isNone : (opened.isEmpty && (isBlank && !isAfterGaps)) = true
          · have isEmpty : opened = [] := by
              simpa using (Bool.and_eq_true_iff.mp isNone).1
            exact .inr ⟨rfl, false, .inl ⟨isEmpty, by
              subst isEmpty
              simp only [addSplit, separated, if_pos isNone]
              rfl⟩⟩
          · refine .inr ⟨rfl, isBlank && !isAfterGaps, .inr ⟨?_, by
              simp only [addSplit, separated, isNone]
              rfl⟩⟩
            intro isEmpty isBlank
            simp_all

theorem Rests.addSplit (separators : List Char) (isAfterGaps : Bool)
    {fields : Fields} (rests : fields.Rests) (glyph : Glyph) :
    (addSplit separators isAfterGaps fields glyph).Rests := by
  rcases addSplit_cases separators isAfterGaps rests glyph with
    ⟨-, next⟩ | ⟨-, flag, ⟨-, next⟩ | ⟨-, next⟩⟩
  · rw [next]
    exact nofun
  · rw [next]
    exact fun _ => rfl
  · rw [next]
    exact fun _ => rfl

def held (fields : Fields) : List Marked :=
  fields.closed.reverse.flatten ++ fields.opened.reverse.filterMap Glyph.mark?

@[simp] theorem held_close (fields : Fields) :
    fields.close.held = fields.held := by
  simp [held, close]

theorem held_addSplit {separators : List Char} {isAfterGaps : Bool}
    {fields : Fields} (rests : fields.Rests) (glyph : Glyph) :
    (Fields.addSplit separators isAfterGaps fields glyph).held =
      fields.held ++ glyph.kept separators := by
  rcases addSplit_cases separators isAfterGaps rests glyph with
    ⟨isPart, next⟩ | ⟨isSeparator, flag, ⟨isNone, next⟩ | ⟨-, next⟩⟩
  · rw [next, kept_of_not_separates isPart]
    cases glyph <;> simp [held, Glyph.mark?]
  · rw [next, kept_of_separates isSeparator]
    simp [held, isNone]
  · rw [next, kept_of_separates isSeparator, List.append_nil]
    exact held_close fields

/-! ## Segments -/

theorem held_foldl_addSplit {separators : List Char} {isAfterGaps : Bool}
    {fields : Fields} (rests : fields.Rests) (glyphs : List Glyph) :
    (glyphs.foldl (Fields.addSplit separators isAfterGaps) fields).held =
      fields.held ++ glyphs.flatMap (Glyph.kept separators) := by
  induction glyphs generalizing fields with
  | nil => simp
  | cons glyph glyphs ih =>
      rw [List.foldl_cons, ih (rests.addSplit _ _ glyph), held_addSplit rests,
        List.flatMap_cons, List.append_assoc]

theorem held_foldl_atGaps (fields : Fields) (glyphs : List Glyph) :
    (glyphs.foldl (fun fields glyph =>
      if glyph = .gap then fields.close
      else { fields with opened := glyph :: fields.opened }) fields).held =
      fields.held ++ glyphs.filterMap Glyph.mark? := by
  induction glyphs generalizing fields with
  | nil => simp
  | cons glyph glyphs ih =>
      rw [List.foldl_cons, ih]
      cases glyph <;> simp [held, close, Glyph.mark?, List.filterMap_cons]

theorem held_add (separators : List Char) (isAfterGaps : Bool) (fields : Fields)
    (segment : Segment) :
    (fields.add separators isAfterGaps segment).held =
      fields.held ++ segment.kept separators := by
  obtain ⟨splitting, glyphs⟩ := segment
  cases splitting with
  | never => simp [add, Segment.kept, held]
  | atSeparators =>
      have rests : Rests ⟨fields.closed, fields.opened, false⟩ := nofun
      exact held_foldl_addSplit rests glyphs
  | atGaps =>
    exact held_foldl_atGaps ⟨fields.closed, fields.opened, false⟩ glyphs

/-! ## Words -/

/-- The fields when there is nothing more to come. -/
def finished (isAfterGaps : Bool) (fields : Fields) : List (List Marked) :=
  (if fields.opened.isEmpty && !isAfterGaps then fields
    else fields.close).closed.reverse

theorem flatten_finished (isAfterGaps : Bool) (fields : Fields) :
    (finished isAfterGaps fields).flatten = fields.held := by
  unfold finished
  split_ifs with isDone
  · have isNone : fields.opened = [] := by
      simpa using (Bool.and_eq_true_iff.mp isDone).1
    simp [held, isNone]
  · simp [held, close]

theorem finished_of_opened {isAfterGaps : Bool} {fields : Fields}
    (isOpen : fields.opened ≠ []) :
    finished isAfterGaps fields =
      fields.closed.reverse ++
        [fields.opened.reverse.filterMap Glyph.mark?] := by
  simp [finished, isOpen, close]

/-- The fields after some segments. -/
def addAll (separators : List Char) (isAfterGaps : Bool) (fields : Fields)
    (segments : List Segment) : Fields × Bool :=
  segments.foldl (fun (fields, isAfterGaps) segment =>
    (fields.add separators isAfterGaps segment,
      if segment.splitting = .never then isAfterGaps
      else segment.splitting == .atGaps)) (fields, isAfterGaps)

@[simp] theorem addAll_nil (separators : List Char) (isAfterGaps : Bool)
    (fields : Fields) :
    addAll separators isAfterGaps fields [] = (fields, isAfterGaps) := rfl

theorem addAll_cons (separators : List Char) (isAfterGaps : Bool)
    (fields : Fields) (segment : Segment) (segments : List Segment) :
    addAll separators isAfterGaps fields (segment :: segments) =
      addAll separators
        (if segment.splitting = .never then isAfterGaps
          else segment.splitting == .atGaps)
        (fields.add separators isAfterGaps segment) segments := rfl

theorem ofSegments_eq (separators : List Char) (segments : List Segment) :
    ofSegments separators segments =
      finished (endsAtGaps segments)
        (addAll separators false none segments).1 := rfl

theorem held_addAll (separators : List Char) (isAfterGaps : Bool)
    (fields : Fields) (segments : List Segment) :
    (addAll separators isAfterGaps fields segments).1.held =
      fields.held ++ segments.flatMap (Segment.kept separators) := by
  induction segments generalizing fields isAfterGaps with
  | nil => simp
  | cons segment segments ih =>
      rw [addAll_cons, ih, held_add, List.flatMap_cons, List.append_assoc]

/-- The fields of a word hold all that it leaves, in its order. -/
theorem flatten_ofSegments (separators : List Char) (segments : List Segment) :
    (ofSegments separators segments).flatten =
      segments.flatMap (Segment.kept separators) := by
  rw [ofSegments_eq, flatten_finished, held_addAll]
  rfl

/-! ## Words that are not taken apart -/

theorem addAll_never (separators : List Char) {segments : List Segment}
    (isFixed : ∀ segment ∈ segments, segment.splitting = .never)
    (opened : List Glyph) :
    (addAll separators false ⟨[], opened, false⟩ segments).1 =
      ⟨[], (segments.flatMap Segment.glyphs).reverse ++ opened, false⟩ := by
  induction segments generalizing opened with
  | nil => simp
  | cons segment segments ih =>
      obtain ⟨isFixedFirst, isFixed⟩ := List.forall_mem_cons.mp isFixed
      have step : add separators false ⟨[], opened, false⟩ segment =
          ⟨[], segment.glyphs.reverse ++ opened, false⟩ := by
        simp [add, isFixedFirst]
      rw [addAll_cons, step, if_pos isFixedFirst, ih isFixed]
      simp

/-- A word that is taken apart nowhere is one field, whatever it holds. -/
theorem ofSegments_of_never {separators : List Char} {segments : List Segment}
    (isFixed : ∀ segment ∈ segments, segment.splitting = .never)
    (isSome : ∃ segment ∈ segments, segment.glyphs ≠ []) :
    ofSegments separators segments = [Segment.marks segments] := by
  have isOpen : (segments.flatMap Segment.glyphs).reverse ++ [] ≠ [] := by
    obtain ⟨segment, member, isSome⟩ := isSome
    intro isNil
    rw [List.append_nil, List.reverse_eq_nil_iff, List.flatMap_eq_nil_iff]
      at isNil
    exact isSome (isNil segment member)
  rw [ofSegments_eq, none, addAll_never separators isFixed [],
    finished_of_opened isOpen]
  simp [Segment.marks, List.filterMap_flatMap]

/-! ## Values that are taken apart at blanks -/

/-- The glyph of a character that came without quotes. -/
def bare (char : Char) : Glyph := .char char false

theorem filterMap_mark_bare (chars : List Char) :
    (chars.map bare).filterMap Glyph.mark? = chars.map (·, false) := by
  simp [bare, List.filterMap_map, Function.comp_def, Glyph.mark?]

theorem close_bare (closed : List (List Marked)) (part : List Char)
    (isAfterBlank : Bool) :
    close ⟨closed, part.map bare, isAfterBlank⟩ =
      ⟨part.reverse.map (·, false) :: closed, [], isAfterBlank⟩ := by
  simp only [close, ← List.map_reverse, filterMap_mark_bare]

theorem separates_bare (separators : List Char) (char : Char) :
    separates separators (bare char) =
      (separators.contains char, separators.contains char && isStandard char) :=
        rfl

/-- With the characters of the open field, the last one first, blanks close one
field for each part that is not empty. -/
theorem finished_foldl_bare {separators : List Char}
    (isStandardAll : ∀ char ∈ separators, isStandard char = true)
    (chars part : List Char) {closed : List (List Marked)} {isAfterBlank : Bool}
    (rests : Rests ⟨closed, part.map bare, isAfterBlank⟩) :
    finished false ((chars.map bare).foldl (Fields.addSplit separators false)
        ⟨closed, part.map bare, isAfterBlank⟩) =
      closed.reverse ++
        ((chars.splitOnPPrepend separators.contains part).filter
          (· ≠ [])).map (·.map (·, false)) := by
  induction chars generalizing part closed isAfterBlank with
  | nil =>
      cases part with
      | nil => simp [finished]
      | cons char part =>
          rw [List.map_nil, List.foldl_nil, finished_of_opened (by simp)]
          simp only [← List.map_reverse, filterMap_mark_bare,
            List.splitOnPPrepend_nil]
          simp
  | cons char chars ih =>
      rw [List.map_cons, List.foldl_cons]
      have restsNext := rests.addSplit separators false (bare char)
      rcases addSplit_cases separators false rests (bare char) with
        ⟨isPart, next⟩ | ⟨isSeparator, flag, ⟨isNone, next⟩ | ⟨isSome, next⟩⟩
      · have isPart : separators.contains char = false := isPart
        rw [next] at restsNext ⊢
        rw [List.splitOnPPrepend_cons_neg isPart]
        exact ih (char :: part) restsNext
      · have isSeparator : separators.contains char = true := isSeparator
        obtain rfl : part = [] := by simpa using isNone
        rw [next] at restsNext ⊢
        rw [List.splitOnPPrepend_cons_pos isSeparator]
        exact ih [] restsNext
      · have isSeparator : separators.contains char = true := isSeparator
        have isBlank : (separates separators (bare char)).2 = true := by
          have isStandard :=
            isStandardAll char (List.contains_iff_mem.mp isSeparator)
          rw [separates_bare, isSeparator, isStandard]
          rfl
        have isOpen : part ≠ [] := by
          rintro rfl
          exact absurd (isSome rfl isBlank) Bool.false_ne_true
        rw [next] at restsNext ⊢
        rw [List.splitOnPPrepend_cons_pos isSeparator]
        refine (ih [] restsNext).trans ?_
        simp [close_bare, isOpen]

/-- Blanks take a value apart into the parts between them that are not empty. -/
theorem ofSegments_of_blanks {separators : List Char}
    (isStandardAll : ∀ char ∈ separators, isStandard char = true)
    (chars : List Char) :
    ofSegments separators [⟨.atSeparators, Glyph.ofChars chars false⟩] =
      ((chars.splitOnP separators.contains).filter (· ≠ [])).map
        (·.map (·, false)) := by
  have rests : Rests ⟨[], ([] : List Char).map bare, false⟩ := nofun
  exact finished_foldl_bare isStandardAll chars [] rests

end Fields

end ClusterConsole.Shell
