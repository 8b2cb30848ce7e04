import ClusterConsole.Shell.Pattern
import Mathlib.Data.List.Infix

/-!
# What patterns stand for

A pattern is read item by item, with all that may be left of a text carried
along.  What is left in the end is exactly what stands behind a part that fits,
so that a text fits when nothing may be left of it, and the part that is cut off
a value is the shortest or the longest one at its end that fits.
-/

namespace ClusterConsole.Shell

/-- The texts that fit a pattern, by its first item. -/
inductive Pattern.Fits : Pattern → List Char → Prop
  | nil : Pattern.Fits [] []
  | exactly (char : Char) {pattern : Pattern} {text : List Char} :
      Pattern.Fits pattern text →
      Pattern.Fits (.exactly char :: pattern) (char :: text)
  | anyChar (char : Char) {pattern : Pattern} {text : List Char} :
      Pattern.Fits pattern text →
      Pattern.Fits (.anyChar :: pattern) (char :: text)
  | anyText (part : List Char) {pattern : Pattern} {text : List Char} :
      Pattern.Fits pattern text →
      Pattern.Fits (.anyText :: pattern) (part ++ text)
  | oneOf {char : Char} {isNegated : Bool} {ranges : List CharRange}
      {pattern : Pattern} {text : List Char} :
      ((∃ range ∈ ranges, range.contains char = true) ↔ isNegated = false) →
      Pattern.Fits pattern text →
      Pattern.Fits (.oneOf isNegated ranges :: pattern) (char :: text)

/-! ## One item -/

/-- What may be left of a text after one item. -/
def PatternItem.Leaves : PatternItem → List Char → List Char → Prop
  | .anyText, text, rest => rest <:+ text
  | item, text, rest => ∃ char, text = char :: rest ∧ item.fits char = true

theorem PatternItem.fits_oneOf_iff {char : Char} {isNegated : Bool}
    {ranges : List CharRange} :
    PatternItem.fits char (.oneOf isNegated ranges) = true ↔
      ((∃ range ∈ ranges, range.contains char = true) ↔ isNegated = false) := by
  rw [← List.any_eq_true]
  cases isNegated <;> simp [PatternItem.fits]

theorem PatternItem.Leaves.suffix {item : PatternItem} {text rest : List Char}
    (leaves : item.Leaves text rest) : rest <:+ text := by
  cases item with
  | anyText => exact leaves
  | exactly _ | anyChar | oneOf _ _ =>
      obtain ⟨char, rfl, -⟩ := leaves
      exact List.suffix_cons char rest

/-- The text that stands behind all that an item is looked for in stays out of
it. -/
theorem PatternItem.leaves_append_iff {item : PatternItem}
    {text left rest : List Char} :
    item.Leaves (text ++ rest) (left ++ rest) ↔ item.Leaves text left := by
  cases item with
  | anyText =>
      refine exists_congr fun part => ?_
      rw [← List.append_assoc]
      exact List.append_left_inj rest
  | exactly _ | anyChar | oneOf _ _ =>
      refine exists_congr fun char => and_congr_left fun _ => ?_
      rw [← List.cons_append]
      exact List.append_left_inj rest

namespace Pattern

theorem fits_cons_iff {item : PatternItem} {pattern : Pattern}
    {text : List Char} :
    Fits (item :: pattern) text ↔
      ∃ rest, item.Leaves text rest ∧ Fits pattern rest := by
  constructor
  · intro fits
    cases fits with
    | exactly char fits =>
      exact ⟨_, ⟨char, rfl, by simp [PatternItem.fits]⟩, fits⟩
    | anyChar char fits => exact ⟨_, ⟨char, rfl, rfl⟩, fits⟩
    | anyText part fits => exact ⟨_, List.suffix_append part _, fits⟩
    | oneOf isIn fits =>
        exact ⟨_, ⟨_, rfl, PatternItem.fits_oneOf_iff.mpr isIn⟩, fits⟩
  · rintro ⟨rest, leaves, fits⟩
    cases item with
    | exactly other =>
        obtain ⟨char, rfl, same⟩ := leaves
        obtain rfl : char = other := by simpa [PatternItem.fits] using same
        exact .exactly char fits
    | anyChar =>
        obtain ⟨char, rfl, -⟩ := leaves
        exact .anyChar char fits
    | anyText =>
        obtain ⟨part, rfl⟩ := leaves
        exact .anyText part fits
    | oneOf isNegated ranges =>
        obtain ⟨char, rfl, isIn⟩ := leaves
        exact .oneOf (PatternItem.fits_oneOf_iff.mp isIn) fits

/-! ## All that may be left -/

theorem suffixes_eq_tails (text : List Char) : suffixes text = text.tails := by
  have general : ∀ (text : List Char) (found : List (List Char)),
      (text.foldl (fun (state : List Char × List (List Char)) (_ : Char) =>
        (state.1.drop 1, state.1.drop 1 :: state.2)) (text, found)).2.reverse =
        found.reverse ++ text.tails.tail := by
    intro text
    induction text with
    | nil => intro found; simp
    | cons char text ih =>
        intro found
        rw [List.foldl_cons, List.drop_one, List.tail_cons, ih]
        cases text <;> simp
  rw [suffixes, general]
  cases text <;> rfl

/-- Texts of which each one is an end of all before it. -/
def Falling (rests : List (List Char)) : Prop :=
  rests.Pairwise fun longer shorter => shorter <:+ longer

theorem falling_tails (text : List Char) : Falling text.tails := by
  induction text with
  | nil => simp [Falling]
  | cons char text ih =>
      rw [List.tails_cons]
      refine List.pairwise_cons.mpr ⟨fun rest member => ?_, ih⟩
      exact ((List.mem_tails rest text).mp member).trans
        (List.suffix_cons char text)

theorem Falling.suffix_head {rests : List (List Char)} (falling : Falling rests)
    {longest rest : List Char} (isHead : rests.head? = some longest)
    (member : rest ∈ rests) : rest <:+ longest := by
  obtain ⟨others, rfl⟩ := List.head?_eq_some_iff.mp isHead
  rcases List.mem_cons.mp member with rfl | member
  · exact List.suffix_rfl
  · exact (List.pairwise_cons.mp falling).1 rest member

theorem Falling.last_suffix {rests : List (List Char)} (falling : Falling rests)
    {shortest rest : List Char} (isLast : rests.getLast? = some shortest)
    (member : rest ∈ rests) : shortest <:+ rest := by
  obtain ⟨others, rfl⟩ := List.getLast?_eq_some_iff.mp isLast
  rcases List.mem_append.mp member with member | member
  · exact (List.pairwise_append.mp falling).2.2 rest member shortest (by simp)
  · rw [List.mem_singleton.mp member]

/-- What is left when the first character of a text fits. -/
private def afterOne (item : PatternItem) : List Char → Option (List Char)
  | [] => none
  | char :: rest => if item.fits char then some rest else none

private theorem afterOne_eq_some_iff {item : PatternItem}
    {text rest : List Char} :
    afterOne item text = some rest ↔
      ∃ char, text = char :: rest ∧ item.fits char = true := by
  cases text with
  | nil => simp [afterOne]
  | cons char others =>
      by_cases isFitting : item.fits char = true
      · simp [afterOne, isFitting]
      · simp [afterOne, isFitting]

private theorem afterItem_eq {item : PatternItem} (isOne : item ≠ .anyText)
    (rests : List (List Char)) :
    afterItem rests item = rests.filterMap (afterOne item) := by
  cases item with
  | anyText => exact absurd rfl isOne
  | exactly _ | anyChar | oneOf _ _ =>
      refine congrArg (fun test => rests.filterMap test) (funext fun text => ?_)
      cases text <;> rfl

private theorem leaves_iff {item : PatternItem} (isOne : item ≠ .anyText)
    {text rest : List Char} :
    item.Leaves text rest ↔ afterOne item text = some rest := by
  rw [afterOne_eq_some_iff]
  cases item with
  | anyText => exact absurd rfl isOne
  | exactly _ | anyChar | oneOf _ _ => rfl

theorem suffix_of_cons_suffix_cons {first second : Char}
    {shorter longer : List Char}
    (suffix : first :: shorter <:+ second :: longer) : shorter <:+ longer := by
  rcases List.suffix_cons_iff.mp suffix with same | suffix
  · exact (List.cons_eq_cons.mp same).2 ▸ List.suffix_rfl
  · exact (List.suffix_cons first shorter).trans suffix

theorem Falling.afterItem {rests : List (List Char)} (falling : Falling rests)
    (item : PatternItem) : Falling (Pattern.afterItem rests item) := by
  by_cases isStar : item = .anyText
  · subst isStar
    cases isHead : rests.head? with
    | none => simp [Pattern.afterItem, isHead, Falling]
    | some longest =>
        simpa [Pattern.afterItem, isHead, suffixes_eq_tails] using
          falling_tails longest
  · rw [afterItem_eq isStar]
    refine List.Pairwise.filterMap (afterOne item) ?_ falling
    intro longer shorter suffix left isLeft right isRight
    obtain ⟨first, rfl, -⟩ := afterOne_eq_some_iff.mp isLeft
    obtain ⟨second, rfl, -⟩ := afterOne_eq_some_iff.mp isRight
    exact suffix_of_cons_suffix_cons suffix

theorem Falling.mem_afterItem_iff {rests : List (List Char)}
    (falling : Falling rests) {item : PatternItem} {rest : List Char} :
    rest ∈ Pattern.afterItem rests item ↔
      ∃ text ∈ rests, item.Leaves text rest := by
  by_cases isStar : item = .anyText
  · subst isStar
    -- The longest text has the ends of all others among its own.
    cases isHead : rests.head? with
    | none => simp [Pattern.afterItem, List.head?_eq_none_iff.mp isHead]
    | some longest =>
        have isMember : longest ∈ rests :=
          List.mem_of_mem_head? (by simp [isHead])
        simp only [Pattern.afterItem, isHead, Option.map_some, Option.getD_some,
          suffixes_eq_tails, List.mem_tails, PatternItem.Leaves]
        constructor
        · exact fun suffix => ⟨longest, isMember, suffix⟩
        · rintro ⟨text, member, suffix⟩
          exact suffix.trans (falling.suffix_head isHead member)
  · rw [afterItem_eq isStar, List.mem_filterMap]
    exact exists_congr fun text => and_congr_right fun _ =>
      (leaves_iff isStar).symm

theorem Falling.foldl {rests : List (List Char)} (falling : Falling rests)
    (pattern : Pattern) : Falling (pattern.foldl Pattern.afterItem rests) := by
  induction pattern generalizing rests with
  | nil => exact falling
  | cons item pattern ih => exact ih (falling.afterItem item)

theorem Falling.mem_foldl_iff {rests : List (List Char)}
    (falling : Falling rests) {pattern : Pattern} {rest : List Char} :
    rest ∈ pattern.foldl Pattern.afterItem rests ↔
      ∃ text ∈ rests, ∃ part, text = part ++ rest ∧ Fits pattern part := by
  induction pattern generalizing rests with
  | nil =>
      constructor
      · exact fun member => ⟨rest, member, [], rfl, .nil⟩
      · rintro ⟨_, member, _, rfl, fits⟩
        cases fits
        exact member
  | cons item pattern ih =>
      rw [List.foldl_cons, ih (falling.afterItem item)]
      constructor
      · rintro ⟨text, member, part, rfl, fits⟩
        obtain ⟨whole, isRest, leaves⟩ := falling.mem_afterItem_iff.mp member
        obtain ⟨front, rfl⟩ := leaves.suffix
        rw [← List.append_assoc] at leaves isRest
        exact ⟨_, isRest, front ++ part, rfl, fits_cons_iff.mpr
          ⟨part, PatternItem.leaves_append_iff.mp leaves, fits⟩⟩
      · rintro ⟨_, member, part, rfl, fits⟩
        obtain ⟨left, leaves, fits⟩ := fits_cons_iff.mp fits
        refine ⟨left ++ rest, falling.mem_afterItem_iff.mpr ?_, left, rfl, fits⟩
        exact ⟨_, member, PatternItem.leaves_append_iff.mpr leaves⟩

theorem falling_rests (pattern : Pattern) (text : List Char) :
    Falling (pattern.rests text) :=
  Falling.foldl (List.pairwise_singleton _ text) pattern

theorem mem_rests_iff {pattern : Pattern} {text rest : List Char} :
    rest ∈ pattern.rests text ↔
      ∃ part, text = part ++ rest ∧ Fits pattern part := by
  have single : Falling [text] := List.pairwise_singleton _ text
  rw [rests, single.mem_foldl_iff]
  simp [eq_comm]

theorem fits_iff {pattern : Pattern} {text : List Char} :
    pattern.fits text = true ↔ Fits pattern text := by
  have isLeft : pattern.fits text = true ↔ [] ∈ pattern.rests text := by
    simp [fits, List.any_eq_true]
  rw [isLeft, mem_rests_iff]
  simp

/-! ## Patterns in a row -/

theorem Fits.append {first second : Pattern} {front back : List Char}
    (fitsFirst : Fits first front) (fitsSecond : Fits second back) :
    Fits (first ++ second) (front ++ back) := by
  induction fitsFirst with
  | nil => exact fitsSecond
  | exactly char _ ih => exact .exactly char ih
  | anyChar char _ ih => exact .anyChar char ih
  | anyText part _ ih =>
      rw [List.append_assoc]
      exact .anyText part ih
  | oneOf isIn _ ih => exact .oneOf isIn ih

theorem Fits.reverse {pattern : Pattern} {text : List Char}
    (fits : Fits pattern text) : Fits pattern.reverse text.reverse := by
  induction fits with
  | nil => exact .nil
  | exactly char _ ih =>
      simpa using ih.append (.exactly char .nil)
  | anyChar char _ ih =>
      simpa using ih.append (.anyChar char .nil)
  | anyText part _ ih =>
      simpa using ih.append (.anyText part.reverse .nil)
  | oneOf isIn _ ih =>
      simpa using ih.append (.oneOf isIn .nil)

theorem fits_reverse_iff {pattern : Pattern} {text : List Char} :
    Fits pattern.reverse text.reverse ↔ Fits pattern text :=
  ⟨fun fits => by simpa using fits.reverse, Fits.reverse⟩

/-! ## What is cut off a value -/

/-- A value with a part at one of its ends. -/
def joined (isAtStart : Bool) (part rest : List Char) : List Char :=
  if isAtStart then part ++ rest else rest ++ part

/-- What is cut off: a part at an end that fits, of which there is no shorter or
no longer one. -/
structure CutsOff (isAtStart isLongest : Bool) (pattern : Pattern)
    (value part kept : List Char) : Prop where
  value_eq : value = joined isAtStart part kept
  fits : Fits pattern part
  extreme : ∀ other rest, value = joined isAtStart other rest →
    Fits pattern other →
      if isLongest then other.length ≤ part.length
      else part.length ≤ other.length

theorem length_joined (isAtStart : Bool) (part rest : List Char) :
    (joined isAtStart part rest).length = part.length + rest.length := by
  cases isAtStart <;> simp [joined, Nat.add_comm]

theorem CutsOff.unique {isAtStart isLongest : Bool} {pattern : Pattern}
    {value part kept other rest : List Char}
    (cuts : CutsOff isAtStart isLongest pattern value part kept)
    (cutsOther : CutsOff isAtStart isLongest pattern value other rest) :
    kept = rest := by
  have upper := cuts.extreme other rest cutsOther.value_eq cutsOther.fits
  have lower := cutsOther.extreme part kept cuts.value_eq cuts.fits
  have same : part.length = other.length := by
    cases isLongest <;> simp only [if_true, Bool.false_eq_true, if_false]
      at upper lower <;>
      omega
  have value_eq := cuts.value_eq.symm.trans cutsOther.value_eq
  cases isAtStart with
  | true => exact (List.append_inj value_eq same).2
  | false => exact (List.append_inj' value_eq same).1

/-- The rest that is chosen has the shortest or the longest part in front. -/
theorem cutsOff_of_chosen {isLongest : Bool} {pattern : Pattern}
    {value kept : List Char}
    (chosen : (if isLongest then (pattern.rests value).getLast?
      else (pattern.rests value).head?) = some kept) :
    ∃ part, CutsOff true isLongest pattern value part kept := by
  have falling := falling_rests pattern value
  have isRest : kept ∈ pattern.rests value := by
    cases isLongest with
    | true => exact List.mem_of_getLast? chosen
    | false => exact List.mem_of_mem_head? chosen
  obtain ⟨part, value_eq, fits⟩ := mem_rests_iff.mp isRest
  refine ⟨part, value_eq, fits, fun other rest otherwise fitsOther => ?_⟩
  have isOther : rest ∈ pattern.rests value :=
    mem_rests_iff.mpr ⟨other, otherwise, fitsOther⟩
  have lengths := congrArg List.length (value_eq.symm.trans otherwise)
  simp only [length_joined, List.length_append] at lengths
  cases isLongest with
  | true =>
      have shortest := (falling.last_suffix chosen isOther).length_le
      simp only [if_true]
      omega
  | false =>
      have longest := (falling.suffix_head chosen isOther).length_le
      simp only [Bool.false_eq_true, if_false]
      omega

theorem not_fits_of_chosen_eq_none {isLongest : Bool} {pattern : Pattern}
    {value : List Char}
    (chosen : (if isLongest then (pattern.rests value).getLast?
      else (pattern.rests value).head?) = none)
    (part rest : List Char) (value_eq : value = part ++ rest) :
    ¬ Fits pattern part := by
  intro fits
  have isRest := mem_rests_iff.mpr ⟨part, value_eq, fits⟩
  have isNil : pattern.rests value = [] := by
    cases isLongest with
    | true => exact List.getLast?_eq_none_iff.mp chosen
    | false => exact List.head?_eq_none_iff.mp chosen
  rw [isNil] at isRest
  cases isRest

theorem CutsOff.reverse {isLongest : Bool} {pattern : Pattern}
    {value part kept : List Char}
    (cuts : CutsOff true isLongest pattern.reverse value.reverse part kept) :
    CutsOff false isLongest pattern value part.reverse kept.reverse where
  value_eq := by
    have turned := congrArg List.reverse cuts.value_eq
    simpa [joined] using turned
  fits := fits_reverse_iff.mp (by simpa using cuts.fits)
  extreme := by
    intro other rest value_eq fits
    have bound := cuts.extreme other.reverse rest.reverse
      (by simp [value_eq, joined]) fits.reverse
    simpa using bound

theorem cut_cases (isAtStart isLongest : Bool) (pattern : Pattern)
    (value : List Char) :
    (∃ part, CutsOff isAtStart isLongest pattern value part
        (cut isAtStart isLongest pattern value)) ∨
      ((∀ part rest, value = joined isAtStart part rest → ¬ Fits pattern part) ∧
        cut isAtStart isLongest pattern value = value) := by
  cases isAtStart with
  | true =>
      cases chosen : (if isLongest then (pattern.rests value).getLast?
        else (pattern.rests value).head?) with
      | none =>
          exact .inr ⟨not_fits_of_chosen_eq_none chosen, by simp [cut, chosen]⟩
      | some kept =>
          left
          rw [show cut true isLongest pattern value = kept by
            simp [cut, chosen]]
          exact cutsOff_of_chosen chosen
  | false =>
      -- The end of a value is the start of the value that is turned around.
      cases chosen : (if isLongest then
        (rests pattern.reverse value.reverse).getLast?
        else (rests pattern.reverse value.reverse).head?) with
      | none =>
          refine .inr ⟨fun part rest value_eq fits => ?_, by simp [cut, chosen]⟩
          exact not_fits_of_chosen_eq_none chosen part.reverse rest.reverse
            (by simp [value_eq, joined]) fits.reverse
      | some kept =>
          obtain ⟨part, cuts⟩ := cutsOff_of_chosen chosen
          left
          rw [show cut false isLongest pattern value = kept.reverse by
            simp [cut, chosen]]
          exact ⟨part.reverse, cuts.reverse⟩

/-- A part that fits is cut off if there is one, and the value is kept whole
otherwise. -/
theorem cut_eq_iff {isAtStart isLongest : Bool} {pattern : Pattern}
    {value kept : List Char} :
    cut isAtStart isLongest pattern value = kept ↔
      (∃ part, CutsOff isAtStart isLongest pattern value part kept) ∨
        ((∀ part rest, value = joined isAtStart part rest →
            ¬ Fits pattern part) ∧
          kept = value) := by
  constructor
  · rintro rfl
    exact cut_cases isAtStart isLongest pattern value
  · intro isKept
    rcases cut_cases isAtStart isLongest pattern value, isKept with
      ⟨⟨part, cuts⟩ | ⟨none, whole⟩, ⟨other, cutsOther⟩ | ⟨noOther, rfl⟩⟩
    · exact cuts.unique cutsOther
    · exact absurd cuts.fits (noOther part _ cuts.value_eq)
    · exact absurd cutsOther.fits (none other kept cutsOther.value_eq)
    · exact whole

example :
    cut true true (ofMarked [('*', false), ('/', false)]) "a/b/c".toList =
      "c".toList := by
  decide

/-! ## Patterns that stand for one text -/

/-- A pattern without open items fits its own text and no other. -/
theorem fits_iff_eq_text {pattern : Pattern} (isClosed : pattern.isOpen = false)
    {text : List Char} : Fits pattern text ↔ text = pattern.text := by
  induction pattern generalizing text with
  | nil =>
      constructor
      · rintro ⟨⟩
        rfl
      · rintro rfl
        exact .nil
  | cons item pattern ih =>
      cases item with
      | anyChar | anyText | oneOf _ _ => simp [isOpen] at isClosed
      | exactly char =>
          have isClosed : isOpen pattern = false := by
            simpa [isOpen] using isClosed
          rw [show Pattern.text (.exactly char :: pattern) =
            char :: Pattern.text pattern from rfl]
          constructor
          · intro fits
            cases fits with
            | exactly _ fits => rw [(ih isClosed).mp fits]
          · rintro rfl
            exact .exactly char ((ih isClosed).mpr rfl)

theorem ofChars_written_quoted (chars : List Char) (fuel : Nat)
    (isEnough : chars.length < fuel) :
    ofChars fuel (written (chars.map (·, true))) = chars.map .exactly := by
  induction chars generalizing fuel with
  | nil =>
      cases fuel with
      | zero => cases isEnough
      | succ fuel => rfl
  | cons char chars ih =>
      cases fuel with
      | zero => cases isEnough
      | succ fuel =>
          have step : ofChars (fuel + 1) ('\\' :: char ::
              written (chars.map (·, true))) =
              .exactly char :: ofChars fuel
                (written (chars.map (·, true))) := by
            simp [ofChars]
          rw [List.map_cons, List.map_cons, ← ih fuel (by simpa using isEnough)]
          exact step

/-- What is quoted in a pattern stands for itself, whatever its characters
are. -/
theorem fits_ofMarked_quoted_iff {chars text : List Char} :
    (ofMarked (chars.map (·, true))).fits text = true ↔ text = chars := by
  have items : ofMarked (chars.map (·, true)) = chars.map .exactly := by
    refine ofChars_written_quoted chars _ ?_
    have length_eq :
        (written (chars.map (·, true))).length = chars.length * 2 := by
      simp [written, List.length_flatMap, Function.comp_def]
    omega
  have isClosed : isOpen (chars.map .exactly) = false := by
    simp [isOpen]
  rw [fits_iff, items, fits_iff_eq_text isClosed]
  simp [Pattern.text, List.filterMap_map]

end Pattern

end ClusterConsole.Shell
