import ClusterConsole.Proofs.Procedure.Ensures
import ClusterConsole.Proofs.Shell.Processes
import ClusterConsole.Shell.Expand

/-!
# Numbers stay in machine words

Every value that an expression comes to is one that a machine word with a sign
holds: so are the numbers that a text holds and those that variables stand for,
and every operation goes around at the ends.
-/

namespace ClusterConsole.Shell

def InWord (value : Int) : Prop :=
  -0x8000000000000000 ≤ value ∧ value < 0x8000000000000000

instance : DecidablePred InWord := fun value =>
  inferInstanceAs
    (Decidable (-0x8000000000000000 ≤ value ∧ value < 0x8000000000000000))

namespace Expression

/-! ## Operations -/

theorem inWord_wrapped (value : Int) : InWord (wrapped value) := by
  have least := Int.le_bmod (x := value) (m := Nat.pow 2 64) (by decide)
  have most := Int.bmod_lt (x := value) (m := Nat.pow 2 64) (by decide)
  have half : ((Nat.pow 2 64 : Nat) : Int) = 0x10000000000000000 := rfl
  rw [half] at least most
  exact ⟨by unfold wrapped; omega, by unfold wrapped; omega⟩

theorem inWord_truth (holds : Bool) : InWord (truth holds) := by
  cases holds <;> decide

theorem inWord_complement {value : Int} (inWord : InWord value) :
    InWord (-value - 1) := by
  unfold InWord at *
  omega

theorem inWord_resultOf? {operation : String} {left right result : Int}
    (isResult : resultOf? operation left right = some result) :
    InWord result := by
  obtain ⟨value, -, rfl⟩ := Option.map_eq_some_iff.mp isResult
  exact inWord_wrapped value

/-- Expressions whose numbers are those of machine words. -/
def IsKept : Expression → Prop
  | number value => InWord value
  | named _ => True
  | negative operand | denial operand | complement operand => operand.IsKept
  | binary _ left right | .and left right | .or left right =>
      left.IsKept ∧ right.IsKept
  | conditional test yes no => test.IsKept ∧ yes.IsKept ∧ no.IsKept
  | assign _ _ value => value.IsKept

end Expression

/-! ## Values -/

def Gives {α : Type} (holds : α → Prop) (action : Action α) : Prop :=
  ∀ state value after,
    Action.outcome action state = (.ok value, after) → holds value

section Gives

variable {α β : Type} {holds : α → Prop} {fits : β → Prop}

theorem gives_pure {value : α} (isSuch : holds value) :
    Gives holds (pure value : Action α) := by
  intro state found after isGiven
  cases isGiven
  exact isSuch

theorem Gives.bind {action : Action α}
    {next : α → Action β} (first : Gives holds action)
    (rest : ∀ value, holds value → Gives fits (next value)) :
    Gives fits (action >>= next) := by
  intro state value after isGiven
  rw [Action.outcome_bind] at isGiven
  rcases outcome : Action.outcome action state with ⟨stop | middle, between⟩
  · rw [outcome] at isGiven
    cases isGiven
  · rw [outcome] at isGiven
    exact rest middle (first state middle between outcome) between value
      after isGiven

/-- What comes before does not matter to what is given. -/
theorem Gives.after {action : Action β} {next : β → Action α}
    (rest : ∀ value, Gives holds (next value)) :
    Gives holds (action >>= next) := by
  have isAny : Gives (fun _ => True) action := fun _ _ _ _ => trivial
  exact isAny.bind fun value _ => rest value

theorem gives_throw (stop : Stop) : Gives holds (throw stop : Action α) := by
  intro state value after isGiven
  cases isGiven

theorem gives_fault (message : String) :
    Gives holds (Action.fault message : Action α) :=
  .after fun _ => .after fun _ => gives_throw .fault

end Gives

theorem least_eq : Leading.least = -0x8000000000000000 := rfl

theorem greatest_eq : Leading.greatest = 0x8000000000000000 - 1 := rfl

theorem inWord_of_whole? {isBased : Bool} {chars : List Char} {value : Int}
    (isWhole : Leading.whole? isBased chars = some value) : InWord value := by
  unfold Leading.whole? at isWhole
  split at isWhole
  · split at isWhole
    · rename_i inRange
      cases isWhole
      have bounds := Bool.and_eq_true_iff.mp (Bool.and_eq_true_iff.mp inRange).2
      have least : Leading.least ≤ value := of_decide_eq_true bounds.1
      have most : value ≤ Leading.greatest := of_decide_eq_true bounds.2
      rw [least_eq] at least
      rw [greatest_eq] at most
      exact ⟨least, by omega⟩
    · cases isWhole
  · cases isWhole

theorem gives_loadNumber (name : String) :
    Gives InWord (Expand.loadNumber name) := by
  refine .after fun process => ?_
  split
  · exact gives_pure (by decide)
  · split
    · exact gives_pure (by decide)
    · split
      · rename_i value isWhole
        exact gives_pure (inWord_of_whole? isWhole)
      · exact gives_fault _

theorem gives_value {load : String → Action Int}
    {store : String → Int → Action Unit} {fault : String → Action Int}
    (loads : ∀ name, Gives InWord (load name))
    (faults : ∀ message, Gives InWord (fault message)) {expression : Expression}
    (isKept : expression.IsKept) :
    Gives InWord (expression.value load store fault) := by
  induction expression with
  | number value => exact gives_pure isKept
  | named name => exact loads name
  | negative operand ih =>
      exact (ih isKept).bind fun value _ =>
        gives_pure (Expression.inWord_wrapped _)
  | denial operand ih =>
      exact (ih isKept).bind fun value _ =>
        gives_pure (Expression.inWord_truth _)
  | complement operand ih =>
      exact (ih isKept).bind fun value inWord =>
        gives_pure (Expression.inWord_complement inWord)
  | binary operation left right ihLeft ihRight =>
      refine (ihLeft isKept.1).bind fun left _ => ?_
      refine (ihRight isKept.2).bind fun right _ => ?_
      split
      · rename_i result isResult
        exact gives_pure (Expression.inWord_resultOf? isResult)
      · exact faults _
  | and left right ihLeft ihRight =>
      refine (ihLeft isKept.1).bind fun left _ => ?_
      split
      · exact gives_pure (by decide)
      · exact (ihRight isKept.2).bind fun right _ =>
          gives_pure (Expression.inWord_truth _)
  | or left right ihLeft ihRight =>
      refine (ihLeft isKept.1).bind fun left _ => ?_
      split
      · exact gives_pure (by decide)
      · exact (ihRight isKept.2).bind fun right _ =>
          gives_pure (Expression.inWord_truth _)
  | conditional test yes no ihTest ihYes ihNo =>
      refine (ihTest isKept.1).bind fun test _ => ?_
      split
      · exact ihYes isKept.2.1
      · exact ihNo isKept.2.2
  | assign name operation? operand ih =>
      have stores : ∀ result, InWord result → Gives InWord (do
          store name result
          return result) :=
        fun result isResult => .after fun _ => gives_pure isResult
      refine (ih isKept).bind fun operand inWord => ?_
      cases operation? with
      | none => exact stores operand inWord
      | some operation =>
          refine (loads name).bind fun old _ => ?_
          dsimp only
          split
          · rename_i result isResult
            exact stores result (Expression.inWord_resultOf? isResult)
          · exact (faults _).bind stores

namespace Expression

/-! ## Reading -/

/-- Lexemes whose numbers are those of machine words. -/
def AreKept (lexemes : List Lexeme) : Prop :=
  ∀ value, .number value ∈ lexemes → InWord value

theorem AreKept.tail {lexeme : Lexeme} {lexemes : List Lexeme}
    (areKept : AreKept (lexeme :: lexemes)) : AreKept lexemes :=
  fun value member => areKept value (List.mem_cons_of_mem lexeme member)

theorem areKept_cons_number {value : Int} {lexemes : List Lexeme}
    (inWord : InWord value) (areKept : AreKept lexemes) :
    AreKept (.number value :: lexemes) := by
  intro other member
  rcases List.mem_cons.mp member with isFirst | member
  · cases isFirst
    exact inWord
  · exact areKept other member

theorem areKept_cons_other {lexeme : Lexeme} {lexemes : List Lexeme}
    (isOther : ∀ value, lexeme ≠ .number value) (areKept : AreKept lexemes) :
    AreKept (lexeme :: lexemes) := by
  intro value member
  rcases List.mem_cons.mp member with isFirst | member
  · exact absurd isFirst.symm (isOther value)
  · exact areKept value member

theorem areKept_lexemes (fuel : Nat) (chars : List Char) :
    AreKept (lexemes fuel chars) := by
  induction fuel generalizing chars with
  | zero => exact fun value member => nomatch member
  | succ fuel ih =>
      cases chars with
      | nil => exact fun value member => nomatch member
      | cons char rest =>
          unfold lexemes
          dsimp only
          split
          · exact ih rest
          · split
            · split
              · refine areKept_cons_number ?_ (ih _)
                unfold InWord
                rw [greatest_eq]
                omega
              · exact areKept_cons_other nofun (ih rest)
            · split
              · exact areKept_cons_other nofun (ih _)
              · split
                · exact areKept_cons_other nofun (ih _)
                · exact areKept_cons_other nofun (ih rest)

/-- Whatever a reader gives is such a thing, and the numbers that are left are
those of machine words if all were before. -/
def Yields {α : Type} (holds : α → Prop) (reader : LexemeReader α) : Prop :=
  ∀ found value rest, AreKept found → reader.run found = .ok (value, rest) →
    holds value ∧ AreKept rest

section Yields

variable {α β : Type} {holds : α → Prop} {fits : β → Prop}

theorem yields_pure {value : α} (isSuch : holds value) :
    Yields holds (pure value : LexemeReader α) := by
  intro found value rest areKept isRead
  cases isRead
  exact ⟨isSuch, areKept⟩

theorem yields_throw (message : String) :
    Yields holds (throw message : LexemeReader α) := by
  intro found value rest areKept isRead
  cases isRead

theorem yields_get : Yields AreKept (get : LexemeReader (List Lexeme)) := by
  intro found value rest areKept isRead
  cases isRead
  exact ⟨areKept, areKept⟩

theorem yields_set {found : List Lexeme} (areKept : AreKept found) :
    Yields (fun _ => True) (set found : LexemeReader PUnit) := by
  intro before value rest _ isRead
  cases isRead
  exact ⟨trivial, areKept⟩

theorem Yields.bind {reader : LexemeReader α}
    {next : α → LexemeReader β} (first : Yields holds reader)
    (second : ∀ value, holds value → Yields fits (next value)) :
    Yields fits (reader >>= next) := by
  intro found value rest areKept isRead
  rw [StateT.run_bind] at isRead
  cases outcome : reader.run found with
  | error message =>
      rw [outcome] at isRead
      cases isRead
  | ok middle =>
      rw [outcome] at isRead
      obtain ⟨isSuch, areKept⟩ := first found middle.1 middle.2 areKept outcome
      exact second middle.1 isSuch middle.2 value rest areKept isRead

theorem Yields.after_set {found : List Lexeme} {next : LexemeReader β}
    (areKept : AreKept found) (second : Yields fits next) :
    Yields fits (do set found; next) :=
  (yields_set areKept).bind fun _ _ => second

end Yields

/-- All readers of expressions, with the same fuel. -/
structure ReadersYield (fuel : Nat) : Prop where
  whole : Yields IsKept (whole fuel)
  condition : Yields IsKept (condition fuel)
  either : Yields IsKept (either fuel)
  both : Yields IsKept (both fuel)
  level : ∀ levels, Yields IsKept (level fuel levels)
  levelAfter : ∀ operations inner left, IsKept left →
    Yields IsKept (levelAfter fuel operations inner left)
  unary : Yields IsKept (unary fuel)

theorem readersYield_zero : ReadersYield 0 where
  whole := yields_throw _
  condition := yields_throw _
  either := yields_throw _
  both := yields_throw _
  level _ := yields_throw _
  levelAfter _ _ _ _ := yields_throw _
  unary := yields_throw _

theorem ReadersYield.succ {fuel : Nat} (readers : ReadersYield fuel) :
    ReadersYield (fuel + 1) where
  whole := by
    unfold Expression.whole
    refine yields_get.bind fun found areKept => ?_
    split
    · split
      · exact .after_set areKept.tail.tail
          (readers.whole.bind fun value isKept => yields_pure isKept)
      · exact readers.condition
    · exact readers.condition
  condition := by
    unfold Expression.condition
    refine readers.either.bind fun test isTest => ?_
    refine yields_get.bind fun found areKept => ?_
    split
    · refine .after_set areKept.tail (readers.whole.bind fun yes isYes => ?_)
      refine yields_get.bind fun found areKept => ?_
      split
      · exact .after_set areKept.tail
          (readers.condition.bind fun no isNo =>
            yields_pure ⟨isTest, isYes, isNo⟩)
      · exact yields_throw _
    · exact yields_pure isTest
  either := by
    unfold Expression.either
    refine readers.both.bind fun left isLeft => ?_
    refine yields_get.bind fun found areKept => ?_
    split
    · exact .after_set areKept.tail
        (readers.either.bind fun right isRight => yields_pure ⟨isLeft, isRight⟩)
    · exact yields_pure isLeft
  both := by
    unfold Expression.both
    refine (readers.level levels).bind fun left isLeft => ?_
    refine yields_get.bind fun found areKept => ?_
    split
    · exact .after_set areKept.tail
        (readers.both.bind fun right isRight => yields_pure ⟨isLeft, isRight⟩)
    · exact yields_pure isLeft
  level := by
    intro levels
    cases levels with
    | nil => exact readers.unary
    | cons operations inner =>
        exact (readers.level inner).bind fun left isLeft =>
          readers.levelAfter operations inner left isLeft
  levelAfter := by
    intro operations inner left isLeft
    unfold Expression.levelAfter
    refine yields_get.bind fun found areKept => ?_
    split
    · split
      · refine .after_set areKept.tail ?_
        exact (readers.level inner).bind fun right isRight =>
          readers.levelAfter operations inner _ ⟨isLeft, isRight⟩
      · exact yields_pure isLeft
    · exact yields_pure isLeft
  unary := by
    unfold Expression.unary
    refine yields_get.bind fun found areKept => ?_
    split
    · exact .after_set areKept.tail
        (readers.unary.bind fun operand isKept => yields_pure isKept)
    · exact .after_set areKept.tail readers.unary
    · exact .after_set areKept.tail
        (readers.unary.bind fun operand isKept => yields_pure isKept)
    · exact .after_set areKept.tail
        (readers.unary.bind fun operand isKept => yields_pure isKept)
    · refine .after_set areKept.tail ?_
      refine readers.whole.bind fun inside isInside => ?_
      refine yields_get.bind fun found areKept => ?_
      split
      · exact .after_set areKept.tail (yields_pure isInside)
      · exact yields_throw _
    · exact .after_set areKept.tail
        (yields_pure (areKept _ (List.mem_cons_self ..)))
    · exact .after_set areKept.tail (yields_pure trivial)
    · exact yields_throw _

theorem readersYield (fuel : Nat) : ReadersYield fuel := by
  induction fuel with
  | zero => exact readersYield_zero
  | succ fuel ih => exact ih.succ

theorem isKept_of_ofText {text : List Char} {expression : Expression}
    (isRead : ofText text = .ok expression) : expression.IsKept := by
  obtain ⟨⟨found, rest⟩, isWhole, isRead⟩ := bind_eq_ok_iff.mp isRead
  have isKept :=
    ((readersYield _).whole _ found rest (areKept_lexemes _ _) isWhole).1
  cases rest with
  | nil =>
      cases isRead
      exact isKept
  | cons lexeme rest => cases isRead

end Expression

/-- The value of an expression is a number that a machine word holds, whatever
the text of the expression is and what its variables are. -/
theorem gives_evaluate (text : String) :
    Gives InWord (Expand.evaluate text) := by
  unfold Expand.evaluate
  dsimp only
  split
  · rename_i expression isRead
    exact gives_value gives_loadNumber (fun message => gives_fault _)
      (Expression.isKept_of_ofText isRead)
  · exact gives_fault _

end ClusterConsole.Shell
