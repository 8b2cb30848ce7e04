/-!
# Answers

Questions can be answered in advance, and what is left open keeps its preset
answer.
-/

namespace ClusterConsole

/-- An entry in a list of answers. -/
inductive Answer where
  | gives (value : Bool)
  /-- The question in this place gets no answer. -/
  | fails (reason : String)
deriving DecidableEq, Repr

/-- Answers given in advance. -/
structure Answers where
  /-- The entries for the questions to come. -/
  entries : List Answer
  /-- The answers not used so far. -/
  unused : List Bool
deriving DecidableEq, Repr

namespace Answers

def value? : Answer → Option Bool
  | .gives value => some value
  | .fails _ => none

def ofList (entries : List Answer) : Answers :=
  ⟨entries, entries.filterMap value?⟩

/-- The answer to the next question.  A question fails if the entry in its place
says so.  Otherwise it takes the first unused answer, or else what is preset. -/
def next (answers : Answers) (preset : Bool) : Except String Bool × Answers :=
  let later := answers.entries.drop 1
  match answers.entries.head?, answers.unused with
  | some (.fails reason), unused => (.error reason, ⟨later, unused⟩)
  | _, [] => (.ok preset, ⟨later, []⟩)
  | _, value :: unused => (.ok value, ⟨later, unused⟩)

/-- The answers to some questions in a row, each one given by what is preset. -/
def nextAll (answers : Answers) : List Bool → List (Except String Bool)
  | [] => []
  | preset :: rest =>
    let (answer, answers) := answers.next preset
    answer :: answers.nextAll rest

end Answers

end ClusterConsole
