/-!
# Commands of a script

A command is a simple one, made of words and redirections, or is put together
from others.  A word is made of pieces, some of which only get their text when
the command is carried out; a piece may hold a command again.
-/

namespace ClusterConsole.Shell

mutual

/-- A piece of a word. -/
inductive Piece where
  /-- Characters that may have a meaning in a pattern. -/
  | plain (chars : List Char)
  /-- Characters that stand for themselves alone, as do no characters at all. -/
  | literal (chars : List Char)
  /-- What is between double quotes. -/
  | quoted (pieces : List Piece)
  /-- The value of a parameter, with a change made to it. -/
  | parameter (name : List Char) (change : Change)
  /-- What a command prints. -/
  | output (command : Command)
  /-- The value of an expression. -/
  | number (expression : List Piece)

/-- What is made of the value of a parameter. -/
inductive Change where
  | keep
  | length
  /-- A part at one end that fits a pattern is cut off. -/
  | cut (isAtStart isLongest : Bool) (pattern : List Piece)
  /-- Something stands in for a missing value, and may be kept as the value. -/
  | orElse (countsEmpty keeps : Bool) (pieces : List Piece)
  /-- Something stands in for a value that is there. -/
  | ifThere (countsEmpty : Bool) (pieces : List Piece)
  /-- A missing value ends the script with a message. -/
  | demand (countsEmpty : Bool) (pieces : List Piece)
  /-- No change has that form. -/
  | unknown

/-- Where a redirection leads. -/
inductive Target where
  | read (name : List Piece)
  | readWrite (name : List Piece)
  /-- Written afresh; `isForced` also where a file is there that is to be
  kept. -/
  | write (isForced : Bool) (name : List Piece)
  | append (name : List Piece)
  /-- Led to where another stream leads, or nowhere. -/
  | stream (number? : Option Nat)
  | streamNamed (name : List Piece)
  /-- A document of the script, by its place among them. -/
  | document (index : Nat)

/-- A redirection of a stream. -/
inductive Redirection where
  | lead (stream : Nat) (target : Target)

/-- A command.  A line is the one of the script that messages tell. -/
inductive Command where
  | nothing
  | simple (line : Nat) (assignments : List (List Char × List Piece))
      (words : List (List Piece))
      (redirections : List Redirection)
  /-- One after the other. -/
  | both (first second : Command)
  | onSuccess (first second : Command)
  | onFailure (first second : Command)
  | negated (command : Command)
  /-- Side by side, each one reading what the one before it prints. -/
  | pipe (commands : List Command)
  /-- Beside all that follows. -/
  | background (command : Command)
  /-- In a shell of its own. -/
  | apart (line : Nat) (body : Command) (redirections : List Redirection)
  | redirected (line : Nat) (body : Command) (redirections : List Redirection)
  | branch (test yes no : Command)
  | loop (isUntil : Bool) (test body : Command)
  | each (line : Nat) (name : List Char) (items : List (List Piece))
    (body : Command)
  /-- The body of the first choice with a pattern that the subject fits. -/
  | select (line : Nat) (subject : List Piece)
    (choices : List (List (List Piece) × Command))
  | define (name : List Char) (body : Command)

end

abbrev Word := List Piece

instance : Inhabited Command := ⟨.nothing⟩

namespace Command

def isNothing : Command → Bool
  | nothing => true
  | _ => false

end Command

namespace Word

/-- The text of a word, if it is known without carrying anything out. -/
def constant? : Word → Option (List Char)
  | [] => some []
  | .plain chars :: rest => (constant? rest).map (chars ++ ·)
  | .literal chars :: rest => (constant? rest).map (chars ++ ·)
  | .quoted [] :: rest => constant? rest
  | .quoted [.plain chars] :: rest => (constant? rest).map (chars ++ ·)
  | _ => none

/-- The text of a word that is written without quotes. -/
def bare? : Word → Option (List Char)
  | [] => some []
  | [.plain chars] => some chars
  | _ => none

end Word

/-! ## Names -/

/-- Whether a character can stand in the name of a variable. -/
def isNameChar (char : Char) : Bool :=
  char.isAlphanum || char == '_'

def isName : List Char → Bool
  | [] => false
  | first :: rest => isNameChar first && !first.isDigit && rest.all isNameChar

end ClusterConsole.Shell
