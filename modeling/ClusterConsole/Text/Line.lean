/-!
# Lines of a text

A line ends at a line feed, and one carriage return directly before that line
feed belongs to the ending.  The end of the text ends a last line only if
something stands on it.
-/

namespace ClusterConsole.Text

/-- The pieces between the line feeds; there is always at least one. -/
def segments : List Char → List (List Char)
  | [] => [[]]
  | '\n' :: rest => [] :: segments rest
  | char :: rest =>
    match segments rest with
    | [] => [[char]]
    | first :: others => (char :: first) :: others

/-- A line without the carriage return that belongs to its ending. -/
def dropCarriageReturn : List Char → List Char
  | [] => []
  | ['\r'] => []
  | char :: rest => char :: dropCarriageReturn rest

/-- The lines that `pieces` stand for: every piece but the last was ended by a
line feed. -/
def linesOfSegments : List (List Char) → List (List Char)
  | [] => []
  | [[]] => []
  | [last] => [last]
  | piece :: rest => dropCarriageReturn piece :: linesOfSegments rest

def charLines (chars : List Char) : List (List Char) :=
  linesOfSegments (segments chars)

def lines (text : String) : List String :=
  (charLines text.toList).map String.ofList

end ClusterConsole.Text
