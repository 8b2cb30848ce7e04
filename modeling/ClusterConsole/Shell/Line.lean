import ClusterConsole.Shell.Field
import ClusterConsole.Text.Raw

/-!
# The parts of a line

A line that is read is taken apart for so many variables.  Characters that a
backslash quotes never take it apart.  The last variable gets all that is left;
if that is one part alone, it gets it without what closes it.
-/

namespace ClusterConsole.Shell

namespace Line

/-- The parts so far, the last one first. -/
structure Parts where
  closed : List String
  /-- The part that is still open, the last character first. -/
  opened : List Char
  /-- How many characters of the open part stay, if it need not stay whole. -/
  kept? : Option Nat
  /-- The parts that are still to be closed. -/
  left : Nat
  /-- A blank has just closed a part, so that more blanks close none. -/
  isAfterBlank : Bool
deriving DecidableEq, Repr

/-- Adds a character to the last part. -/
def Parts.addLast (parts : Parts) (isSeparator isBlank : Bool) (char : Char) :
    Parts :=
  if isBlank then
    { parts with
      opened := char :: parts.opened
      kept? := parts.kept? <|> some parts.opened.length }
  else
    { parts with
      opened := char :: parts.opened
      kept? := if isSeparator && parts.isAfterBlank then parts.kept? else none
      isAfterBlank := false }

def Parts.close (parts : Parts) (isBlank : Bool) (char : Char) : Parts :=
  if parts.left ≤ 1 then
    { parts with
      opened := char :: parts.opened
      kept? := some parts.opened.length
      left := 0
      isAfterBlank := isBlank }
  else
    { parts with
      closed := String.ofList parts.opened.reverse :: parts.closed
      opened := []
      left := parts.left - 1
      isAfterBlank := isBlank }

/-- Adds a character, which may be quoted. -/
def Parts.add (separators : List Char) (parts : Parts) (mark : Marked) :
    Parts :=
  let (char, isQuoted) := mark
  let isSeparator := separators.contains char
  let isBlank := isSeparator && Fields.isStandard char
  if isQuoted then
    { parts with opened := char :: parts.opened, isAfterBlank := false }
  else if parts.left = 0 then parts.addLast isSeparator isBlank char
  else if parts.isAfterBlank then
    if isBlank then parts
    else if isSeparator then { parts with isAfterBlank := false }
    else { parts with opened := [char], isAfterBlank := false }
  else if isSeparator then
    if isBlank && parts.opened.isEmpty then parts else parts.close isBlank char
  else { parts with opened := char :: parts.opened }

/-- The parts of a line for so many variables; there may be fewer parts than
those. -/
def parts (separators : List Char) (count : Nat) (line : List Marked) :
    List String :=
  let parts := line.foldl (Parts.add separators) ⟨[], [], none, count, false⟩
  let last := parts.opened.reverse.take (parts.kept?.getD parts.opened.length)
  if last.isEmpty then parts.closed.reverse
  else (String.ofList last :: parts.closed).reverse

/-- A line at the front of some bytes, how many bytes it takes up, and whether
it has an end.  Unless it is raw, a backslash quotes the character after it, and
hides the end of the line. -/
def ofBytes (isRaw : Bool) : (isQuoted : Bool) → (taken : Nat) → List UInt8 →
    List Marked × Nat × Bool
  | _, taken, [] => ([], taken, false)
  | isQuoted, taken, byte :: rest =>
    let char := Raw.charOf byte
    if byte = 0 then ofBytes isRaw isQuoted (taken + 1) rest
    else if isQuoted then
      let (line, taken, isEnded) := ofBytes isRaw false (taken + 1) rest
      (if char = '\n' then line else (char, true) :: line, taken, isEnded)
    else if char = '\\' && !isRaw then ofBytes isRaw true (taken + 1) rest
    else if char = '\n' then ([], taken + 1, true)
    else
      let (line, taken, isEnded) := ofBytes isRaw false (taken + 1) rest
      ((char, false) :: line, taken, isEnded)

end Line

end ClusterConsole.Shell
