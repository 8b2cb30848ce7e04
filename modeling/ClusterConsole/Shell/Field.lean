import ClusterConsole.Shell.Pattern

/-!
# Fields

What a word stands for is taken apart into fields.  Only what came from values
and outputs without quotes is looked at for separators; all arguments in quotes
are taken apart between them alone.
-/

namespace ClusterConsole.Shell

/-- A sign of an expanded word. -/
inductive Glyph where
  | char (char : Char) (isQuoted : Bool)
  /-- A quote, which keeps a field that would otherwise be empty. -/
  | quote
  /-- The place between two arguments. -/
  | gap
deriving DecidableEq, Repr

/-- Where a part of an expanded word is taken apart. -/
inductive Splitting where
  | never
  | atSeparators
  | atGaps
deriving DecidableEq, Repr

/-- A part of an expanded word. -/
structure Segment where
  splitting : Splitting
  glyphs : List Glyph
deriving DecidableEq, Repr

namespace Glyph

def mark? : Glyph → Option Marked
  | .char it isQuoted => some (it, isQuoted)
  | .quote => none
  | .gap => none

def ofChars (chars : List Char) (isQuoted : Bool) : List Glyph :=
  chars.map fun it => .char it isQuoted

end Glyph

namespace Segment

/-- The characters of a word that is not taken apart. -/
def marks (segments : List Segment) : List Marked :=
  segments.flatMap fun segment => segment.glyphs.filterMap Glyph.mark?

/-- The text of characters, without their marks. -/
def unmarked (marks : List Marked) : String :=
  String.ofList (marks.map Prod.fst)

/-- The text of a word that is not taken apart. -/
def text (segments : List Segment) : String := unmarked (marks segments)

/-- The text of a segment that is quoted or not taken apart. -/
def fixed (glyphs : List Glyph) : Segment := ⟨.never, glyphs⟩

end Segment

/-- The fields so far, the last one first. -/
structure Fields where
  closed : List (List Marked)
  /-- The glyphs of the field that is still open, the last one first. -/
  opened : List Glyph
  /-- A blank has just closed a field, so that more blanks close none. -/
  isAfterBlank : Bool
deriving DecidableEq, Repr

namespace Fields

/-- No fields. -/
def none : Fields := ⟨[], [], false⟩

/-- Closes the open field, which may be empty. -/
def close (fields : Fields) : Fields :=
  { fields with
    closed := fields.opened.reverse.filterMap Glyph.mark? :: fields.closed
    opened := [] }

def isStandard (char : Char) : Bool := char = ' ' || char = '\t' || char = '\n'

/-- Whether a glyph takes fields apart, and whether it is a blank that does. -/
def separates (separators : List Char) : Glyph → Bool × Bool
  | .gap => (true, true)
  | .char char false =>
    (separators.contains char, separators.contains char && isStandard char)
  | _ => (false, false)

/-- Adds a glyph of a segment that is taken apart at separators. -/
def addSplit (separators : List Char) (isAfterGaps : Bool) (fields : Fields)
    (glyph : Glyph) :
    Fields :=
  let (isSeparator, isBlank) := separates separators glyph
  if fields.isAfterBlank then
    if isBlank then fields
    else if isSeparator then { fields with isAfterBlank := false }
    else { fields with opened := [glyph], isAfterBlank := false }
  else if isSeparator then
    let closesBlank := isBlank && !isAfterGaps
    if fields.opened.isEmpty && closesBlank then fields
    else { fields.close with isAfterBlank := closesBlank }
  else { fields with opened := glyph :: fields.opened }

def add (separators : List Char) (isAfterGaps : Bool) (fields : Fields)
    (segment : Segment) :
    Fields :=
  let fields := { fields with isAfterBlank := false }
  match segment.splitting with
  | .never => { fields with opened := segment.glyphs.reverse ++ fields.opened }
  | .atSeparators =>
    segment.glyphs.foldl (addSplit separators isAfterGaps) fields
  | .atGaps =>
    segment.glyphs.foldl (fun fields glyph =>
      if glyph = .gap then fields.close
      else { fields with opened := glyph :: fields.opened })
      fields

/-- Whether the last segment that is taken apart at all is so between arguments
alone. -/
def endsAtGaps (segments : List Segment) : Bool :=
  ((segments.filter fun segment => segment.splitting ≠ .never).getLast?.map
      fun segment =>
    segment.splitting == .atGaps).getD false

def ofSegments (separators : List Char) (segments : List Segment) :
    List (List Marked) :=
  let (fields, _) := segments.foldl (fun (fields, isAfterGaps) segment =>
    (fields.add separators isAfterGaps segment,
      if segment.splitting = .never then isAfterGaps
      else segment.splitting == .atGaps))
    (none, false)
  let fields :=
    if fields.opened.isEmpty && !endsAtGaps segments then fields
    else fields.close
  fields.closed.reverse

end Fields

end ClusterConsole.Shell
