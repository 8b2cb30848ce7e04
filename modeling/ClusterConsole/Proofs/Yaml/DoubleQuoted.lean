/-!
# Double-quoted scalars

The rules by which YAML reads a scalar between double quotes.  A backslash
begins an escape.  Lines are folded: blanks around a line break are dropped, one
break stands for a space, and every further one for a line feed.  Apart from
tabs and line breaks no control character may stand in a scalar as it is.
-/

namespace ClusterConsole.Yaml

inductive Piece where
  /-- A space or a tab that stands in the text as it is. -/
  | blank (char : Char)
  /-- Any other character, or one that was escaped. -/
  | content (char : Char)
  | lineBreak
  /-- A line break that was escaped, which joins the two lines. -/
  | joint
deriving DecidableEq, Repr

namespace Piece

def endsLine : Piece → Bool
  | .lineBreak => true
  | .joint => true
  | _ => false

def ofChar (char : Char) : Piece :=
  if char = ' ' ∨ char = '\t' then .blank char else .content char

end Piece

/-! ## Scanning -/

/-- Whether a character may stand between double quotes without being a line
break.  Of the control characters below the space that is the tab alone. -/
def isPrintable (char : Char) : Bool :=
  char == '\t' || 0x20 ≤ char.toNat

inductive Mode where
  | plain
  /-- After a carriage return, to which a line feed would belong. -/
  | afterReturn
  | escape
  /-- In the code of a character: how many digits there are after the next one,
  and the number so far. -/
  | code (more : Nat) (number : Nat)
deriving DecidableEq, Repr

/-- What becomes of a character: it closes the scalar, or some pieces are
complete and the text goes on. -/
inductive Step where
  | close
  | goOn (pieces : List Piece) (mode : Mode)
deriving DecidableEq, Repr

namespace Step

/-- The character that is escaped by a single one. -/
def named? : Char → Option Char
  | '0' => some '\x00'
  | 'a' => some '\x07'
  | 'b' => some '\x08'
  | 't' => some '\t'
  | '\t' => some '\t'
  | 'n' => some '\n'
  | 'v' => some '\x0b'
  | 'f' => some '\x0c'
  | 'r' => some '\r'
  | 'e' => some '\x1b'
  | ' ' => some ' '
  | '"' => some '"'
  | '/' => some '/'
  | '\\' => some '\\'
  | 'N' => some '\u0085'
  | '_' => some '\u00a0'
  | 'L' => some '\u2028'
  | 'P' => some '\u2029'
  | _ => none

def digit? (char : Char) : Option Nat :=
  if '0' ≤ char ∧ char ≤ '9' then some (char.toNat - '0'.toNat)
  else if 'a' ≤ char ∧ char ≤ 'f' then some (char.toNat - 'a'.toNat + 10)
  else if 'A' ≤ char ∧ char ≤ 'F' then some (char.toNat - 'A'.toNat + 10)
  else none

def ofPlain? (char : Char) : Option Step :=
  if char = '"' then some .close
  else if char = '\\' then some (.goOn [] .escape)
  else if char = '\n' then some (.goOn [.lineBreak] .plain)
  else if char = '\r' then some (.goOn [.lineBreak] .afterReturn)
  else if isPrintable char then some (.goOn [.ofChar char] .plain)
  else none

def ofEscape? (char : Char) : Option Step :=
  if char = '\n' then some (.goOn [.joint] .plain)
  else if char = '\r' then some (.goOn [.joint] .afterReturn)
  else if char = 'x' then some (.goOn [] (.code 1 0))
  else if char = 'u' then some (.goOn [] (.code 3 0))
  else if char = 'U' then some (.goOn [] (.code 7 0))
  else (named? char).map fun named => .goOn [.content named] .plain

def ofDigit? (more number : Nat) (char : Char) : Option Step := do
  let number := 16 * number + (← digit? char)
  match more with
  | 0 =>
    if number.isValidChar then some (.goOn [.content (.ofNat number)] .plain)
    else none
  | more + 1 => some (.goOn [] (.code more number))

def of? : Mode → Char → Option Step
  | .plain, char => ofPlain? char
  | .afterReturn, char =>
    if char = '\n' then some (.goOn [] .plain) else ofPlain? char
  | .escape, char => ofEscape? char
  | .code more number, char => ofDigit? more number char

end Step

/-- The pieces up to the closing quote, and what comes after it. -/
def scan? : Mode → List Char → Option (List Piece × List Char)
  | _, [] => none
  | mode, char :: rest =>
    match Step.of? mode char with
    | none => none
    | some .close => some ([], rest)
    | some (.goOn pieces mode) =>
      (scan? mode rest).map fun (later, after) => (pieces ++ later, after)

theorem scan?_goOn {mode next : Mode} {char : Char} {pieces : List Piece}
    (step : Step.of? mode char = some (.goOn pieces next)) (rest : List Char) :
    scan? mode (char :: rest) =
      (scan? next rest).map fun (later, after) => (pieces ++ later, after) := by
  rw [scan?, step]

/-! ## Folding -/

/-- What stands between two pieces of content. -/
inductive Gap where
  | within (blanks : List Char)
  /-- The end of a line, be it folded or joined to the next one, and empty
  lines. -/
  | across (isFolded : Bool) (emptyLines : Nat)
deriving DecidableEq, Repr

namespace Gap

def text : Gap → List Char
  | .within blanks => blanks
  | .across isFolded 0 => if isFolded then [' '] else []
  | .across _ emptyLines => List.replicate emptyLines '\n'

/-- A gap that goes on with a blank; at the beginning of a line it is
dropped. -/
def addBlank (char : Char) : Gap → Gap
  | .within blanks => .within (blanks ++ [char])
  | gap => gap

/-- A gap that goes on with a line break; the blanks before it are dropped. -/
def addBreak : Gap → Gap
  | .within _ => .across true 0
  | .across isFolded emptyLines => .across isFolded (emptyLines + 1)

end Gap

/-- The value of some pieces that come after a gap. -/
def fold : Gap → List Piece → List Char
  | gap, [] => gap.text
  | gap, .blank char :: rest => fold (gap.addBlank char) rest
  | gap, .content char :: rest => gap.text ++ char :: fold (.within []) rest
  | gap, .lineBreak :: rest => fold gap.addBreak rest
  | gap, .joint :: rest => gap.text ++ fold (.across false 0) rest

/-! ## Scalars -/

structure Scalar where
  pieces : List Piece
deriving DecidableEq, Repr

namespace Scalar

def value (scalar : Scalar) : List Char :=
  fold (.within []) scalar.pieces

def isSingleLine (scalar : Scalar) : Bool :=
  scalar.pieces.all fun piece => !piece.endsLine

/-- The scalar that a text begins with, and what comes after it. -/
def read? : List Char → Option (Scalar × List Char)
  | '"' :: text =>
    (scan? .plain text).map fun (pieces, after) => (⟨pieces⟩, after)
  | _ => none

end Scalar

theorem fold_map_ofChar (blanks text : List Char) :
    fold (.within blanks) (text.map .ofChar) = blanks ++ text := by
  -- Blanks wait in the gap until some content comes, so the gap changes along
  -- the text.
  induction text generalizing blanks with
  | nil => simp [fold, Gap.text]
  | cons char text ih =>
      rw [List.map_cons, Piece.ofChar]
      split
      · simp [fold, Gap.addBlank, ih]
      · simp [fold, Gap.text, ih]

end ClusterConsole.Yaml
