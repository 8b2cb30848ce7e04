import ClusterConsole.Number.Notation

/-!
# Escapes and formats

An escape in a text stands for a byte.  A format says how arguments are printed,
and is used again while it takes arguments.  All texts here are raw.
-/

namespace ClusterConsole.Shell

namespace Format

/-! ## Escapes -/

def isOctal (char : Char) : Bool := '0' ≤ char && char ≤ '7'

/-- The byte of the octal digits at the start, three at most, and what follows
them. -/
def octalByte (chars : List Char) : Char × List Char :=
  let digits := (chars.take 3).takeWhile isOctal
  (Char.ofNat (Leading.ofDigits 8 digits % 256), chars.drop digits.length)

def letters : List (Char × Char) :=
  [('n', '\n'), ('t', '\t'), ('r', '\r'), ('a', '\x07'), ('b', '\x08'),
    ('e', '\x1b'), ('f', '\x0c'), ('v', '\x0b'), ('\\', '\\')]

/-- The byte of the escape after a backslash, and what follows it; a backslash
that begins no escape stands for itself. -/
def escape (chars : List Char) : Char × List Char :=
  match chars with
  | [] => ('\\', [])
  | char :: rest =>
    match letters.lookup char with
    | some byte => (byte, rest)
    | none => if isOctal char then octalByte chars else ('\\', chars)

/-- The byte of the escape after a backslash in a text, where octal digits may
follow a zero, and what follows it. -/
def textEscape (chars : List Char) : Char × List Char :=
  match chars with
  | '0' :: digit :: rest =>
    if isOctal digit then octalByte (digit :: rest) else escape chars
  | chars => escape chars

/-- A text with its escapes carried out, and whether one of them ended all
output. -/
def unescaped : (fuel : Nat) → List Char → List Char × Bool
  | 0, _ => ([], false)
  | _, [] => ([], false)
  | _, '\\' :: 'c' :: _ => ([], true)
  | fuel + 1, '\\' :: rest =>
    let (byte, rest) := textEscape rest
    let (more, isOver) := unescaped fuel rest
    (byte :: more, isOver)
  | fuel + 1, char :: rest =>
    let (more, isOver) := unescaped fuel rest
    (char :: more, isOver)

/-- A text with its escapes carried out, and whether one ended all output. -/
def ofText (text : String) : List Char × Bool :=
  unescaped (text.length + 1) text.toList

/-! ## Arguments -/

/-- What is wrong with an argument that is to be a number. -/
inductive Defect where
  | expected
  | unfinished
  | outOfRange
deriving DecidableEq, Repr

def Defect.message (argument : String) : Defect → String
  | expected => argument ++ ": expected numeric value"
  | unfinished => argument ++ ": not completely converted"
  | outOfRange => argument ++ ": Numerical result out of range"

/-- The defect of a number that was read from an argument, with what follows it
there. -/
def defect? (argument rest : List Char) (isOutOfRange : Bool) : Option Defect :=
  if rest.isEmpty then if isOutOfRange then some .outOfRange else none
  else if rest.length = argument.length then
    some .expected else some .unfinished

/-- The code of the character after a quote. -/
def quotedCode? : List Char → Option Nat
  | '\'' :: rest => some ((rest.head?.map Char.toNat).getD 0)
  | '"' :: rest => some ((rest.head?.map Char.toNat).getD 0)
  | _ => none

/-- The number that an argument stands for, within bounds. -/
def integerOf (low high : Int) (argument : String) : Int × Option Defect :=
  match quotedCode? argument.toList with
  | some code => (code, none)
  | none =>
    match Leading.integer? true argument.toList with
    | some (value, rest) =>
      let isOutOfRange := value < low || high < value
      (max low (min high value), defect? argument.toList rest isOutOfRange)
    | none => (0, defect? argument.toList argument.toList false)

/-- The bits of a machine word, of which an argument may be the negative. -/
def wordOf (argument : String) : Int × Option Defect :=
  let bound : Int := Int.pow 2 64 - 1
  match integerOf (-bound) bound argument with
  | (_, some .outOfRange) => (bound, some .outOfRange)
  | (value, defect?) => (value % Int.pow 2 64, defect?)

/-- Whether a number is too great or too small to be told. -/
def isExtreme (digits : List Char) : Binary64 → Bool
  | .infinite _ => digits.any Char.isDigit
  | .finite _ significand exponent =>
    exponent = Binary64.minExponent && significand < Nat.pow 2 52 &&
      (digits.takeWhile fun char => char.toLower ≠ 'e').any fun char =>
        '1' ≤ char && char ≤ '9'
  | .nan => false

/-- The double-precision number that an argument stands for. -/
def doubleOf (argument : String) : Binary64 × Option Defect :=
  match quotedCode? argument.toList with
  | some code => (.ofDecimal false code 0, none)
  | none =>
    match Binary64.leading? argument.toList with
    | some (value, rest) =>
      (value, defect? argument.toList rest (isExtreme argument.toList value))
    | none =>
      (.finite false 0 Binary64.minExponent,
        defect? argument.toList argument.toList false)

/-! ## Directives -/

/-- How an argument is set: its signs, its least width and its precision. -/
structure Layout where
  signs : List Char
  width : Nat
  precision? : Option Nat
deriving DecidableEq, Repr

namespace Layout

def has (layout : Layout) (sign : Char) : Bool := layout.signs.contains sign

def fill (layout : Layout) (chars : List Char) : List Char :=
  let blanks := List.replicate (layout.width - chars.length) ' '
  if layout.has '-' then chars ++ blanks else blanks ++ chars

/-- Digits with what is in front of them, filled up to the width. -/
def number (layout : Layout) (isZeroFilled : Bool) (front digits : List Char) :
    List Char :=
  let zeros :=
    if isZeroFilled && layout.has '0' && !layout.has '-' then
      layout.width - front.length - digits.length
    else 0
  layout.fill (front ++ List.replicate zeros '0' ++ digits)

/-- The digits of a whole number, as many as the precision asks for. -/
def digits (layout : Layout) (base value : Nat) : List Char :=
  let digits :=
    if value = 0 && layout.precision? = some 0 then []
    else Nat.toDigits base value
  List.replicate (layout.precision?.getD 1 - digits.length) '0' ++ digits

/-- The sign in front of a number. -/
def signOf (layout : Layout) (isNegative : Bool) : List Char :=
  if isNegative then ['-']
  else if layout.has '+' then ['+']
  else if layout.has ' ' then [' ']
  else []

/-- A whole number without a sign, by the letter of its directive. -/
def word (layout : Layout) (kind : Char) (value : Nat) : List Char :=
  let isZeroFilled := layout.precision?.isNone
  match kind with
  | 'o' =>
    let digits := layout.digits 8 value
    let digits :=
      if layout.has '#' && digits.head? ≠ some '0' then '0' :: digits
      else digits
    layout.number isZeroFilled [] digits
  | 'x' =>
    let front := if layout.has '#' && value ≠ 0 then ['0', 'x'] else []
    layout.number isZeroFilled front (layout.digits 16 value)
  | 'X' =>
    let front := if layout.has '#' && value ≠ 0 then ['0', 'X'] else []
    layout.number isZeroFilled front ((layout.digits 16 value).map Char.toUpper)
  | _ => layout.number isZeroFilled [] (layout.digits 10 value)

/-- A double-precision number without its sign, by the letter of its
directive. -/
def magnitude (layout : Layout) (kind : Char) (significand : Nat)
    (exponent : Int) :
    List Char :=
  let isAlternate := layout.has '#'
  let places := layout.precision?.getD 6
  match kind with
  | 'a' =>
    Binary64.hexadecimal isAlternate layout.precision? significand exponent
  | 'e' => Binary64.scientific isAlternate places significand exponent
  | 'f' => Binary64.fixed isAlternate places significand exponent
  | _ => Binary64.general isAlternate places significand exponent

/-- A double-precision number, by the letter of its directive. -/
def double (layout : Layout) (kind : Char) (value : Binary64) : List Char :=
  let text := match value with
    | .nan => layout.number false (layout.signOf false) ['n', 'a', 'n']
    | .infinite isNegative =>
      layout.number false (layout.signOf isNegative) ['i', 'n', 'f']
    | .finite isNegative significand exponent =>
      let digits := layout.magnitude kind.toLower significand exponent
      match digits with
      | '0' :: 'x' :: digits =>
        layout.number true (layout.signOf isNegative ++ ['0', 'x']) digits
      | digits => layout.number true (layout.signOf isNegative) digits
  if kind.isUpper then text.map Char.toUpper else text

end Layout

/-! ## Formats -/

/-- What a format has given so far. -/
structure Progress where
  output : Array Char
  arguments : List String
  /-- What is said about arguments, the last one first. -/
  complaints : List String
  /-- What is wrong with the format itself. -/
  fault? : Option String
  isOver : Bool
deriving DecidableEq, Repr

namespace Progress

def add (progress : Progress) (chars : List Char) : Progress :=
  { progress with output := chars.foldl Array.push progress.output }

/-- Takes the next argument, which is empty if there is none. -/
def next (progress : Progress) : String × Progress :=
  (progress.arguments.head?.getD "",
    { progress with arguments := progress.arguments.drop 1 })

/-- Takes the next argument as a number that is read in some way. -/
def nextNumber (progress : Progress) (read : String → α × Option Defect) :
    α × Progress :=
  let (argument, progress) := progress.next
  let (value, defect?) := read argument
  match defect? with
  | some defect =>
    let complaints := defect.message argument :: progress.complaints
    (value, { progress with complaints })
  | none => (value, progress)

/-- Ends all output for a fault of the format. -/
def fail (progress : Progress) (fault : String) : Progress :=
  { progress with fault? := some fault, isOver := true }

/-- Prints the next argument by the letter of a directive. -/
def print (progress : Progress) (layout : Layout) (kind : Char) : Progress :=
  match kind with
  | 's' =>
    let (argument, progress) := progress.next
    let chars := argument.toList
    progress.add
      (layout.fill (chars.take (layout.precision?.getD chars.length)))
  | 'b' =>
    let (argument, progress) := progress.next
    let (chars, isOver) := ofText argument
    { progress.add (layout.fill
          (chars.take (layout.precision?.getD chars.length))) with isOver }
  | 'c' =>
    let (argument, progress) := progress.next
    progress.add (layout.fill [argument.toList.headD '\x00'])
  | _ =>
    if kind ∈ ['d', 'i'] then
      let (value, progress) :=
        progress.nextNumber (integerOf Leading.least Leading.greatest)
      progress.add (layout.number layout.precision?.isNone
          (layout.signOf (value < 0))
        (layout.digits 10 value.natAbs))
    else if kind ∈ ['o', 'u', 'x', 'X'] then
      let (value, progress) := progress.nextNumber wordOf
      progress.add (layout.word kind value.toNat)
    else
      let (value, progress) := progress.nextNumber doubleOf
      progress.add (layout.double kind value)

end Progress

def kinds : List Char :=
  ['a', 'A', 'b', 'c', 'd', 'e', 'E', 'f', 'F', 'g', 'G', 'i', 'o', 's', 'u',
    'x', 'X']

/-- The size at the start of a text, which a star takes from the arguments, and
what follows it. -/
def size (chars : List Char) (progress : Progress) :
    Int × List Char × Progress :=
  match chars with
  | '*' :: rest =>
    let (value, progress) :=
      progress.nextNumber (integerOf (-Int.pow 2 31) (Int.pow 2 31 - 1))
    (value, rest, progress)
  | chars =>
    let digits := chars.takeWhile Char.isDigit
    (Leading.ofDigits 10 digits, chars.drop digits.length, progress)

/-- The layout after a percent sign, and what follows it. -/
def layout (chars : List Char) (progress : Progress) :
    Layout × List Char × Progress :=
  let signs := chars.takeWhile (['#', '-', '+', ' ', '0'].contains ·)
  let (width, rest, progress) := size (chars.drop signs.length) progress
  let signs := if width < 0 then '-' :: signs else signs
  match rest with
  | '.' :: rest =>
    let (precision, rest, progress) := size rest progress
    (⟨signs, width.natAbs,
        if precision < 0 then none else some precision.toNat⟩, rest,
      progress)
  | rest => (⟨signs, width.natAbs, none⟩, rest, progress)

/-- Uses a format once. -/
def once : (fuel : Nat) → (format : List Char) → Progress → Progress
  | 0, _, progress => progress
  | _, [], progress => progress
  | fuel + 1, '\\' :: rest, progress =>
    let (byte, rest) := escape rest
    once fuel rest (progress.add [byte])
  | fuel + 1, '%' :: '%' :: rest, progress =>
    once fuel rest (progress.add ['%'])
  | fuel + 1, '%' :: rest, progress =>
    let (layout, after, progress) := layout rest progress
    match after with
    | [] => progress.fail "missing format character"
    | kind :: after =>
      if kind ∈ kinds then
        let progress := progress.print layout kind
        if progress.isOver then progress else once fuel after progress
      else
        let directive := '%' :: rest.take (rest.length - after.length)
        progress.fail (String.ofList directive ++ ": invalid directive")
  | fuel + 1, char :: rest, progress => once fuel rest (progress.add [char])

/-- Uses a format as often as it takes arguments. -/
def again (format : List Char) : (rounds : Nat) → Progress → Progress
  | 0, progress => progress
  | rounds + 1, progress =>
    let next := once (format.length + 1) format progress
    if next.isOver || next.arguments.isEmpty ||
        next.arguments.length == progress.arguments.length then next
    else again format rounds next

def apply (format : String) (arguments : List String) : Progress :=
  again format.toList (arguments.length + 1) ⟨#[], arguments, [], none, false⟩

end Format

end ClusterConsole.Shell
