import ClusterConsole.Number.Binary64
import ClusterConsole.Toml.Quotation
import ClusterConsole.Toml.Value

/-!
# Numerals, dates and times

Integers have 64 bits and a sign.  A float is the nearest double-precision
number, which must not be positive infinity unless it is written so.  Dates and
times are checked against the calendar and kept as text.
-/

namespace ClusterConsole.Toml

/-- The sign in front of a numeral; true for a minus. -/
def sign : List Char → Bool × List Char
  | '+' :: rest => (false, rest)
  | '-' :: rest => (true, rest)
  | chars => (false, chars)

/-- The digits of a decimal integer: a zero stands alone. -/
def integerDigits : Reader (List Char)
  | '0' :: rest => some (['0'], rest)
  | chars => someDigits Char.isDigit chars

/-- An integer with its sign, unless it needs more than 64 bits. -/
def boundedInteger? (negative : Bool) (magnitude : Nat) : Option Int :=
  if negative then
    (if magnitude ≤ Nat.pow 2 63 then some (-(magnitude : Int)) else none)
  else if magnitude < Nat.pow 2 63 then some (magnitude : Int) else none

/-- An integer in a base other than ten, after its mark. -/
def markedInteger (base : Nat) (isDigit : Char → Bool) :
    Reader Value := fun chars => do
  let (figures, rest) ← someDigits isDigit chars
  let number ← boundedInteger? false (numberOf base figures)
  return (.integer number, rest)

def integer : Reader Value
  | '0' :: 'x' :: rest => markedInteger 16 isHexDigit rest
  | '0' :: 'o' :: rest =>
    markedInteger 8 (fun char => '0' ≤ char && char ≤ '7') rest
  | '0' :: 'b' :: rest =>
    markedInteger 2 (fun char => char == '0' || char == '1') rest
  | chars => do
    let (negative, chars) := sign chars
    let (figures, rest) ← integerDigits chars
    let number ← boundedInteger? negative (numberOf 10 figures)
    return (.integer number, rest)

/-- The power of ten after a mark such as `e-3`. -/
def exponentPart : Reader Int := fun chars =>
  match chars with
  | mark :: rest =>
    if mark == 'e' || mark == 'E' then do
      let (negative, rest) := sign rest
      let (figures, rest) ← someDigits Char.isDigit rest
      let power : Int := (numberOf 10 figures : Int)
      return (if negative then -power else power, rest)
    else none
  | [] => none

/-- Whether a mark for a power of ten stands in front of a text. -/
def startsExponent : List Char → Bool
  | mark :: _ => mark == 'e' || mark == 'E'
  | [] => false

/-- The float that a decimal stands for, unless that is positive infinity. -/
def decimalFloat? (negative : Bool) (figures : List Char) (power : Int) :
    Option Value :=
  match Binary64.ofDecimal negative (numberOf 10 figures) power with
  | .infinite false => none
  | number => some (.float number)

/-- A float with a fraction or a power of ten.  `none` says that there is no
such float in front of the text, and `some none` that there is one, but a broken
one. -/
def decimalFloat (chars : List Char) : Option (Option (Value × List Char)) :=
  let (negative, unsigned) := sign chars
  match integerDigits unsigned with
  | none => none
  | some (whole, '.' :: rest) =>
    some do
      let (fraction, rest) ← someDigits Char.isDigit rest
      let (power, rest) ←
        if startsExponent rest then exponentPart rest
        else some ((0 : Int), rest)
      let number ← decimalFloat? negative (whole ++ fraction)
        (power - fraction.length)
      return (number, rest)
  | some (whole, rest) =>
    if startsExponent rest then
      some do
        let (power, rest) ← exponentPart rest
        let number ← decimalFloat? negative whole power
        return (number, rest)
    else none

/-- A float that is written as a word. -/
def wordFloat : Reader Value := fun chars =>
  let (negative, unsigned) := sign chars
  match afterWord? ['i', 'n', 'f'] unsigned with
  | some rest => some (.float (.infinite negative), rest)
  | none =>
    (afterWord? ['n', 'a', 'n'] unsigned).map fun rest => (.float .nan, rest)

/-- A number of two digits within bounds. -/
def boundedPair (low high : Nat) : Reader Nat := fun chars => do
  let (figures, rest) ← digits 2 chars
  let number := numberOf 10 figures
  if low ≤ number ∧ number ≤ high then return (number, rest) else none

def daysInMonth (year month : Nat) : Nat :=
  if month = 2 then
    if year % 4 = 0 ∧ (year % 100 ≠ 0 ∨ year % 400 = 0) then 29 else 28
  else if month = 4 ∨ month = 6 ∨ month = 9 ∨ month = 11 then 30
  else 31

/-- A number in at least `count` digits. -/
def padded (count number : Nat) : List Char :=
  let figures := Nat.toDigits 10 number
  List.replicate (count - figures.length) '0' ++ figures

/-- A date of the calendar, as text. -/
def date : Reader (List Char) := fun chars => do
  let (figures, rest) ← digits 4 chars
  let rest ← afterWord? ['-'] rest
  let (month, rest) ← boundedPair 1 12 rest
  let rest ← afterWord? ['-'] rest
  let (day, rest) ← boundedPair 1 31 rest
  if day ≤ daysInMonth (numberOf 10 figures) month then
    return (figures ++ '-' :: padded 2 month ++ '-' :: padded 2 day, rest)
  else none

/-- The fraction of a second, as text; digits beyond nanoseconds and zeros at
the end do not count. -/
def secondFraction : Reader (List Char)
  | '.' :: rest =>
    match rest.takeWhile Char.isDigit with
    | [] => none
    | figures =>
      let kept := ((figures.take 9).reverse.dropWhile (· == '0')).reverse
      some (if kept.isEmpty then [] else '.' :: kept,
        rest.dropWhile Char.isDigit)
  | chars => some ([], chars)

/-- A time of the day, as text. -/
def time : Reader (List Char) := fun chars => do
  let (hour, rest) ← boundedPair 0 23 chars
  let rest ← afterWord? [':'] rest
  let (minute, rest) ← boundedPair 0 59 rest
  let rest ← afterWord? [':'] rest
  let (second, rest) ← boundedPair 0 60 rest
  let (fraction, rest) ← secondFraction rest
  return (padded 2 hour ++ ':' :: padded 2 minute ++ ':' :: padded 2 second ++
    fraction, rest)

/-- The offset of a time zone, as text, if one stands in front of the text. -/
def offset : Reader (List Char) := fun chars =>
  match chars with
  | mark :: rest =>
    if mark == 'Z' || mark == 'z' then some (['Z'], rest)
    else if mark == '+' || mark == '-' then do
      let (hour, rest) ← boundedPair 0 23 rest
      let rest ← afterWord? [':'] rest
      let (minute, rest) ← boundedPair 0 59 rest
      let shown := if hour = 0 ∧ minute = 0 then '+' else mark
      return (shown :: padded 2 hour ++ ':' :: padded 2 minute, rest)
    else some ([], mark :: rest)
  | [] => some ([], [])

/-- Whether a date stands in front of a text: four digits and a hyphen. -/
def startsDate (chars : List Char) : Bool :=
  (chars.take 4).length == 4 && (chars.take 4).all Char.isDigit &&
    (chars.drop 4).head? == some '-'

/-- Whether a time stands in front of a text: two digits and a colon. -/
def startsTime (chars : List Char) : Bool :=
  (boundedPair 0 23 chars).any fun found => found.2.head? == some ':'

/-- The time and offset after a date. -/
def timeOfDate (dateText : List Char) (chars : List Char) :
    Option (Value × List Char) :=
  match chars with
  | mark :: rest =>
    if (mark == 'T' || mark == 't' || mark == ' ') && startsTime rest then do
      let (timeText, rest) ← time rest
      let (offsetText, rest) ← offset rest
      return (.moment
          (String.ofList (dateText ++ 'T' :: timeText ++ offsetText)), rest)
    else some (.moment (String.ofList dateText), chars)
  | [] => some (.moment (String.ofList dateText), chars)

/-- A number, a date or a time. -/
def numeral : Reader Value := fun chars =>
  if startsDate chars then do
    let (dateText, rest) ← date chars
    timeOfDate dateText rest
  else if startsTime chars then do
    let (timeText, rest) ← time chars
    return (.moment (String.ofList timeText), rest)
  else
    match decimalFloat chars with
    | some result => result
    | none => wordFloat chars <|> integer chars

end ClusterConsole.Toml
