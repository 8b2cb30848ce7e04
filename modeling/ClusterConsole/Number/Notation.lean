import ClusterConsole.Number.Binary64
import ClusterConsole.Number.Leading

/-!
# Notations of double-precision numbers

A number is written with a number of places, exactly rounded, where a half goes
to the even neighbour: positionally, with an exponent, in the shorter of the
two, or in base sixteen.  The sign is left to whoever writes it.
-/

namespace ClusterConsole.Binary64

/-! ## Reading -/

/-- The exponent at the start, after a certain letter, and what follows it. -/
def leadingExponent (letter : Char) (chars : List Char) : Int × List Char :=
  match chars with
  | first :: rest =>
    let (isNegative, digits) := Leading.sign rest
    match if first.toLower = letter then Leading.natural? 10 digits
      else none with
    | some (value, after) =>
      (if isNegative then -(value : Int) else value, after)
    | none => (0, chars)
  | [] => (0, [])

/-- The digits at the start, before and after a point, and what follows them. -/
def leadingDigits (base : Nat) (chars : List Char) :
    List Char × List Char × List Char :=
  let whole := chars.takeWhile (Leading.isDigit base)
  match chars.drop whole.length with
  | '.' :: rest =>
    let fraction := rest.takeWhile (Leading.isDigit base)
    if whole.isEmpty && fraction.isEmpty then ([], [], chars)
    else (whole, fraction, rest.drop fraction.length)
  | rest => (whole, [], rest)

/-- The number at the start in base ten, and what follows it. -/
def leadingDecimal? (isNegative : Bool) (chars : List Char) :
    Option (Binary64 × List Char) :=
  let (whole, fraction, rest) := leadingDigits 10 chars
  if whole.isEmpty && fraction.isEmpty then none
  else
    let (exponent, rest) := leadingExponent 'e' rest
    some (ofDecimal isNegative (Leading.ofDigits 10 (whole ++ fraction))
      (exponent - fraction.length), rest)

/-- `significand * 2 ^ power`, rounded. -/
def ofBinary (isNegative : Bool) (significand : Nat) (power : Int) : Binary64 :=
  if significand = 0 then .finite isNegative 0 minExponent
  else if 2000 < (Nat.log2 significand : Int) + power then .infinite isNegative
  else if (Nat.log2 significand : Int) + power < -2000 then
    .finite isNegative 0 minExponent
  else
    let (top, bottom) := scale significand 1 power
    ofQuotient isNegative top bottom

/-- The number at the start in base sixteen, and what follows it. -/
def leadingHexadecimal? (isNegative : Bool) (chars : List Char) :
    Option (Binary64 × List Char) :=
  let (whole, fraction, rest) := leadingDigits 16 chars
  if whole.isEmpty && fraction.isEmpty then none
  else
    let (exponent, rest) := leadingExponent 'p' rest
    some (ofBinary isNegative (Leading.ofDigits 16 (whole ++ fraction))
      (exponent - 4 * fraction.length), rest)

/-- What follows a word at the start, whatever case it is written in. -/
def afterWord? (word : String) (chars : List Char) : Option (List Char) :=
  let count := word.length
  if (chars.take count).map Char.toLower = word.toList then
    some (chars.drop count)
  else none

/-- The number at the start of a text, and what follows it. -/
def leading? (chars : List Char) : Option (Binary64 × List Char) :=
  let (isNegative, rest) := Leading.sign (chars.dropWhile Leading.isSpace)
  match afterWord? "infinity" rest, afterWord? "inf" rest,
    afterWord? "nan" rest with
  | some after, _, _ => some (.infinite isNegative, after)
  | none, some after, _ => some (.infinite isNegative, after)
  | none, none, some after => some (.nan, after)
  | none, none, none =>
    match (afterWord? "0x" rest).bind (leadingHexadecimal? isNegative) with
    | some found => some found
    | none => leadingDecimal? isNegative rest

/-! ## Writing -/

/-- Digits with a point before the last ones. -/
def withPoint (isAlternate : Bool) (places : Nat) (digits : List Char) :
    List Char :=
  let padded := List.replicate (places + 1 - digits.length) '0' ++ digits
  let whole := padded.take (padded.length - places)
  if places = 0 then if isAlternate then whole ++ ['.'] else whole
  else whole ++ '.' :: padded.drop (padded.length - places)

def fixed (isAlternate : Bool) (places significand : Nat) (exponent : Int) :
    List Char :=
  let (top, bottom) := onGrid significand exponent (-places)
  withPoint isAlternate places (Nat.toDigits 10 (roundQuotient top bottom))

/-- The digits of a number, one before the point and others after it, and the
power of ten of the first one. -/
def scientificDigits (places significand : Nat) (exponent : Int) : Nat × Int :=
  if significand = 0 then (0, 0)
  else
    let power := leadingPower significand exponent
    let (top, bottom) := onGrid significand exponent (power - places)
    let digits := roundQuotient top bottom
    if Nat.pow 10 (places + 1) ≤ digits then (digits / 10, power + 1)
    else (digits, power)

/-- An exponent with its sign and two digits at least. -/
def exponentText (power : Int) : List Char :=
  let digits := Nat.toDigits 10 power.natAbs
  (if power < 0 then '-' else '+') ::
    List.replicate (2 - digits.length) '0' ++ digits

def withExponent (isAlternate : Bool) (places digits : Nat) (power : Int) :
    List Char :=
  withPoint isAlternate places (Nat.toDigits 10 digits) ++
    'e' :: exponentText power

def scientific (isAlternate : Bool)
    (places significand : Nat) (exponent : Int) : List Char :=
  let (digits, power) := scientificDigits places significand exponent
  withExponent isAlternate places digits power

/-- Digits without the zeros at the end of a fraction. -/
def trimmed (digits : List Char) : List Char :=
  if '.' ∈ digits then
    ((digits.reverse.dropWhile (· = '0')).dropWhile (· = '.')).reverse
  else digits

/-- A number with so many digits, positionally unless its first digit is far
from the point. -/
def general (isAlternate : Bool)
    (precision significand : Nat) (exponent : Int) : List Char :=
  let precision := max precision 1
  let (digits, power) := scientificDigits (precision - 1) significand exponent
  let keep (text : List Char) : List Char :=
    if isAlternate then text else trimmed text
  if power < -4 ∨ (precision : Int) ≤ power then
    let text := withPoint isAlternate (precision - 1) (Nat.toDigits 10 digits)
    keep text ++ 'e' :: exponentText power
  else
    keep (fixed isAlternate (precision - 1 - power).toNat significand exponent)

/-- The binary places after the point of a number that is written in base
sixteen. -/
def binaryPlaces : Nat := 52

/-- A number in base sixteen with a power of two. -/
def hexadecimal (isAlternate : Bool) (places? : Option Nat) (significand : Nat)
    (exponent : Int) : List Char :=
  let power := exponent + binaryPlaces
  let shift := binaryPlaces - Nat.log2 significand
  let (significand, power) :=
    if significand = 0 then (0, 0)
    else if exponent = minExponent then (significand, power)
    else (significand * Nat.pow 2 shift, power - shift)
  let places := places?.getD (binaryPlaces / 4)
  let digits :=
    if places < binaryPlaces / 4 then
      roundQuotient significand (Nat.pow 2 (binaryPlaces - 4 * places))
    else significand * Nat.pow 16 (places - binaryPlaces / 4)
  let text := withPoint isAlternate places (Nat.toDigits 16 digits)
  let text := if places?.isNone && !isAlternate then trimmed text else text
  let sign := if power < 0 then '-' else '+'
  '0' :: 'x' :: text ++ 'p' :: sign :: Nat.toDigits 10 power.natAbs

end ClusterConsole.Binary64
