/-!
# Double-precision numbers

A finite number is a whole multiple of a power of two.  A decimal stands for the
number nearest to it, and a number is written with the fewest digits that stand
for it again.  All of it is exact arithmetic on whole numbers.
-/

namespace ClusterConsole

/-- A double-precision number; a finite one is `significand * 2 ^ exponent`. -/
inductive Binary64 where
  | nan
  | infinite (negative : Bool)
  | finite (negative : Bool) (significand : Nat) (exponent : Int)
deriving DecidableEq, Repr

namespace Binary64

def minExponent : Int := -1074

def maxExponent : Int := 971

/-- A quotient as a whole number, where a half goes to the even neighbour. -/
def roundQuotient (numerator denominator : Nat) : Nat :=
  let quotient := numerator / denominator
  let twiceRest := 2 * (numerator % denominator)
  if twiceRest < denominator then quotient
  else if denominator < twiceRest then quotient + 1
  else if quotient % 2 = 0 then quotient else quotient + 1

/-- `number * 2 ^ power` as a numerator and a denominator. -/
def scale (numerator denominator : Nat) (power : Int) : Nat × Nat :=
  if 0 ≤ power then (numerator * Nat.pow 2 power.toNat, denominator)
  else (numerator, denominator * Nat.pow 2 (-power).toNat)

/-- The exponent at which a quotient has 53 binary digits, or the least one. -/
def exponentFor (numerator denominator : Nat) : Int :=
  let guess : Int :=
    (Nat.log2 numerator : Int) - (Nat.log2 denominator : Int) - 52
  let (top, bottom) := scale numerator denominator (-guess)
  let exact := if top / bottom < Nat.pow 2 52 then guess - 1 else guess
  max exact minExponent

def ofQuotient (negative : Bool) (numerator denominator : Nat) : Binary64 :=
  let exponent := exponentFor numerator denominator
  let (top, bottom) := scale numerator denominator (-exponent)
  let significand := roundQuotient top bottom
  let (significand, exponent) :=
    if significand = Nat.pow 2 53 then (Nat.pow 2 52, exponent + 1)
    else (significand, exponent)
  if maxExponent < exponent then .infinite negative
  else .finite negative significand exponent

/-- The number of decimal digits of a whole number. -/
def digitCount (number : Nat) : Nat :=
  (Nat.toDigits 10 number).length

/-- The number nearest to `digits * 10 ^ power`. -/
def ofDecimal (negative : Bool) (digits : Nat) (power : Int) : Binary64 :=
  if digits = 0 then .finite negative 0 minExponent
  else if 310 < (digitCount digits : Int) + power then .infinite negative
  else if (digitCount digits : Int) + power < -330 then
    .finite negative 0 minExponent
  else if 0 ≤ power then ofQuotient negative (digits * Nat.pow 10 power.toNat) 1
  else ofQuotient negative digits (Nat.pow 10 (-power).toNat)

/-- `significand * 2 ^ exponent / 10 ^ power` as a numerator and a
denominator. -/
def onGrid (significand : Nat) (exponent power : Int) : Nat × Nat :=
  let (top, bottom) := scale significand 1 exponent
  if 0 ≤ power then (top, bottom * Nat.pow 10 power.toNat)
  else (top * Nat.pow 10 (-power).toNat, bottom)

/-- The multiple of `10 ^ power` that stands for the number, if there is one; of
two, the nearer one. -/
def digitsOnGrid? (significand : Nat) (exponent power : Int) : Option Nat :=
  let (top, bottom) := onGrid significand exponent power
  let lower := top / bottom
  let readsBack (digits : Nat) : Bool :=
    ofDecimal false digits power == .finite false significand exponent
  match readsBack lower, readsBack (lower + 1) with
  | true, true => some (roundQuotient top bottom)
  | true, false => some lower
  | false, true => some (lower + 1)
  | false, false => none

/-- The power of ten of the first digit of a positive number. -/
def leadingPower (significand : Nat) (exponent : Int) : Int :=
  let (top, bottom) := scale significand 1 exponent
  if bottom ≤ top then (digitCount (top / bottom) : Int) - 1
  else
    let inverse := (bottom + top - 1) / top
    let count : Int := (digitCount inverse : Int)
    if inverse = Nat.pow 10 (count.toNat - 1) then 1 - count else -count

/-- Searches the grids from the coarsest one on, `tries` of them. -/
def searchGrids (significand : Nat) (exponent power : Int) : Nat → Nat × Int
  | 0 => (significand, exponent)
  | tries + 1 =>
    match digitsOnGrid? significand exponent power with
    | some digits => (digits, power)
    | none => searchGrids significand exponent (power - 1) tries

/-- The fewest digits that stand for a positive number, and their power of ten.
The first grid is coarser than the number, which may lie just below a power of
ten; no number needs more than seventeen digits. -/
def shortest (significand : Nat) (exponent : Int) : Nat × Int :=
  searchGrids significand exponent (leadingPower significand exponent + 1) 20

/-- `digits * 10 ^ power` in positional notation. -/
def positional (digits : Nat) (power : Int) : List Char :=
  let figures := Nat.toDigits 10 digits
  if 0 ≤ power then figures ++ List.replicate power.toNat '0' ++ ['.', '0']
  else
    let places := (-power).toNat
    let padded := List.replicate (places + 1 - figures.length) '0' ++ figures
    padded.take (padded.length - places) ++
      '.' :: padded.drop (padded.length - places)

/-- The text of a number: never an exponent, and always a digit after the
point. -/
def text : Binary64 → String
  | .nan => "NaN"
  | .infinite negative => if negative then "-inf" else "inf"
  | .finite negative significand exponent =>
    let (digits, power) :=
      if significand = 0 then (0, 0) else shortest significand exponent
    (if negative then "-" else "") ++ String.ofList (positional digits power)

end Binary64

end ClusterConsole
