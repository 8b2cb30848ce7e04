/-!
# Numbers at the start of a text

A number is read from the start of a text as far as it goes.  What follows it is
kept, so that each use can say what may follow.
-/

namespace ClusterConsole.Leading

def isSpace (char : Char) : Bool :=
  char ∈ [' ', '\t', '\n', '\r', '\x0b', '\x0c']

/-- The value of a digit, up to base sixteen; of any other character, too great
a value. -/
def digitValue (char : Char) : Nat :=
  if char.isDigit then char.toNat - '0'.toNat
  else if 'a' ≤ char && char ≤ 'f' then char.toNat - 'a'.toNat + 10
  else if 'A' ≤ char && char ≤ 'F' then char.toNat - 'A'.toNat + 10
  else 16

def isDigit (base : Nat) (char : Char) : Bool := digitValue char < base

def ofDigits (base : Nat) (digits : List Char) : Nat :=
  digits.foldl (fun value digit => base * value + digitValue digit) 0

/-- The number at the very start, and what follows it. -/
def natural? (base : Nat) (chars : List Char) : Option (Nat × List Char) :=
  let digits := chars.takeWhile (isDigit base)
  if digits.isEmpty then none
  else some (ofDigits base digits, chars.drop digits.length)

/-- The number at the very start in the base that it is written in: a leading
zero is for base eight, and with the letter x for base sixteen. -/
def based? (chars : List Char) : Option (Nat × List Char) :=
  match chars with
  | '0' :: letter :: digits =>
    match if letter = 'x' ∨ letter = 'X' then natural? 16 digits else none with
    | some found => some found
    | none => natural? 8 chars
  | '0' :: _ => natural? 8 chars
  | _ => natural? 10 chars

/-- The sign at the very start, and what follows it. -/
def sign (chars : List Char) : Bool × List Char :=
  match chars with
  | '-' :: rest => (true, rest)
  | '+' :: rest => (false, rest)
  | rest => (false, rest)

/-- The whole number at the start, of any base or of base ten, and what follows
it. -/
def integer? (isBased : Bool) (chars : List Char) : Option (Int × List Char) :=
  let (isNegative, rest) := sign (chars.dropWhile isSpace)
  (if isBased then based? rest else natural? 10 rest).map fun (value, rest) =>
    (if isNegative then -(value : Int) else value, rest)

/-- The least number that a machine word with a sign holds. -/
def least : Int := -Int.pow 2 63

/-- The greatest number that a machine word with a sign holds. -/
def greatest : Int := Int.pow 2 63 - 1

/-- Whether a machine word with a sign holds a number. -/
def isInRange (value : Int) : Bool := least ≤ value && value ≤ greatest

/-- The number that a whole text stands for; blanks may follow it. -/
def whole? (isBased : Bool) (chars : List Char) : Option Int :=
  match integer? isBased chars with
  | some (value, rest) =>
    if rest.all isSpace && isInRange value then some value else none
  | none => none

end ClusterConsole.Leading
