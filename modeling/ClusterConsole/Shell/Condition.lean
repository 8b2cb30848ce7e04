import ClusterConsole.Files.Tree
import ClusterConsole.Number.Leading
import ClusterConsole.Text.Raw

/-!
# Conditions

A condition about texts, numbers and files.  What a word means is told by the
words after it, so that any text can be an operand.  All texts here are raw.
-/

namespace ClusterConsole.Shell

namespace Condition

/-- What a word can be in a condition. -/
inductive Sign where
  | operand
  | missing
  /-- An operation on the word after it. -/
  | unary (sign : String)
  /-- An operation between two words. -/
  | binary (sign : String)
  | negation
  | and
  | or
  | opening
  | closing
deriving DecidableEq, Repr

def unarySigns : List String :=
  ["-b", "-c", "-d", "-e", "-f", "-g", "-h", "-k", "-n", "-p", "-r", "-s", "-t",
    "-u", "-w", "-x", "-z", "-G", "-L", "-O", "-S"]

/-- The operations between two operands. -/
def binarySigns : List String :=
  ["=", "!=", "<", ">", "-eq", "-ne", "-ge", "-gt", "-le", "-lt", "-nt",
    "-ot", "-ef"]

def signOf (word : String) : Sign :=
  if word ∈ unarySigns then .unary word
  else if word ∈ binarySigns then .binary word
  else
    match word with
    | "!" => .negation
    | "-a" => .and
    | "-o" => .or
    | "(" => .opening
    | ")" => .closing
    | _ => .operand

/-- Whether a word is an operation between two operands. -/
def isBinary (word : String) : Bool := word ∈ binarySigns

/-- Whether the sign at the front of some words is an operand after all. -/
def isOperand : List String → Bool
  | [_] => true
  | [_, _] => false
  | _ :: next :: _ => isBinary next
  | [] => true

/-- What the first of some words is. -/
def front (words : List String) : Sign :=
  match words with
  | [] => .missing
  | word :: rest =>
    match signOf word with
    | .unary sign => if isOperand words then .operand else .unary sign
    | .opening => if rest.isEmpty then .operand else .opening
    | sign => sign

/-! ## Operations -/

/-- Whether what a path leads to has one of some bits in its mode. -/
def hasMode (files : FileTree) (path : Path) (bits : Nat) : Bool :=
  match files.lookup path with
  | .ok (.file _ mode) => mode &&& bits ≠ 0
  | _ => false

def isDevice (files : FileTree) (path : Path) : Bool :=
  match files.lookup path with
  | .ok .device => true
  | _ => false

def number (operand : String) : Except String Int :=
  match Leading.whole? false operand.toList with
  | some value => .ok value
  | none => .error ("Illegal number: " ++ operand)

def unary (files : FileTree) (sign operand : String) : Except String Bool :=
  let path : Path := ⟨Raw.toText operand⟩
  let isThere := (files.lookup path).isOk
  match sign with
  | "-n" => .ok (operand ≠ "")
  | "-z" => .ok (operand = "")
  | "-e" => .ok isThere
  | "-f" => .ok (files.isFile path)
  | "-d" => .ok (files.isDirectory path)
  | "-c" => .ok (isDevice files path)
  | "-s" =>
    .ok (files.isDirectory path ||
      (files.read path).toOption.any fun contents =>
      contents.size ≠ 0)
  | "-r" => .ok isThere
  | "-w" => .ok isThere
  | "-O" => .ok isThere
  | "-G" => .ok isThere
  | "-x" => .ok (files.isDirectory path || files.isProgram path)
  | "-u" => .ok (hasMode files path 0o4000)
  | "-g" => .ok (hasMode files path 0o2000)
  | "-k" => .ok (hasMode files path 0o1000)
  | "-t" => do
    let _ ← number operand
    return false
  | _ => .ok false

/-- Whether two paths lead to the same place. -/
def isSame (files : FileTree) (left right : String) : Bool :=
  match files.locate ⟨Raw.toText left⟩, files.locate ⟨Raw.toText right⟩ with
  | .ok left, .ok right => left = right && (files.node? left).isSome
  | _, _ => false

/-- Whether a condition about two operands holds. -/
def binary (files : FileTree) (left sign right : String) : Except String Bool :=
  let compared (test : Int → Int → Bool) : Except String Bool := do
    return test (← number left) (← number right)
  match sign with
  | "=" => .ok (left = right)
  | "!=" => .ok (left ≠ right)
  | "<" => .ok (left < right)
  | ">" => .ok (right < left)
  | "-eq" => compared (· == ·)
  | "-ne" => compared (· != ·)
  | "-ge" => compared (· ≥ ·)
  | "-gt" => compared (· > ·)
  | "-le" => compared (· ≤ ·)
  | "-lt" => compared (· < ·)
  | "-ef" => .ok (isSame files left right)
  | _ => .ok false

/-! ## Words -/

/-- Reads the words of a condition; at last the first word left is the last one
read. -/
abbrev WordReader := StateT (List String) (Except String)

/-- Goes on to the next word, and tells what it is. -/
def advance : WordReader Sign := do
  modify (List.drop 1)
  return front (← get)

def current : WordReader String := do
  return (← get).headD ""

/-- What the word after the one that is read is. -/
def following : WordReader Sign := do
  return front ((← get).drop 1)

mutual

def either (files : FileTree) : (fuel : Nat) → Sign → WordReader Bool
  | 0, _ => return false
  | fuel + 1, sign => do
    let first ← both files fuel sign
    if (← following) = .or then
      modify (List.drop 1)
      let rest ← either files fuel (← advance)
      return first || rest
    else return first

def both (files : FileTree) : (fuel : Nat) → Sign → WordReader Bool
  | 0, _ => return false
  | fuel + 1, sign => do
    let first ← negatable files fuel sign
    if (← following) = .and then
      modify (List.drop 1)
      let rest ← both files fuel (← advance)
      return first && rest
    else return first

def negatable (files : FileTree) : (fuel : Nat) → Sign → WordReader Bool
  | 0, _ => return false
  | fuel + 1, .negation => do
    let sign ← following
    if sign ≠ .missing then modify (List.drop 1)
    return !(← negatable files fuel sign)
  | fuel + 1, sign => single files fuel sign

/-- Reads a condition without signs around it. -/
def single (files : FileTree) : (fuel : Nat) → Sign → WordReader Bool
  | 0, _ => return false
  | _, .missing => return false
  | fuel + 1, .opening => do
    let sign ← advance
    if sign = .closing then return false
    else
      let inside ← either files fuel sign
      if (← advance) = .closing then return inside
      else throw "closing paren expected"
  | _, .unary sign => do
    modify (List.drop 1)
    match (← get).head? with
    | none => throw (sign ++ ": argument expected")
    | some operand => unary files sign operand
  | _, _ => do
    match ← following with
    | .binary sign =>
      let left ← current
      modify (List.drop 2)
      match (← get).head? with
      | none => throw (sign ++ ": argument expected")
      | some right => binary files left sign right
    | _ => return (← current) ≠ ""

end

def evaluate (files : FileTree) (sign : Sign) (words : List String) :
    Except String Bool := do
  match ← (either files (8 * words.length + 16) sign).run words with
  | (_, word :: _ :: _) =>
    throw (if word = "" then "unexpected operator"
        else word ++ ": unexpected operator")
  | (holds, _) => return holds

/-- Whether a condition holds, or does not if it is negated.  The number of
words tells what they are if it is three or four; one more sign of negation in
front then changes nothing. -/
def holds (files : FileTree) (isNegated : Bool) :
    List String → Except String Bool
  | [] => .ok false
  | first :: rest =>
    let words := first :: rest
    let isShort := words.length = 3 || words.length = 4
    let result (sign : Sign) (words : List String) : Except String Bool := do
      return (← evaluate files sign words) != isNegated
    if words.length = 3 && isBinary (rest.headD "") then result .operand words
    else if isShort && first = "(" && words.getLast? = some ")" then
      result (front rest.dropLast) rest.dropLast
    else if isShort && first = "!" then holds files true rest
    else result (front words) words

end Condition

end ClusterConsole.Shell
