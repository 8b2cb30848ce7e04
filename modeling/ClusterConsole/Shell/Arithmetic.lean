import ClusterConsole.Number.Leading
import ClusterConsole.Shell.Command

/-!
# Arithmetic

An expression of whole numbers: names of variables stand for their values,
comparisons give one or zero, and division goes toward zero.  Numbers are kept
in machine words.
-/

namespace ClusterConsole.Shell

/-- A variable may get a new value inside an expression. -/
inductive Expression where
  | number (value : Int)
  | named (name : String)
  | negative (operand : Expression)
  | denial (operand : Expression)
  | complement (operand : Expression)
  | binary (operation : String) (left right : Expression)
  | and (left right : Expression)
  | or (left right : Expression)
  | conditional (test yes no : Expression)
  /-- A new value, which an operation may make of the old one. -/
  | assign (name : String) (operation? : Option String) (value : Expression)
deriving DecidableEq, Repr, Inhabited

namespace Expression

/-! ## Lexemes -/

/-- What an expression is made of. -/
inductive Lexeme where
  | number (value : Int)
  | name (text : String)
  | sign (text : String)
deriving DecidableEq, Repr

/-- The operations between two operands, those that bind least first. -/
def levels : List (List String) :=
  [["|"], ["^"], ["&"], ["==", "!="], ["<=", ">=", "<", ">"], ["<<", ">>"],
    ["+", "-"], ["*", "/", "%"]]

/-- The signs that keep a value, with what is done to the old one, if anything
is. -/
def keepers : List (String × Option String) :=
  [("<<=", some "<<"), (">>=", some ">>"), ("+=", some "+"), ("-=", some "-"),
    ("*=", some "*"), ("/=", some "/"), ("%=", some "%"), ("&=", some "&"),
    ("|=", some "|"), ("^=", some "^"), ("=", none)]

/-- The signs of an expression, longer ones first. -/
def signs : List String :=
  ["<<=", ">>=", "||", "&&", "==", "!=", "<=", ">=", "<<", ">>", "+=", "-=",
    "*=", "/=", "%=", "&=", "|=", "^=", "|", "^", "&", "<", ">", "+", "-", "*",
    "/", "%", "=", "!", "~", "(", ")", "?", ":"]

def lexemes : (fuel : Nat) → List Char → List Lexeme
  | 0, _ => []
  | _, [] => []
  | fuel + 1, char :: rest =>
    let chars := char :: rest
    if char = ' ' ∨ char = '\t' ∨ char = '\n' then lexemes fuel rest
    else if char.isDigit then
      match Leading.based? chars with
      | some (value, after) =>
        .number (min value Leading.greatest) :: lexemes fuel after
      | none => .sign (String.singleton char) :: lexemes fuel rest
    else if isNameChar char then
      .name (String.ofList (chars.takeWhile isNameChar)) ::
        lexemes fuel (chars.dropWhile isNameChar)
    else
      match signs.find? fun sign => sign.toList.isPrefixOf chars with
      | some sign => .sign sign :: lexemes fuel (chars.drop sign.length)
      | none => .sign (String.singleton char) :: lexemes fuel rest

/-! ## Reading -/

/-- Reads from the front of some lexemes, or tells what is missing. -/
abbrev LexemeReader := StateT (List Lexeme) (Except String)

mutual

def whole : (fuel : Nat) → LexemeReader Expression
  | 0 => throw "expecting primary"
  | fuel + 1 => do
    match ← get with
    | .name name :: .sign sign :: rest =>
      match keepers.lookup sign with
      | some operation? =>
        set rest
        return .assign name operation? (← whole fuel)
      | none => condition fuel
    | _ => condition fuel

/-- Reads a condition with its two results, or what can be a condition. -/
def condition : (fuel : Nat) → LexemeReader Expression
  | 0 => throw "expecting primary"
  | fuel + 1 => do
    let test ← either fuel
    match ← get with
    | .sign "?" :: rest =>
      set rest
      let yes ← whole fuel
      match ← get with
      | .sign ":" :: rest =>
        set rest
        return .conditional test yes (← condition fuel)
      | _ => throw "expecting ':'"
    | _ => return test

def either : (fuel : Nat) → LexemeReader Expression
  | 0 => throw "expecting primary"
  | fuel + 1 => do
    let left ← both fuel
    match ← get with
    | .sign "||" :: rest =>
      set rest
      return .or left (← either fuel)
    | _ => return left

def both : (fuel : Nat) → LexemeReader Expression
  | 0 => throw "expecting primary"
  | fuel + 1 => do
    let left ← level fuel levels
    match ← get with
    | .sign "&&" :: rest =>
      set rest
      return .and left (← both fuel)
    | _ => return left

/-- Reads an expression whose operations are of some levels. -/
def level : (fuel : Nat) → List (List String) → LexemeReader Expression
  | 0, _ => throw "expecting primary"
  | fuel + 1, [] => unary fuel
  | fuel + 1, operations :: inner => do
    levelAfter fuel operations inner (← level fuel inner)

/-- Reads the operations of one level that follow an operand. -/
def levelAfter :
    (fuel : Nat) → (operations : List String) → (inner : List (List String)) →
    Expression → LexemeReader Expression
  | 0, _, _, _ => throw "expecting primary"
  | fuel + 1, operations, inner, left => do
    match ← get with
    | .sign operation :: rest =>
      if operation ∈ operations then
        set rest
        let right ← level fuel inner
        levelAfter fuel operations inner (.binary operation left right)
      else return left
    | _ => return left

def unary : (fuel : Nat) → LexemeReader Expression
  | 0 => throw "expecting primary"
  | fuel + 1 => do
    match ← get with
    | .sign "-" :: rest => set rest; return .negative (← unary fuel)
    | .sign "+" :: rest => set rest; unary fuel
    | .sign "!" :: rest => set rest; return .denial (← unary fuel)
    | .sign "~" :: rest => set rest; return .complement (← unary fuel)
    | .sign "(" :: rest =>
      set rest
      let inside ← whole fuel
      match ← get with
      | .sign ")" :: rest => set rest; return inside
      | _ => throw "expecting ')'"
    | .number value :: rest => set rest; return .number value
    | .name name :: rest => set rest; return .named name
    | _ => throw "expecting primary"

end

/-- The expression that a text stands for, or what is missing there. -/
def ofText (text : List Char) : Except String Expression := do
  let found := lexemes (text.length + 1) text
  match ← (whole (16 * found.length + 32)).run found with
  | (expression, []) => return expression
  | _ => throw "expecting EOF"

/-! ## Values -/

/-- A condition as a number. -/
def truth (holds : Bool) : Int := if holds then 1 else 0

/-- A number as it is kept in a machine word. -/
def wrapped (value : Int) : Int := value.bmod (Nat.pow 2 64)

/-- An operation on the bits of two numbers. -/
def bitwise (operation : BitVec 64 → BitVec 64 → BitVec 64) (left right : Int) :
    Int :=
  (operation (.ofInt 64 left) (.ofInt 64 right)).toInt

/-- By how many bits a number is moved. -/
def distance (value : Int) : Nat := (value % 64).toNat

/-- The result of an operation, if it has one. -/
def resultOf? (operation : String) (left right : Int) : Option Int :=
  wrapped <$> match operation with
  | "+" => some (left + right)
  | "-" => some (left - right)
  | "*" => some (left * right)
  | "/" => if right = 0 then none else some (left.tdiv right)
  | "%" => if right = 0 then none else some (left.tmod right)
  | "==" => some (truth (left == right))
  | "!=" => some (truth (left != right))
  | "<" => some (truth (left < right))
  | ">" => some (truth (left > right))
  | "<=" => some (truth (left ≤ right))
  | ">=" => some (truth (left ≥ right))
  | "<<" => some (left * Int.pow 2 (distance right))
  | ">>" => some (left.fdiv (Int.pow 2 (distance right)))
  | "&" => some (bitwise (· &&& ·) left right)
  | "|" => some (bitwise (· ||| ·) left right)
  | "^" => some (bitwise (· ^^^ ·) left right)
  | _ => none

/-- The value of an expression, where variables are read and given values by
some means, and a division by zero is a fault. -/
def value [Monad m] (load : String → m Int) (store : String → Int → m Unit)
    (fault : String → m Int) : Expression → m Int
  | number value => return value
  | named name => load name
  | negative operand => do return wrapped (-(← operand.value load store fault))
  | denial operand => do return truth ((← operand.value load store fault) == 0)
  | complement operand => do return -(← operand.value load store fault) - 1
  | binary operation left right => do
    let left ← left.value load store fault
    let right ← right.value load store fault
    match resultOf? operation left right with
    | some result => return result
    | none => fault "division by zero"
  | and left right => do
    if (← left.value load store fault) = 0 then return 0
    else return truth ((← right.value load store fault) != 0)
  | or left right => do
    if (← left.value load store fault) ≠ 0 then return 1
    else return truth ((← right.value load store fault) != 0)
  | conditional test yes no => do
    if (← test.value load store fault) ≠ 0 then yes.value load store fault
    else no.value load store fault
  | assign name operation? operand => do
    let operand ← operand.value load store fault
    let result ←
      match operation? with
      | none => pure operand
      | some operation => do
        match resultOf? operation (← load name) operand with
        | some result => pure result
        | none => fault "division by zero"
    store name result
    return result

end Expression

end ClusterConsole.Shell
