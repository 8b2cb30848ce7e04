/-!
# Patterns

In a pattern a star stands for any text, a question mark for any character, and
brackets for one of the characters in them.  A quoted character, or one after a
backslash, stands for itself.
-/

namespace ClusterConsole.Shell

/-- A character, and whether it was quoted. -/
abbrev Marked := Char × Bool

/-- The characters that fit a place between brackets. -/
inductive CharRange where
  | between (first last : Char)
  | named (name : String)
deriving DecidableEq, Repr

/-- An item of a pattern. -/
inductive PatternItem where
  | exactly (char : Char)
  | anyChar
  | anyText
  /-- A character in one of some ranges, or in none of them. -/
  | oneOf (isNegated : Bool) (ranges : List CharRange)
deriving DecidableEq, Repr

abbrev Pattern := List PatternItem

namespace CharRange

/-- Whether a character is a mark that can be seen. -/
def isGraphic (char : Char) : Bool := '!' ≤ char && char ≤ '~'

def isSpace (char : Char) : Bool :=
  char ∈ [' ', '\t', '\n', '\r', '\x0b', '\x0c']

def sets : List (String × (Char → Bool)) :=
  [("alnum", Char.isAlphanum), ("alpha", Char.isAlpha),
    ("blank", fun char => char = ' ' || char = '\t'),
    ("cntrl", fun char => char < ' ' || char = '\x7f'), ("digit", Char.isDigit),
    ("graph", isGraphic), ("lower", Char.isLower),
    ("print", fun char => char = ' ' || isGraphic char),
    ("punct", fun char => isGraphic char && !char.isAlphanum),
    ("space", isSpace),
    ("upper", Char.isUpper),
    ("xdigit", fun char => char.isDigit ||
      ('a' ≤ char.toLower && char.toLower ≤ 'f'))]

/-- The number of a byte with a sign, by which ranges are told. -/
def signed (char : Char) : Int :=
  if char.toNat < 128 then char.toNat else char.toNat - 256

def contains (char : Char) : CharRange → Bool
  | between first last =>
    signed first ≤ signed char && signed char ≤ signed last
  | named name => ((sets.lookup name).map fun test => test char).getD false

end CharRange

namespace PatternItem

/-- Whether a character fits an item that stands for one. -/
def fits (char : Char) : PatternItem → Bool
  | .exactly other => char = other
  | .anyChar => true
  | .anyText => false
  | .oneOf isNegated ranges => (ranges.any (·.contains char)) != isNegated

end PatternItem

namespace Pattern

/-- Characters with a backslash in front of those that were quoted. -/
def written (chars : List Marked) : List Char :=
  chars.flatMap fun (char, isQuoted) => if isQuoted then
    ['\\', char] else [char]

/-- The named set at the front of a text that follows a bracket, and what
follows it. -/
def namedSet? : List Char → Option (CharRange × List Char)
  | ':' :: rest =>
    let name := String.ofList (rest.takeWhile Char.isLower)
    match rest.drop name.length with
    | ':' :: ']' :: after =>
      if (CharRange.sets.lookup name).isSome then some (.named name, after)
      else none
    | _ => none
  | _ => none

/-- The ranges up to a closing bracket, which cannot be the first character, and
what follows it. -/
def ranges? (isFirst : Bool) :
    (fuel : Nat) → List Char → Option (List CharRange × List Char)
  | 0, _ => none
  | _, [] => none
  | fuel + 1, char :: rest =>
    if char = ']' && !isFirst then some ([], rest)
    else
      match if char = '[' then namedSet? rest else none with
      | some (range, rest) =>
        (ranges? false fuel rest).map fun (more, rest) => (range :: more, rest)
      | none =>
        let (first, rest) := plainChar char rest
        match rest with
        | '-' :: last :: rest =>
          if last = ']' then
            (ranges? false fuel ('-' :: last :: rest)).map fun (more, rest) =>
              (.between first first :: more, rest)
          else
            let (last, rest) := plainChar last rest
            (ranges? false fuel rest).map fun (more, rest) =>
              (.between first last :: more, rest)
        | rest =>
          (ranges? false fuel rest).map fun (more, rest) =>
            (.between first first :: more, rest)
where
  /-- A character, or the one after a backslash, and what follows it. -/
  plainChar (char : Char) (rest : List Char) : Char × List Char :=
    match char, rest with
    | '\\', next :: rest => (next, rest)
    | char, rest => (char, rest)

/-- The item for the characters after a bracket, and what follows it. -/
def bracketItem? (chars : List Char) : Option (PatternItem × List Char) :=
  match chars with
  | '!' :: rest =>
    (ranges? true (rest.length + 1) rest).map fun (ranges, rest) =>
      (.oneOf true ranges, rest)
  | rest =>
    (ranges? true (rest.length + 1) rest).map fun (ranges, rest) =>
      (.oneOf false ranges, rest)

def ofChars : (fuel : Nat) → List Char → Pattern
  | 0, _ => []
  | _, [] => []
  | fuel + 1, '*' :: rest => .anyText :: ofChars fuel rest
  | fuel + 1, '?' :: rest => .anyChar :: ofChars fuel rest
  | fuel + 1, '[' :: rest =>
    match bracketItem? rest with
    | some (item, rest) => item :: ofChars fuel rest
    | none => .exactly '[' :: ofChars fuel rest
  | fuel + 1, '\\' :: char :: rest => .exactly char :: ofChars fuel rest
  | fuel + 1, char :: rest => .exactly char :: ofChars fuel rest

def ofMarked (chars : List Marked) : Pattern :=
  let written := written chars
  ofChars (written.length + 1) written

/-- Whether a text that is not the pattern itself can fit it. -/
def isOpen (pattern : Pattern) : Bool :=
  pattern.any fun item =>
    match item with
    | .exactly _ => false
    | _ => true

/-- The one text that a pattern without open items stands for. -/
def text (pattern : Pattern) : List Char :=
  pattern.filterMap fun item =>
    match item with
    | .exactly char => some char
    | _ => none

/-- A text and all texts that are left of it from the front, the longest one
first. -/
def suffixes (text : List Char) : List (List Char) :=
  (text.foldl (fun (rest, found) _ => (rest.drop 1, rest.drop 1 :: found))
    (text, [text])).2.reverse

/-- What may be left of texts after an item, the longest text first. -/
def afterItem (rests : List (List Char)) : PatternItem → List (List Char)
  | .anyText => (rests.head?.map suffixes).getD []
  | item => rests.filterMap fun rest =>
    match rest with
    | [] => none
    | char :: rest => if item.fits char then some rest else none

/-- What may be left of a text after a part of it that fits, the longest rest
first. -/
def rests (pattern : Pattern) (text : List Char) : List (List Char) :=
  pattern.foldl afterItem [text]

def fits (pattern : Pattern) (text : List Char) : Bool :=
  (pattern.rests text).any List.isEmpty

/-- What is left of a value when a part at one end that fits is cut off. -/
def cut (isAtStart isLongest : Bool) (pattern : Pattern) (value : List Char) :
    List Char :=
  let choose (rests : List (List Char)) : Option (List Char) :=
    if isLongest then rests.getLast? else rests.head?
  if isAtStart then (choose (pattern.rests value)).getD value
  else
    match choose (rests pattern.reverse value.reverse) with
    | some kept => kept.reverse
    | none => value

end Pattern

end ClusterConsole.Shell
