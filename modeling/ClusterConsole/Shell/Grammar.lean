import ClusterConsole.Shell.Token

/-!
# Reading commands

Commands are read one line at a time: a line ends where a command is complete.
Within a command that holds others, lists of commands go on across the ends of
lines.
-/

namespace ClusterConsole.Shell

namespace Reader

/-- How a list of commands is read. -/
inductive ListKind where
  /-- Up to the end of the line. -/
  | line
  /-- Up to something that ends it; there has to be a command. -/
  | some
  /-- Up to something that ends it; there need not be a command. -/
  | any
deriving DecidableEq, Repr

/-- Reads the commands in another one. -/
structure Inner where
  list : ListKind → Reader Command
  command : Reader Command

namespace Inner

def nested (inner : Inner) : Nested := fun isEnclosed => do
  let command ← inner.list .any
  if isEnclosed then
    let next ← token (fun _ => fail "word unexpected") .none
    unless next.isSign ")" do unexpected next (some "\")\"")
  return command

end Inner

def next (inner : Inner) (checks : Checks) : Reader Token :=
  token inner.nested checks

/-- Takes a keyword, which has to be there. -/
def expectKeyword (inner : Inner) (checks : Checks) (text : String) :
    Reader Unit := do
  let next ← next inner checks
  unless next.isKeyword text do unexpected next (some ("\"" ++ text ++ "\""))

/-! ## Redirections -/

/-- The stream that a text names, or none for a stroke. -/
def streamNamed? : List Char → Option (Option Nat)
  | ['-'] => some none
  | [digit] =>
    if digit.isDigit then some (some (digit.toNat - '0'.toNat)) else none
  | _ => none

def closingText (word : Word) : List Char :=
  word.flatMap charsOf
where
  /-- The characters of a piece. -/
  charsOf : Piece → List Char
    | .plain chars => chars
    | .literal chars => chars
    | .quoted inside => inside.flatMap fun piece =>
      match piece with
      | .plain chars => chars
      | .literal chars => chars
      | _ => []
    | _ => []

/-- Announces a document, and tells its place. -/
def announce (closing : Word) (stripsTabs : Bool) : Reader Nat := do
  let source ← get
  let index := source.documents.size
  let isPlain := (Word.bare? closing).isNone
  let document : Announced := ⟨index, closingText closing, stripsTabs, isPlain⟩
  set { source with
    announced := source.announced ++ [document]
    documents := source.documents.push [] }
  return index

def redirection (inner : Inner) (stream? : Option Nat) (sign : String) :
    Reader Redirection := do
  let isDocument := sign = "<<" || sign = "<<-"
  match ← next inner { isClosing := isDocument } with
  | .word word =>
    let customary := if sign.startsWith "<" then 0 else 1
    let target ←
      match sign with
      | "<" => pure (.read word)
      | "<>" => pure (.readWrite word)
      | ">" => pure (.write false word)
      | ">|" => pure (.write true word)
      | ">>" => pure (.append word)
      | "<<" => pure (.document (← announce word false))
      | "<<-" => pure (.document (← announce word true))
      | _ =>
        match (Word.bare? word).bind streamNamed? with
        | some number? => pure (.stream number?)
        | none => pure (.streamNamed word)
    return .lead (stream?.getD customary) target
  | other => unexpected other none

def redirections (inner : Inner) : (fuel : Nat) → Reader (List Redirection)
  | 0 => return []
  | fuel + 1 => do
    match ← next inner .commandHere with
    | .redirect stream? sign =>
      let first ← redirection inner stream? sign
      return first :: (← redirections inner fuel)
    | other =>
      putBack other
      return []

/-! ## Simple commands -/

def assignment? : Word → Option (List Char × Word)
  | .plain chars :: rest =>
    let name := chars.takeWhile (· ≠ '=')
    match chars.drop name.length with
    | [] => none
    | _ :: value =>
      if isName name then
        some (name, if value.isEmpty then rest else .plain value :: rest)
      else none
  | _ => none

/-- A simple command as far as it has been read. -/
structure Begun where
  assignments : List (List Char × Word) := []
  words : List Word := []
  redirections : List Redirection := []

/-- The commands whose names no function can have. -/
def specialNames : List String :=
  [":", ".", "break", "continue", "eval", "exec", "exit", "export", "local",
    "readonly", "return", "set", "shift", "times", "trap", "unset"]

/-- Takes the body of a function after its name. -/
def function (inner : Inner) (name : Word) : Reader Command := do
  let close ← next inner .none
  unless close.isSign ")" do unexpected close (some "\")\"")
  match Word.bare? name with
  | some chars =>
    if isName chars && String.ofList chars ∉ specialNames then
      putBack (← next inner .command)
      return .define chars (← inner.command)
    else fail "Bad function name"
  | none => fail "Bad function name"

def simple (inner : Inner) (line : Nat) : (fuel : Nat) → Begun → Reader Command
  | 0, _ => fail "word unexpected"
  | fuel + 1, begun => do
    match ← next inner { expandsAliases := begun.words.isEmpty } with
    | .word word =>
      match if begun.words.isEmpty then assignment? word else none with
      | some entry =>
        simple inner line fuel { begun with assignments :=
          begun.assignments ++ [entry] }
      | none =>
        simple inner line fuel { begun with words := begun.words ++ [word] }
    | .redirect stream? sign =>
      let first ← redirection inner stream? sign
      simple inner line fuel { begun with redirections :=
        begun.redirections ++ [first] }
    | .sign "(" =>
      match begun with
      | ⟨[], [name], []⟩ => function inner name
      | _ => finish begun (.sign "(")
    | other => finish begun other
where
  /-- The command before a token. -/
  finish (begun : Begun) (other : Token) : Reader Command := do
    putBack other
    return .simple line begun.assignments begun.words begun.redirections

/-! ## Commands of other commands -/

def items (inner : Inner) : (fuel : Nat) → Reader (List Word)
  | 0 => return []
  | fuel + 1 => do
    match ← next inner .none with
    | .word word => return word :: (← items inner fuel)
    | .lineEnd => return []
    | .sign ";" => return []
    | other => unexpected other none

/-- All arguments, each as a word. -/
def allArguments : Word := [.quoted [.parameter ['@'] .keep]]

/-- Takes what follows the word that begins a loop over items. -/
def each (inner : Inner) (line : Nat) : Reader Command := do
  let name? ← do
    match ← next inner .none with
    | .word word => pure ((Word.bare? word).filter isName)
    | _ => pure none
  match name? with
  | none => fail "Bad for loop variable"
  | some name =>
    let items ← do
      match ← next inner .command with
      | .keyword "in" => items inner limit
      | .sign ";" => pure [allArguments]
      | other =>
        putBack other
        pure [allArguments]
    expectKeyword inner .command "do"
    let body ← inner.list .some
    expectKeyword inner .none "done"
    return .each line name items body

/-- Takes the condition and the commands that depend on it, for each branch. -/
def branches (inner : Inner) : (fuel : Nat) → Reader Command
  | 0 => fail "word unexpected"
  | fuel + 1 => do
    let test ← inner.list .some
    expectKeyword inner .none "then"
    let yes ← inner.list .some
    match ← next inner .none with
    | .keyword "elif" => return .branch test yes (← branches inner fuel)
    | .keyword "else" => return .branch test yes (← inner.list .some)
    | other =>
      putBack other
      return .branch test yes .nothing

/-- Takes a loop that goes on while its condition holds, or until it does. -/
def looped (inner : Inner) (isUntil : Bool) : Reader Command := do
  let test ← inner.list .some
  expectKeyword inner .none "do"
  return .loop isUntil test (← inner.list .some)

/-- The word of a token, as a pattern. -/
def patternOf : Token → Word
  | .word word => word
  | .keyword text => [.plain text.toList]
  | _ => []

/-- Takes the patterns after the first one, up to the closing bracket. -/
def morePatterns (inner : Inner) : (fuel : Nat) → Reader (List Word)
  | 0 => return []
  | fuel + 1 => do
    match ← next inner .none with
    | .sign "|" =>
      let pattern := patternOf (← next inner .none)
      return pattern :: (← morePatterns inner fuel)
    | .sign ")" => return []
    | other => unexpected other (some "\")\"")

def choices (inner : Inner) : (fuel : Nat) → Reader (List (List Word × Command))
  | 0 => return []
  | fuel + 1 => do
    match ← next inner ⟨true, true, false, false⟩ with
    | .keyword "esac" => return []
    | first =>
      let first ← if first.isSign "(" then next inner .none else pure first
      let patterns := patternOf first :: (← morePatterns inner limit)
      let body ← inner.list .any
      match ← next inner ⟨true, true, false, false⟩ with
      | .keyword "esac" => return [(patterns, body)]
      | .sign ";;" => return (patterns, body) :: (← choices inner fuel)
      | other => unexpected other (some "\";;\"")

def select (inner : Inner) (line : Nat) : Reader Command := do
  match ← next inner .none with
  | .word subject =>
    expectKeyword inner .command "in"
    return .select line subject (← choices inner limit)
  | other => unexpected other (some "word")

def withRedirections (line : Nat) (redirections : List Redirection) :
    Command → Command
  | .apart line body _ => .apart line body redirections
  | command =>
    if redirections.isEmpty then command
    else .redirected line command redirections

def command (inner : Inner) : Reader Command := do
  let line := (← get).line
  let first ← next inner .none
  let closed (body : Command) (closing : String) : Reader Command := do
    let last ← next inner .none
    unless last.isKeyword closing || last.isSign closing do
      unexpected last (some ("\"" ++ closing ++ "\""))
    return withRedirections line (← redirections inner limit) body
  match first with
  | .keyword "if" => closed (← branches inner limit) "fi"
  | .keyword "while" => closed (← looped inner false) "done"
  | .keyword "until" => closed (← looped inner true) "done"
  | .keyword "for" =>
    let body ← each inner line
    return withRedirections line (← redirections inner limit) body
  | .keyword "case" =>
    let body ← select inner line
    return withRedirections line (← redirections inner limit) body
  | .keyword "\x7b" => closed (← inner.list .some) "\x7d"
  | .sign "(" => closed (.apart line (← inner.list .some) []) ")"
  | .word word =>
    putBack (.word word)
    simple inner line limit {}
  | .redirect stream? sign =>
    putBack (.redirect stream? sign)
    simple inner line limit {}
  | other => unexpected other none

/-- Takes the commands that read what the ones before them print. -/
def piped (inner : Inner) : (fuel : Nat) → Reader (List Command)
  | 0 => return []
  | fuel + 1 => do
    let next ← next inner .none
    if next.isSign "|" then
      let first ← do
        putBack (← Reader.next inner .command)
        command inner
      return first :: (← piped inner fuel)
    else
      putBack next
      return []

/-- Takes commands side by side. -/
def pipeline (inner : Inner) : Reader Command := do
  let first ← next inner .none
  let isNegated := first.isKeyword "!"
  if isNegated then putBack (← next inner .commandHere) else putBack first
  let first ← command inner
  let rest ← piped inner limit
  let whole := if rest.isEmpty then first else .pipe (first :: rest)
  return if isNegated then .negated whole else whole

/-- Takes the commands that depend on the success of one. -/
def chain (inner : Inner) : (fuel : Nat) → Command → Reader Command
  | 0, first => return first
  | fuel + 1, first => do
    match ← next inner .none with
    | .sign "&&" =>
      putBack (← next inner .command)
      chain inner fuel (.onSuccess first (← pipeline inner))
    | .sign "||" =>
      putBack (← next inner .command)
      chain inner fuel (.onFailure first (← pipeline inner))
    | other =>
      putBack other
      return first

/-- Two commands, one after the other, where there may be none before. -/
def join (before? : Option Command) (command : Command) : Command :=
  match before? with
  | none => command
  | some before => .both before command

def list (inner : Inner) (kind : ListKind) : (fuel : Nat) → (isFirst : Bool) →
    (before? : Option Command) → Reader Command
  | 0, _, _ => fail "word unexpected"
  | fuel + 1, isFirst, before? => do
    let first ← next inner (if kind = .line then .commandHere else .command)
    let finish : Reader Command := do
      putBack first
      return before?.getD .nothing
    match first with
    | .lineEnd =>
      documents inner.nested
      return before?.getD .nothing
    | .ended =>
      documents inner.nested
      finish
    | _ =>
      if kind ≠ .line && !(isFirst && kind = .some) && first.endsList then
        finish
      else
        putBack first
        let command ← chain inner limit (← pipeline inner)
        let after ← next inner .none
        match after with
        | .sign "&" =>
          list inner kind fuel false (some (join before? (.background command)))
        | .sign ";" => list inner kind fuel false (some (join before? command))
        | .lineEnd =>
          putBack after
          list inner kind fuel false (some (join before? command))
        | .ended =>
          putBack after
          list inner kind fuel false (some (join before? command))
        | _ =>
          if kind = .line then unexpected after none
          else
            putBack after
            return join before? command

def nestingLimit : Nat := 300

/-- Reads the commands in another one, so many levels deep. -/
def inner : (levels : Nat) → Inner
  | 0 => ⟨fun _ => fail "word unexpected", fail "word unexpected"⟩
  | levels + 1 =>
    let deeper := inner levels
    ⟨fun kind => list deeper kind limit true none, command deeper⟩

/-- The word that a whole text is as what is between quotes. -/
def quotedWord (text : String) : Except Fault Word := do
  let inner := inner nestingLimit
  let (pieces, _) ← (pieces inner.nested false limit
      (.document false ['\x00'] false)).run
    (Source.ofText text [] #[])
  return [.quoted pieces]

/-- Whether nothing is left to be read but the end. -/
def isAtEnd : Reader Bool := do
  match (← get).pushed? with
  | some .ended => return true
  | _ => return false

/-- Takes the commands of one line, if there is anything left, and tells whether
the source ended with them. -/
def line : Reader (Option (Command × Bool)) := do
  modify fun source => { source with pushed? := none, announced := [] }
  let inner := inner nestingLimit
  let command ← inner.list .line
  let isLast ← isAtEnd
  if isLast && command.isNothing then return none
  else return some (command, isLast)

end Reader

end ClusterConsole.Shell
