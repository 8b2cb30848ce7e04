/-!
# Keys

On a terminal the operator answers with keys.  A key that means nothing for a
question is passed over.
-/

namespace ClusterConsole

/-- A key on a terminal. -/
inductive Key where
  | up
  | down
  | enter
  | escape
  | letter (char : Char)
deriving DecidableEq, Repr

namespace Key

def noTerminal : String := "IO error: not a terminal"

/-- Whether a key moves to the item above. -/
def movesUp (key : Key) : Bool := key == .up || key == .letter 'k'

/-- Whether a key moves to the item below. -/
def movesDown (key : Key) : Bool := key == .down || key == .letter 'j'

def takes (key : Key) : Bool := key == .enter || key == .letter ' '

/-- Whether a key leaves a list without an item. -/
def leaves (key : Key) : Bool := key == .escape || key == .letter 'q'

/-- The item taken from a list of `size` by typed keys, and the keys after it.
Moving past an end of the list goes on at its other end. -/
def choose (size : Nat) (isOptional : Bool) (here : Nat) :
    List Key → Except String (Option Nat) × List Key
  | [] => (.error noTerminal, [])
  | key :: rest =>
    if key.takes then (.ok (some here), rest)
    else if key.leaves && isOptional then (.ok none, rest)
    else if key.movesUp then
      choose size isOptional ((here + size - 1) % size) rest
    else if key.movesDown then choose size isOptional ((here + 1) % size) rest
    else choose size isOptional here rest

/-- The answer to a question given by typed keys, and the keys after it. -/
def answer (preset : Bool) : List Key → Except String Bool × List Key
  | [] => (.error noTerminal, [])
  | key :: rest =>
    if key = .enter then (.ok preset, rest)
    else if key = .letter 'y' ∨ key = .letter 'Y' then (.ok true, rest)
    else if key = .letter 'n' ∨ key = .letter 'N' then (.ok false, rest)
    else answer preset rest

end Key

end ClusterConsole
