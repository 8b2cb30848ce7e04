/-!
# Arguments of a command

A command of the shell reads its options from the front of its arguments:
letters after a stroke, some of which take a value.  Two strokes end the
options.
-/

namespace ClusterConsole.Shell

namespace Argument

/-- The options of a command, in their order, and the arguments that follow
them. -/
abbrev Read := List (Char × String) × List String

/-- The options that the letters of one argument are. -/
def ofLetters (plain valued : List Char) (rest : List String) :
    List Char → Except String Read
  | [] => .ok ([], rest)
  | letter :: letters =>
    if letter ∈ valued then
      if letters.isEmpty then
        match rest with
        | [] => .error ("No arg for -" ++ String.singleton letter ++ " option")
        | value :: rest => .ok ([(letter, value)], rest)
      else .ok ([(letter, String.ofList letters)], rest)
    else if letter ∈ plain then do
      let (others, rest) ← ofLetters plain valued rest letters
      return ((letter, "") :: others, rest)
    else .error ("Illegal option -" ++ String.singleton letter)

def read (plain valued : List Char) :
    (fuel : Nat) → List String → Except String Read
  | 0, arguments => .ok ([], arguments)
  | _, [] => .ok ([], [])
  | fuel + 1, first :: rest =>
    match first.toList with
    | ['-'] => .ok ([], first :: rest)
    | ['-', '-'] => .ok ([], rest)
    | '-' :: letters => do
      let (options, rest) ← ofLetters plain valued rest letters
      let (others, rest) ← read plain valued fuel rest
      return (options ++ others, rest)
    | _ => .ok ([], first :: rest)

/-- The options at the front of arguments, and the arguments that follow
them. -/
def options (plain valued : List Char) (arguments : List String) :
    Except String Read :=
  read plain valued arguments.length arguments

def assignment (argument : String) : String × Option String :=
  let name := argument.toList.takeWhile (· ≠ '=')
  match argument.toList.drop name.length with
  | [] => (argument, none)
  | _ :: value => (String.ofList name, some (String.ofList value))

end Argument

end ClusterConsole.Shell
