/-!
# Paint

Words on a terminal can be painted.  Paint only ever goes around a text: without
color the text stands as it is.
-/

namespace ClusterConsole

/-- How a text is painted. -/
inductive Paint where
  | green
  | yellow
  | red
  | bold
  | dim
  | boldCyan
  | boldGreen
  | dimCyan
deriving DecidableEq, Repr

namespace Paint

/-- What goes in front of a painted text. -/
def opening : Paint → String
  | .green => "\x1b[32m"
  | .yellow => "\x1b[33m"
  | .red => "\x1b[31m"
  | .bold => "\x1b[1m"
  | .dim => "\x1b[2m"
  | .boldCyan => "\x1b[36;1m"
  | .boldGreen => "\x1b[32;1m"
  | .dimCyan => "\x1b[36;2m"

/-- What goes behind a painted text: a color alone gives way to the standard
color, and everything else to the standard look. -/
def closing : Paint → String
  | .green => "\x1b[39m"
  | .yellow => "\x1b[39m"
  | .red => "\x1b[39m"
  | _ => "\x1b[0m"

def on (paint : Paint) (isColored : Bool) (text : String) : String :=
  if isColored then paint.opening ++ text ++ paint.closing else text

@[simp] theorem on_false (paint : Paint) (text : String) :
    paint.on false text = text := rfl

end Paint

end ClusterConsole
