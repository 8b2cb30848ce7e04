/-!
# Signals

A signal has a number and a name.  Some signals end nothing unless a process is
told to.
-/

namespace ClusterConsole.Shell

namespace Signal

/-- The names of the signals, from the first one on. -/
def names : List String :=
  ["HUP", "INT", "QUIT", "ILL", "TRAP", "ABRT", "BUS", "FPE", "KILL", "USR1",
    "SEGV", "USR2", "PIPE", "ALRM", "TERM", "16", "CHLD", "CONT", "STOP",
    "TSTP", "TTIN", "TTOU", "URG", "XCPU", "XFSZ", "VTALRM", "PROF", "WINCH",
    "IO", "PWR", "SYS", "32", "33", "RTMIN"] ++
    ((List.range 15).map fun step => "RTMIN+" ++ toString (step + 1)) ++
    ((List.range 14).map fun step => "RTMAX-" ++ toString (14 - step)) ++
      ["RTMAX"]

/-- The name of a signal, which for the end of a script is none. -/
def nameOf (signal : Nat) : String :=
  if signal = 0 then "EXIT" else names.getD (signal - 1) ""

def bound : Nat := 65

/-- The number of the signal that a text names; the end of a script counts from
`first` zero on. -/
def ofText? (first : Nat) (text : String) : Option Nat :=
  if !text.isEmpty && text.toList.all Char.isDigit then
    match text.toNat? with
    | some number => if number < bound then some number else none
    | none => none
  else
    let upper := text.map Char.toUpper
    if first = 0 && upper = "EXIT" then some 0
    else (names.findIdx? (· = upper)).map (· + 1)

/-- The signal that ends every process. -/
def kill : Nat := 9

/-- The signal for a process that has gone too far. -/
def fault : Nat := 11

/-- The signal for a process that writes what nobody reads. -/
def pipe : Nat := 13

/-- The signals that end nothing. -/
def harmless : List Nat := [0, 17, 18, 19, 20, 21, 22, 23, 28]

/-- What is said about a process that a signal ended. -/
def descriptions : List (Nat × String) :=
  [(1, "Hangup"), (2, "Interrupt"), (3, "Quit"), (4, "Illegal instruction"),
    (5, "Trace/breakpoint trap"), (6, "Aborted"), (7, "Bus error"),
    (8, "Floating point exception"), (9, "Killed"),
    (10, "User defined signal 1"), (11, "Segmentation fault"),
    (12, "User defined signal 2"), (13, "Broken pipe"), (14, "Alarm clock"),
    (15, "Terminated"), (16, "Stack fault"), (24, "CPU time limit exceeded"),
    (25, "File size limit exceeded"), (26, "Virtual timer expired"),
    (27, "Profiling timer expired"), (29, "I/O possible"),
    (30, "Power failure"), (31, "Bad system call")]

/-- The first of the signals without a fixed use. -/
def firstFree : Nat := 34

/-- What is said about a process that a signal ended. -/
def description (signal : Nat) : String :=
  match descriptions.lookup signal with
  | some text => text
  | none =>
    if firstFree ≤ signal then
      "Real-time signal " ++ toString (signal - firstFree)
    else "Unknown signal " ++ toString signal

/-- The signals that nothing is said about. -/
def quiet : List Nat := [2, 13]

end Signal

end ClusterConsole.Shell
