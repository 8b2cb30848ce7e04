import ClusterConsole.Console.Narration

/-!
# Display loops

A display loop draws a frame, pauses, and draws the next one, until an interrupt
stops it.  A pause is slept in short slices, so that an interrupt is noticed
soon.  However a loop ends, an interrupt after it ends the program again.
-/

namespace ClusterConsole

namespace Operation

def display (request : DisplayRequest) : Operation request.Reply :=
  Operation.request (.display request)

/-- Carries out something that an interrupt only stops. -/
def interruptible (body : Operation α) : Operation α := do
  display .begin
  let outcome ← result body
  display .finish
  ofResult outcome

end Operation

namespace Display

open Operation

/-- The nanoseconds between two frames. -/
def refresh : Nat := 2000000000

/-- The nanoseconds that are slept at a time. -/
def slice : Nat := 100000000

def slices (period : Nat) : List Nat :=
  List.replicate (period / slice) slice ++
    if period % slice = 0 then [] else [period % slice]

/-- Sleeps slice by slice, until there was an interrupt. -/
def pause : List Nat → Operation Unit
  | [] => return ()
  | first :: rest => do
    if ← display .isStopped then return ()
    display (.pause first)
    pause rest

def frame (title text : String) : List Message :=
  [.clear, .heading (title ++ " (Ctrl+C to exit)"), .content text]

/-- Draws frames until there was an interrupt, or until there were as many as
the `horizon` allows.  Nothing is fetched or drawn after an interrupt. -/
def frames (voice : Voice) (title : String) (fetch : Operation String) :
    (horizon : Nat) → Operation Unit
  | 0 => return ()
  | horizon + 1 => do
    if ← display .isStopped then return ()
    let text ← fetch
    if ← display .isStopped then return ()
    say voice (frame title text)
    pause (slices refresh)
    frames voice title fetch horizon

def watch (voice : Voice) (horizon : Nat) (title : String)
    (fetch : Operation String) :
    Operation Unit :=
  interruptible (frames voice title fetch horizon)

/-- Draws a single frame, which stays on the screen. -/
def once (voice : Voice) (title : String) (fetch : Operation String) :
    Operation Unit := do
  let text ← fetch
  say voice [.heading title, .content text]

/-- How long some pauses last in all. -/
def duration (pauses : List Nat) : Nat :=
  pauses.foldr (· + ·) 0

theorem duration_append (first second : List Nat) :
    duration (first ++ second) = duration first + duration second := by
  induction first with
  | nil => simp [duration]
  | cons pause rest ih =>
      show pause + duration (rest ++ second) = pause + duration rest +
        duration second
      rw [ih, Nat.add_assoc]

theorem duration_replicate_slice (count : Nat) :
    duration (List.replicate count slice) = slice * count := by
  induction count with
  | zero => rfl
  | succ count ih =>
      show slice + duration (List.replicate count slice) = slice * (count + 1)
      rw [ih, Nat.mul_succ, Nat.add_comm]

/-- The slices of a period last as long as the period. -/
theorem duration_slices (period : Nat) : duration (slices period) = period := by
  have whole := Nat.div_add_mod period slice
  rw [slices, duration_append, duration_replicate_slice]
  by_cases even : period % slice = 0
  · simpa [even, duration] using whole
  · simpa [even, duration] using whole

end Display

end ClusterConsole
