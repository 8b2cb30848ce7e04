import ClusterConsole.Procedure.Basic

/-!
# The replies of surroundings

A trace tells what the surroundings were asked and what they replied, so it also
tells in which state they were at each request.
-/

namespace ClusterConsole

namespace Surroundings

def exchange (surroundings : Surroundings σ) (request : Request) (state : σ) :
    Exchange :=
  ⟨request, (surroundings.reply request state).1⟩

def next (surroundings : Surroundings σ) (request : Request) (state : σ) : σ :=
  (surroundings.reply request state).2

/-- The state after all requests of a trace. -/
def after (surroundings : Surroundings σ) (trace : List Exchange) (state : σ) :
    σ :=
  trace.foldl (fun state exchange =>
    surroundings.next exchange.request state) state

/-- Whether the replies in a trace that begins in a state are those of the
surroundings. -/
def Replies (surroundings : Surroundings σ) : List Exchange → σ → Prop
  | [], _ => True
  | exchange :: rest, state =>
    exchange = surroundings.exchange exchange.request state ∧
      surroundings.Replies rest (surroundings.next exchange.request state)

theorem Replies.of_append {surroundings : Surroundings σ}
    {early late : List Exchange} {state : σ}
    (replies : surroundings.Replies (early ++ late) state) :
    surroundings.Replies early state := by
  induction early generalizing state with
  | nil => trivial
  | cons exchange early ih => exact ⟨replies.1, ih replies.2⟩

theorem after_append (surroundings : Surroundings σ)
    (early late : List Exchange) (state : σ) :
    surroundings.after (early ++ late) state =
      surroundings.after late (surroundings.after early state) :=
  List.foldl_append ..

theorem Replies.of_append_right {surroundings : Surroundings σ}
    {early late : List Exchange} {state : σ}
    (replies : surroundings.Replies (early ++ late) state) :
    surroundings.Replies late (surroundings.after early state) := by
  induction early generalizing state with
  | nil => exact replies
  | cons exchange early ih => exact ih replies.2

end Surroundings

namespace Procedure

theorem replies_run (surroundings : Surroundings σ) (procedure : Procedure α)
    (state : σ) :
    surroundings.Replies (procedure.run surroundings state).trace state := by
  induction procedure generalizing state with
  | done value => trivial
  | ask request resume ih => exact ⟨rfl, ih _ _⟩

theorem state_run (surroundings : Surroundings σ)
    (procedure : Procedure α) (state : σ) :
    (procedure.run surroundings state).state =
      surroundings.after (procedure.run surroundings state).trace state := by
  induction procedure generalizing state with
  | done value => rfl
  | ask request resume ih => exact ih _ _

end Procedure

end ClusterConsole
