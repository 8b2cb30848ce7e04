import ClusterConsole.Procedure.Request

/-!
# Procedures

A procedure either is done, or asks a request and goes on with the reply.  It is
a value, so that what it does against any surroundings can be stated and proved;
the surroundings decide each reply, and may decide it by everything that came
before.
-/

namespace ClusterConsole

/-- A finite plan of requests, each of which may depend on the replies so
far. -/
inductive Procedure (α : Type) where
  | done (value : α)
  | ask (request : Request) (resume : request.Reply → Procedure α)

namespace Procedure

/-- One procedure, and then another one with its value. -/
def bind : Procedure α → (α → Procedure β) → Procedure β
  | .done value, next => next value
  | .ask request resume, next =>
    .ask request fun reply => (resume reply).bind next

instance : Monad Procedure where
  pure := .done
  bind := bind

def request (request : Request) : Procedure request.Reply :=
  .ask request .done

@[simp] theorem done_bind {value : α} {next : α → Procedure β} :
    (Procedure.done value).bind next = next value := rfl

@[simp] theorem ask_bind {request : Request}
    {resume : request.Reply → Procedure α} {next : α → Procedure β} :
    (Procedure.ask request resume).bind next =
      .ask request fun reply => (resume reply).bind next := rfl

@[simp] theorem bind_done (procedure : Procedure α) :
    procedure.bind .done = procedure := by
  induction procedure with
  | done => rfl
  | ask request resume ih => simp [ih]

theorem bind_assoc (procedure : Procedure α)
    (next : α → Procedure β) (last : β → Procedure γ) :
    (procedure.bind next).bind last = procedure.bind fun value =>
      (next value).bind last := by
  induction procedure with
  | done => rfl
  | ask request resume ih => simp [ih]

instance : LawfulMonad Procedure :=
  LawfulMonad.mk' Procedure
    (fun procedure => bind_done procedure)
    (fun _ _ => rfl)
    bind_assoc

end Procedure

/-! ## Running a procedure -/

/-- Whatever replies to requests, with a state of its own. -/
structure Surroundings (σ : Type) where
  reply : (request : Request) → σ → request.Reply × σ

/-- A request, and the reply to it. -/
structure Exchange where
  request : Request
  reply : request.Reply

/-- How a procedure went. -/
structure Run (σ α : Type) where
  value : α
  trace : List Exchange
  state : σ

namespace Procedure

/-- Runs a procedure against surroundings in a state. -/
def run (surroundings : Surroundings σ) : Procedure α → σ → Run σ α
  | .done value, state => ⟨value, [], state⟩
  | .ask request resume, state =>
    let (reply, state) := surroundings.reply request state
    let rest := run surroundings (resume reply) state
    { rest with trace := ⟨request, reply⟩ :: rest.trace }

@[simp] theorem run_done {surroundings : Surroundings σ}
    {value : α} {state : σ} :
    (Procedure.done value).run surroundings state = ⟨value, [], state⟩ := rfl

/-- A run of two procedures in a row is a run of the first, then one of the
second. -/
theorem run_bind {surroundings : Surroundings σ} (procedure : Procedure α)
    (next : α → Procedure β) (state : σ) :
    (procedure.bind next).run surroundings state =
      let first := procedure.run surroundings state
      let second := (next first.value).run surroundings first.state
      ⟨second.value, first.trace ++ second.trace, second.state⟩ := by
  induction procedure generalizing state with
  | done => rfl
  | ask request resume ih => simp [run, ih]

end Procedure

end ClusterConsole
