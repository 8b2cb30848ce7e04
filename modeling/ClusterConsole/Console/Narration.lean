import ClusterConsole.Console.Message
import ClusterConsole.Operation.Basic

/-!
# Narration

While an operation runs, the console tells each event as it is announced.  That
adds writing to the operation and changes nothing else about it, and neither
does an operator who consented in advance.
-/

namespace ClusterConsole

namespace Procedure

/-- Writes, and then goes on. -/
def writing (emissions : List Emission) (next : Procedure α) : Procedure α :=
  emissions.foldr (fun emission next =>
    .ask (.write emission.channel emission.text)
    fun _ => next) next

/-- What is written after a request. -/
def narration (voice : Voice) : Request → List Emission
  | .announce event => voice.speak (.ofEvent event)
  | _ => []

def narrated (voice : Voice) : Procedure α → Procedure α
  | .done value => .done value
  | .ask request resume =>
    .ask request fun reply =>
      writing (narration voice request) ((resume reply).narrated voice)

/-- A procedure in which every question about consent has been answered. -/
def accepting : Procedure α → Procedure α
  | .done value => .done value
  | .ask (.confirm _ _) resume => accepting (resume (.ok true))
  | .ask request resume => .ask request fun reply => accepting (resume reply)

end Procedure

namespace Operation

def say (voice : Voice) (messages : List Message) : Operation Unit :=
  ExceptT.lift (Procedure.writing (messages.flatMap voice.speak) (.done ()))

end Operation

end ClusterConsole
