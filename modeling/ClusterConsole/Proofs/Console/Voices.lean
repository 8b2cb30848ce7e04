import ClusterConsole.Console.Run
import ClusterConsole.Proofs.Console.Commands
import ClusterConsole.Proofs.Json.Reading
import ClusterConsole.Proofs.Session.Frame

/-!
# Voices

A procedure that can be told how to speak is a family of procedures, one for
each voice.  It is *voiced* if the voices differ only in how they tell the same
messages, and the rules follow the ways in which procedures are put together.
Then there is one script of all voices: what is done, and the messages that are
told in between.
-/

namespace ClusterConsole

/-- Whether other programs are told objects only. -/
def Message.TellsObjects (message : Message) : Prop :=
  ∀ value, message = .result value → Json.IsObject value

theorem Event.tellsObjects (event : Event) :
    (Message.ofEvent event).TellsObjects := by
  cases event <;> exact nofun

theorem Message.tellsObjects_ofFailure (failure : Failure) :
    ∀ message ∈ ofFailure failure, message.TellsObjects := by
  rintro message member value rfl
  unfold ofFailure at member
  split at member <;> simp at member

theorem nonempty_fileReply (request : FileRequest) :
    Nonempty request.Reply := by
  cases request with
  | isFile => exact ⟨true⟩
  | discard => exact ⟨()⟩
  | _ => exact ⟨.error .notFound⟩

theorem nonempty_displayReply (request : DisplayRequest) :
    Nonempty request.Reply := by
  cases request with
  | isStopped => exact ⟨true⟩
  | _ => exact ⟨()⟩

theorem Request.nonempty_reply (request : Request) :
    Nonempty request.Reply := by
  cases request with
  | run => exact ⟨.error .notFound⟩
  | find => exact ⟨true⟩
  | confirm => exact ⟨.ok true⟩
  | file request => exact nonempty_fileReply request
  | display request => exact nonempty_displayReply request
  | choose => exact ⟨.ok none⟩
  | inquire => exact ⟨.ok true⟩
  | _ => exact ⟨()⟩

namespace Procedure

/-- Whatever the voice, the same is asked for, and in between the same messages
are told.  They may be other ones for other programs than for a reader. -/
inductive Voiced (voices : ι → Voice) : (ι → Procedure α) → Prop where
  | done (value : α) : Voiced voices fun _ => .done value
  | act {request : Request} {resume : ι → request.Reply → Procedure α}
      (isAct : request.isWrite = false)
      (goesOn : ∀ reply, Voiced voices fun speaker => resume speaker reply) :
      Voiced voices fun speaker => .ask request (resume speaker)
  | tell {messages : Bool → List Message} {next : ι → Procedure α}
      (objects : ∀ message ∈ messages true, message.TellsObjects)
      (goesOn : Voiced voices next) :
      Voiced voices fun speaker =>
        writing ((messages (voices speaker).isJson).flatMap
          ((voices speaker).speak)) (next speaker)

theorem writing_cons (emission : Emission) (rest : List Emission)
    (next : Procedure α) :
    writing (emission :: rest) next =
      .ask (.write emission.channel emission.text) fun _ => writing rest next :=
  rfl

theorem writing_bind (emissions : List Emission)
    (first : Procedure α) (next : α → Procedure β) :
    (writing emissions first).bind next = writing emissions
    (first.bind next) := by
  induction emissions with
  | nil => rfl
  | cons emission rest ih =>
      rw [writing_cons, ask_bind, ih, writing_cons]

theorem writing_narrated (voice : Voice)
    (emissions : List Emission) (next : Procedure α) :
    (writing emissions next).narrated voice = writing emissions
    (next.narrated voice) := by
  induction emissions with
  | nil => rfl
  | cons emission rest ih =>
      rw [writing_cons, writing_cons, ← ih]
      rfl

theorem writing_accepting (emissions : List Emission) (next : Procedure α) :
    (writing emissions next).accepting = writing emissions next.accepting := by
  induction emissions with
  | nil => rfl
  | cons emission rest ih =>
      rw [writing_cons, writing_cons, ← ih]
      rfl

theorem Ensures.of_const {procedure : Procedure α} {holds : Prop}
    (ensures : procedure.Ensures fun _ _ => holds) : holds := by
  induction procedure with
  | done value => exact ensures
  | ask request resume ih =>
      obtain ⟨reply⟩ := request.nonempty_reply
      exact ih reply (ensures reply)

section Rules

variable {voices : ι → Voice} {part : ι → Procedure α}

theorem voiced_telling (messages : List Message) {next : ι → Procedure α}
    (objects : ∀ message ∈ messages, message.TellsObjects)
    (goesOn : Voiced voices next) :
    Voiced voices fun speaker =>
      writing (messages.flatMap ((voices speaker).speak)) (next speaker) :=
  @Voiced.tell _ _ _ (fun _ => messages) next objects goesOn

theorem Voiced.bind {next : ι → α → Procedure β} (voiced : Voiced voices part)
    (goesOn : ∀ value, Voiced voices fun speaker => next speaker value) :
    Voiced voices fun speaker => (part speaker).bind (next speaker) := by
  induction voiced with
  | done value => exact goesOn value
  | act isAct _ ih => exact .act isAct ih
  | tell objects _ ih =>
      simp only [writing_bind]
      exact .tell objects ih

/-- A procedure that writes nothing is the same in all voices. -/
theorem voiced_of_acts {procedure : Procedure α}
    (acts : procedure.Ensures fun trace _ =>
      ∀ exchange ∈ trace, exchange.request.isWrite = false) :
    Voiced voices fun _ => procedure := by
  induction procedure with
  | done value => exact .done value
  | ask request resume ih =>
      obtain ⟨some⟩ := request.nonempty_reply
      have isAct : request.isWrite = false :=
        ((acts some).mono fun _ _ acts => acts _ List.mem_cons_self).of_const
      apply Voiced.act isAct
      intro reply
      apply ih reply
      exact (acts reply).mono fun _ _ acts exchange member =>
        acts exchange (List.mem_cons_of_mem _ member)

theorem Voiced.narrated (voiced : Voiced voices part) :
    Voiced voices fun speaker => (part speaker).narrated (voices speaker) := by
  have tellsEvent :
      ∀ (event : Event) {next : ι → Procedure α}, Voiced voices next →
      Voiced voices fun speaker =>
        writing (narration (voices speaker) (.announce event))
          (next speaker) := by
    intro event next goesOn
    have tells : ∀ speaker, narration (voices speaker) (.announce event) =
        [Message.ofEvent event].flatMap ((voices speaker).speak) := by
      simp [narration]
    simp only [tells]
    apply voiced_telling _ _ goesOn
    intro message member
    rw [List.mem_singleton.mp member]
    exact event.tellsObjects
  induction voiced with
  | done value => exact .done value
  | @act request resume isAct _ ih =>
      apply Voiced.act isAct
      intro reply
      cases request with
      | announce event => exact tellsEvent event (ih reply)
      | _ => exact ih reply
  | tell objects _ ih =>
      simp only [writing_narrated]
      exact .tell objects ih

theorem Voiced.accepting (voiced : Voiced voices part) :
    Voiced voices fun speaker => (part speaker).accepting := by
  induction voiced with
  | done value => exact .done value
  | @act request resume isAct _ ih =>
      cases request with
      | confirm question preset => exact ih (.ok true)
      | _ => exact .act isAct ih
  | tell objects _ ih =>
      simp only [writing_accepting]
      exact .tell objects ih

end Rules

end Procedure

namespace Operation

def Voiced (voices : ι → Voice) (part : ι → Operation α) : Prop :=
  Procedure.Voiced voices fun speaker => (part speaker).toProcedure

section Rules

variable {voices : ι → Voice} {part : ι → Operation α}

theorem voiced_pure (value : α) :
    Voiced voices fun _ => (pure value : Operation α) :=
  Procedure.Voiced.done (Except.ok value : Except Failure α)

theorem voiced_throw (failure : Failure) :
    Voiced voices fun _ => (throw failure : Operation α) :=
  Procedure.Voiced.done (Except.error failure : Except Failure α)

theorem voiced_bind {next : ι → α → Operation β} (first : Voiced voices part)
    (goesOn : ∀ value, Voiced voices fun speaker => next speaker value) :
    Voiced voices fun speaker => part speaker >>= next speaker := by
  apply Procedure.Voiced.bind first
  intro result
  cases result with
  | error failure => exact voiced_throw failure
  | ok value => exact goesOn value

theorem voiced_result (voiced : Voiced voices part) :
    Voiced voices fun speaker => result (part speaker) :=
  Procedure.Voiced.bind voiced fun result => voiced_pure result

theorem voiced_ofResult (outcome : Except Failure α) :
    Voiced voices fun _ => ofResult outcome := by
  cases outcome with
  | error failure => exact voiced_throw failure
  | ok value => exact voiced_pure value

theorem voiced_ofAnswer (answer : Except String α) :
    Voiced voices fun _ => ofAnswer answer := by
  cases answer with
  | error reason => exact voiced_throw (.prompt reason)
  | ok value => exact voiced_pure value

theorem voiced_request {asked : Request} (isAct : asked.isWrite = false) :
    Voiced voices fun _ => request asked :=
  Procedure.Voiced.act isAct fun reply => voiced_pure reply

/-- What is asked for may be told with the voice, if it comes to the same. -/
theorem voiced_say {messages : ι → List Message} (forms : Bool → List Message)
    (same : ∀ speaker, messages speaker = forms (voices speaker).isJson)
    (objects : ∀ message ∈ forms true, message.TellsObjects) :
    Voiced voices fun speaker => say (voices speaker) (messages speaker) := by
  simp only [same]
  exact Procedure.Voiced.bind (.tell objects (.done ())) voiced_pure

theorem voiced_call (config : Config) (call : Call) :
    Voiced voices fun _ => call.operation config := by
  apply Procedure.voiced_of_acts
  apply Ensures.mono (permitted_call config call)
  intro trace result permitted exchange member
  have isPermitted := permitted exchange member
  cases asked : exchange.request with
  | write channel text =>
      rw [asked] at isPermitted
      exact isPermitted.elim
  | _ => rfl

end Rules

end Operation

/-! ## Scripts -/

/-- What is written, as an exchange. -/
def Emission.exchange (emission : Emission) : Exchange :=
  ⟨.write emission.channel emission.text, ()⟩

/-- A part of a script: something is done, or messages are told, which may be
other ones for other programs. -/
inductive Passage where
  | act (exchange : Exchange)
  | tell (messages : Bool → List Message)

namespace Passage

def trace (voice : Voice) : Passage → List Exchange
  | .act exchange => [exchange]
  | .tell messages =>
    ((messages voice.isJson).flatMap voice.speak).map Emission.exchange

/-- Whether nothing is written but what is told, and other programs are told
objects. -/
def IsFaithful : Passage → Prop
  | .act exchange => exchange.request.isWrite = false
  | .tell messages => ∀ message ∈ messages true, message.TellsObjects

end Passage

/-- Surroundings in which nothing depends on what is written. -/
def Surroundings.unread (surroundings : Surroundings σ) : Surroundings σ where
  reply
    | .write _ _, state => ((), state)
    | request, state => surroundings.reply request state

theorem Surroundings.unread_write (surroundings : Surroundings σ)
    (channel : Channel) (text : String) (state : σ) :
    surroundings.unread.reply (.write channel text) state = ((), state) :=
  rfl

/-- These are all surroundings that writing leaves as they are. -/
theorem Surroundings.unread_eq_self
    {surroundings : Surroundings σ} (stays : ∀ channel text state,
      (surroundings.reply (.write channel text) state).2 = state) :
    surroundings.unread = surroundings := by
  obtain ⟨reply⟩ := surroundings
  have same :
      ∀ request state, (Surroundings.unread ⟨reply⟩).reply request state =
      reply request state := by
    intro request state
    cases request with
    | write channel text => exact Prod.ext rfl (stays channel text state).symm
    | _ => rfl
  exact congrArg Surroundings.mk (funext fun request => funext fun state =>
    same request state)

namespace Procedure

theorem run_ask (surroundings : Surroundings σ) (request : Request)
    (resume : request.Reply → Procedure α) (state : σ) :
    (Procedure.ask request resume).run surroundings state =
      let answer := surroundings.reply request state
      let rest := (resume answer.1).run surroundings answer.2
      ⟨rest.value, ⟨request, answer.1⟩ :: rest.trace, rest.state⟩ :=
  rfl

theorem run_unread_writing (surroundings : Surroundings σ)
    (emissions : List Emission) (next : Procedure α) (state : σ) :
    (writing emissions next).run surroundings.unread state =
      let rest := next.run surroundings.unread state
      { rest with trace := emissions.map Emission.exchange ++ rest.trace } := by
  induction emissions with
  | nil => rfl
  | cons emission emissions ih =>
      simp only [writing_cons, run_ask, Surroundings.unread_write, ih]
      rfl

theorem Voiced.exists_script {voices : ι → Voice} {part : ι → Procedure α}
    (voiced : Voiced voices part) (surroundings : Surroundings σ) (state : σ) :
    ∃ (script : List Passage) (value : α) (last : σ),
      (∀ passage ∈ script, passage.IsFaithful) ∧
      ∀ speaker, (part speaker).run surroundings.unread state =
        ⟨value, script.flatMap (Passage.trace (voices speaker)), last⟩ := by
  induction voiced generalizing state with
  | done value => exact ⟨[], value, state, nofun, fun _ => rfl⟩
  | @act request resume isAct _ ih =>
      let answer := surroundings.unread.reply request state
      obtain ⟨script, value, last, faithful, runs⟩ := ih answer.1 answer.2
      refine ⟨.act ⟨request, answer.1⟩ :: script, value, last, ?_,
        fun speaker => ?_⟩
      · intro passage member
        rcases List.mem_cons.mp member with rfl | later
        · exact isAct
        · exact faithful passage later
      · simp only [run_ask, runs speaker, answer]
        rfl
  | @tell messages next objects _ ih =>
      obtain ⟨script, value, last, faithful, runs⟩ := ih state
      refine ⟨.tell messages :: script, value, last, ?_, fun speaker => ?_⟩
      · intro passage member
        rcases List.mem_cons.mp member with rfl | later
        · exact objects
        · exact faithful passage later
      · rw [run_unread_writing, runs speaker]
        rfl

end Procedure

end ClusterConsole
