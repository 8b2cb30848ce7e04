import ClusterConsole.Operation.Basic

/-!
# What procedures ensure

A procedure ensures what holds of its trace and its value whatever the replies
are.  It is read off the procedure request by request, so a procedure made of
parts is treated by what its parts ensure, and it then holds of every run
against any surroundings.
-/

namespace ClusterConsole

/-- A sequence succeeds with a value just when its first part succeeds, and then
the rest with that value. -/
theorem bind_eq_ok_iff {first : Except ε α} {next : α → Except ε β}
    {value : β} :
    first >>= next = .ok value ↔
      ∃ middle, first = .ok middle ∧ next middle = .ok value := by
  cases first with
  | error cause => simp [bind, Except.bind]
  | ok middle => simp [bind, Except.bind]

namespace Procedure

/-- Whatever the replies are, `after` holds of the trace and of the value. -/
def Ensures : Procedure α → (List Exchange → α → Prop) → Prop
  | .done value, after => after [] value
  | .ask request resume, after =>
    ∀ reply : request.Reply,
      (resume reply).Ensures fun trace value =>
        after (⟨request, reply⟩ :: trace) value

theorem Ensures.mono
    {procedure : Procedure α} {after later : List Exchange → α → Prop}
    (ensures : procedure.Ensures after)
    (weaker : ∀ trace value, after trace value → later trace value) :
    procedure.Ensures later := by
  induction procedure generalizing after later with
  | done value => exact weaker [] value ensures
  | ask request resume ih =>
      intro reply
      exact ih reply (ensures reply) fun trace value =>
        weaker (⟨request, reply⟩ :: trace) value

theorem Ensures.and {procedure : Procedure α}
    {left right : List Exchange → α → Prop}
    (leftEnsures : procedure.Ensures left)
    (rightEnsures : procedure.Ensures right) :
    procedure.Ensures fun trace value => left trace value ∧
    right trace value := by
  induction procedure generalizing left right with
  | done value => exact ⟨leftEnsures, rightEnsures⟩
  | ask request resume ih =>
      intro reply
      exact ih reply (leftEnsures reply) (rightEnsures reply)

theorem ensures_bind_iff
    {procedure : Procedure α} {next : α → Procedure β}
    {after : List Exchange → β → Prop} :
    (procedure.bind next).Ensures after ↔
      procedure.Ensures fun trace value =>
        (next value).Ensures fun later result =>
          after (trace ++ later) result := by
  induction procedure generalizing after with
  | done value => simp [Ensures]
  | ask request resume ih =>
      constructor
      · intro ensures reply
        exact ih reply |>.mp (ensures reply)
      · intro ensures reply
        exact ih reply |>.mpr (ensures reply)

/-- What a procedure ensures holds of each of its runs. -/
theorem Ensures.run {procedure : Procedure α} {after : List Exchange → α → Prop}
    (ensures : procedure.Ensures after) (surroundings : Surroundings σ)
    (state : σ) :
    after (procedure.run surroundings state).trace
      (procedure.run surroundings state).value := by
  induction procedure generalizing after state with
  | done value => exact ensures
  | ask request resume ih =>
      exact ih (surroundings.reply request state).1
        (ensures (surroundings.reply request state).1)
        (surroundings.reply request state).2

end Procedure

theorem Invocation.result_eq_ok_iff {invocation : Invocation}
    {options : RunOptions} {reply : Except SystemError CommandOutput}
    {output : CommandOutput} :
    invocation.result options reply = .ok output ↔
      reply = .ok output ∧
      (options.check = true → output.isSuccess = true) := by
  cases reply with
  | error cause => simp [result]
  | ok own =>
      by_cases fails : options.check = true ∧ own.isSuccess = false
      · have stops : (options.check && !own.isSuccess) = true := by simp [fails]
        simp only [result, checked, stops]
        grind
      · have passes : (options.check && !own.isSuccess) = false := by
          simpa using fails
        simp only [result, checked, passes]
        grind

/-- A command fails if it does not start, or for its exit code. -/
theorem Invocation.result_eq_error_iff {invocation : Invocation}
    {options : RunOptions} {reply : Except SystemError CommandOutput}
    {failure : Failure} :
    invocation.result options reply = .error failure ↔
      (∃ cause, reply = .error cause ∧
        failure = .notStarted invocation.program cause) ∨
        ∃ output, reply = .ok output ∧ options.check = true ∧
          output.isSuccess = false ∧
          failure = .commandFailed invocation.text output.exitCode
            output.stderr? := by
  constructor
  · intro failed
    cases reply with
    | error cause =>
        cases failed
        exact .inl ⟨cause, rfl, rfl⟩
    | ok output =>
        rw [result, checked] at failed
        split at failed
        case isTrue stops =>
          cases failed
          obtain ⟨isChecked, notSuccess⟩ := Bool.and_eq_true_iff.mp stops
          exact .inr ⟨output, rfl, isChecked, by simpa using notSuccess, rfl⟩
        case isFalse => cases failed
  · rintro (⟨cause, rfl, rfl⟩ | ⟨output, rfl, isChecked, notSuccess, rfl⟩)
    · rfl
    · simp [result, checked, isChecked, notSuccess]

namespace Operation

/-- Whatever the replies are, `after` holds of the trace and of the result. -/
def Ensures (operation : Operation α)
    (after : List Exchange → Except Failure α → Prop) : Prop :=
  operation.toProcedure.Ensures after

section Rules

variable {operation : Operation α} {next : α → Operation β}
  {after : List Exchange → Except Failure α → Prop}

theorem Ensures.mono {later : List Exchange → Except Failure α → Prop}
    (ensures : Ensures operation after)
    (weaker : ∀ trace result, after trace result → later trace result) :
    Ensures operation later :=
  Procedure.Ensures.mono ensures weaker

theorem Ensures.and {left right : List Exchange → Except Failure α → Prop}
    (leftEnsures : Ensures operation left)
    (rightEnsures : Ensures operation right) :
    Ensures operation fun trace result => left trace result ∧
    right trace result :=
  Procedure.Ensures.and leftEnsures rightEnsures

theorem ensures_pure {value : α} (holds : after [] (.ok value)) :
    Ensures (pure value) after :=
  holds

theorem ensures_throw {failure : Failure} (holds : after [] (.error failure)) :
    Ensures (throw failure : Operation α) after :=
  holds

theorem ensures_request {asked : Request}
    {after : List Exchange → Except Failure asked.Reply → Prop}
    (holds : ∀ reply : asked.Reply, after [⟨asked, reply⟩] (.ok reply)) :
    Ensures (request asked) after :=
  holds

/-- A failure of the first part is the result of both; otherwise the second part
goes on where the first one has come to. -/
theorem ensures_bind {after : List Exchange → Except Failure β → Prop}
    (ensures : Ensures operation fun trace result =>
      match result with
      | .error failure => after trace (.error failure)
      | .ok value =>
        Ensures (next value) fun later result =>
          after (trace ++ later) result) :
    Ensures (operation >>= next) after := by
  apply Procedure.ensures_bind_iff.mpr
  apply Procedure.Ensures.mono ensures
  intro trace result holds
  cases result with
  | error failure =>
      -- Nothing is carried out any more.
      show after (trace ++ []) (.error failure)
      simpa using holds
  | ok value => exact holds

/-- The same, from what the first part is known to ensure. -/
theorem Ensures.bind {between : List Exchange → Except Failure α → Prop}
    {after : List Exchange → Except Failure β → Prop}
    (first : Ensures operation between) (stops : ∀ trace failure,
      between trace (.error failure) → after trace (.error failure))
    (goesOn : ∀ trace value, between trace (.ok value) →
      Ensures (next value) fun later result => after (trace ++ later) result) :
    Ensures (operation >>= next) after := by
  apply ensures_bind
  apply Ensures.mono first
  intro trace result holds
  cases result with
  | error failure => exact stops trace failure holds
  | ok value => exact goesOn trace value holds

theorem ensures_result
    {after : List Exchange → Except Failure (Except Failure α) → Prop}
    (ensures : Ensures operation fun trace result => after trace (.ok result)) :
    Ensures (result operation) after := by
  apply Procedure.ensures_bind_iff.mpr
  apply Procedure.Ensures.mono ensures
  intro trace result holds
  show after (trace ++ []) (.ok result)
  simpa using holds

theorem ensures_ofResult {outcome : Except Failure α}
    (holds : after [] outcome) :
    Ensures (ofResult outcome) after := by
  cases outcome with
  | error failure => exact holds
  | ok value => exact holds

theorem ensures_invoke {invocation : Invocation} {options : RunOptions}
    {after : List Exchange → Except Failure CommandOutput → Prop}
    (holds : ∀ reply, after [⟨.run invocation options, reply⟩]
      (invocation.result options reply)) :
    Ensures (invoke invocation options) after :=
  ensures_bind (ensures_request fun reply => ensures_ofResult (holds reply))

theorem ensures_announce {event : Event}
    {after : List Exchange → Except Failure Unit → Prop}
    (holds : after [⟨.announce event, ()⟩] (.ok ())) :
    Ensures (announce event) after :=
  ensures_request fun _ => holds

/-- A step ends at its command if that fails. -/
theorem ensures_step {action : Action}
    {target : String} {invocation : Invocation}
    {after : List Exchange → Except Failure Unit → Prop}
    (failed : ∀ reply failure, invocation.result .checked reply =
      .error failure →
      after [⟨.announce (.started action target), ()⟩,
        ⟨.run invocation .checked, reply⟩]
        (.error failure))
    (succeeded : ∀ reply output, invocation.result .checked reply = .ok output →
      after [⟨.announce (.started action target), ()⟩,
        ⟨.run invocation .checked, reply⟩,
        ⟨.announce (.finished action target), ()⟩] (.ok ())) :
    Ensures (step action target invocation) after := by
  apply ensures_bind
  apply ensures_announce
  apply ensures_bind
  apply ensures_invoke
  intro reply
  cases result : invocation.result .checked reply with
  | error failure => exact failed reply failure result
  | ok output => exact ensures_announce (succeeded reply output result)

/-- Consent that is not given because nobody answers stops the operation. -/
theorem ensures_consent {question : String} {next : Bool → Operation α}
    (unanswered : ∀ reason,
      after [⟨.confirm question false, .error reason⟩]
        (.error (.prompt reason)))
    (answered : ∀ answer, Ensures (next answer) fun later result =>
      after (⟨.confirm question false, .ok answer⟩ :: later) result) :
    Ensures (consent question >>= next) after := by
  apply ensures_bind
  apply ensures_bind
  apply ensures_request
  intro reply
  cases reply with
  | error reason => exact ensures_throw (unanswered reason)
  | ok answer => exact ensures_pure (answered answer)

end Rules

/-- What an operation ensures holds of each of its runs. -/
theorem Ensures.run {operation : Operation α}
    {after : List Exchange → Except Failure α → Prop}
    (ensures : Ensures operation after) (surroundings : Surroundings σ)
    (state : σ) :
    after (operation.toProcedure.run surroundings state).trace
      (operation.toProcedure.run surroundings state).value :=
  Procedure.Ensures.run ensures surroundings state

end Operation

end ClusterConsole
