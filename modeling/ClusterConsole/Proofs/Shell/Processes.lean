import ClusterConsole.Shell.Run

/-!
# What one process can do to another

A process that runs for another one comes to an end, and gives back the process
that it ran for as it was: neither a variable nor a directory, a stream or a
trap of that one is touched.  So a shell is the same after commands in
parentheses, but for the status.
-/

namespace ClusterConsole.Shell

/-- An ending that a system can tell: a code is one byte. -/
def Ending.IsPossible : Ending → Prop
  | .exited code => code < 256
  | .killed _ => True

namespace Action

variable {α β : Type}

/-- What an action comes to in a state, and the state after it. -/
def outcome (action : Action α) (state : State) : Except Stop α × State :=
  action.run.run state

/-! ## Single actions -/

@[simp] theorem outcome_pure (value : α) (state : State) :
    outcome (pure value) state = (.ok value, state) := rfl

@[simp] theorem outcome_get (state : State) :
    outcome get state = (.ok state, state) := rfl

@[simp] theorem outcome_set (after state : State) :
    outcome (set after) state = (.ok (), after) := rfl

@[simp] theorem outcome_process (state : State) :
    outcome process state = (.ok state.process, state) := rfl

@[simp] theorem outcome_files (state : State) :
    outcome files state =
      (.ok { state.system.files with working := state.process.working },
        state) := rfl

@[simp] theorem outcome_modifyProcess (change : Process → Process)
    (state : State) :
    outcome (modifyProcess change) state =
      (.ok (), { state with process := change state.process }) := rfl

@[simp] theorem outcome_caught (action : Action α) (state : State) :
    outcome (caught action) state =
      (.ok (outcome action state).1, (outcome action state).2) := rfl

theorem outcome_bind (action : Action α) (next : α → Action β) (state : State) :
    outcome (action >>= next) state =
      match outcome action state with
      | (.ok value, after) => outcome (next value) after
      | (.error stop, after) => (.error stop, after) := by
  unfold outcome
  rw [ExceptT.run_bind, StateT.run_bind]
  rcases StateT.run (ExceptT.run action) state
    with ⟨stop | value, after⟩ <;> rfl

theorem outcome_bind_ok {action : Action α} {state after : State} {value : α}
    (isOk : outcome action state = (.ok value, after)) (next : α → Action β) :
    outcome (action >>= next) state = outcome (next value) after := by
  rw [outcome_bind, isOk]

@[simp] theorem outcome_within (other : Process) (action : Action α)
    (state : State) :
    outcome (within other action) state =
      (.ok (outcome action { state with process := other }).1,
        { (outcome action { state with process := other }).2 with
          process := state.process }) := rfl

end Action

namespace Run

open Shell.Action

/-! ## The end of a process -/

/-- What comes to a possible ending without being stopped. -/
def Ends (action : Action Ending) : Prop :=
  ∀ state, ∃ ending after, outcome action state = (.ok ending, after) ∧
    ending.IsPossible

theorem ends_exited (status : Nat) : Ends (return .exited (status % 256)) :=
  fun state => ⟨_, state, rfl, Nat.mod_lt _ (by decide)⟩

theorem ends_killed (signal : Nat) : Ends (return .killed signal) :=
  fun state => ⟨_, state, rfl, trivial⟩

theorem ends_status : Ends (do return .exited ((← Action.status) % 256)) :=
  fun state => ⟨_, state, rfl, Nat.mod_lt _ (by decide)⟩

/-- After an action that nothing stops, it is the rest that counts. -/
theorem Ends.bind {α : Type} {action : Action α} {next : α → Action Ending}
    (goesOn : ∀ state, ∃ value after, outcome action state = (.ok value, after))
    (ends : ∀ value, Ends (next value)) : Ends (action >>= next) := by
  intro state
  obtain ⟨value, after, isOk⟩ := goesOn state
  rw [outcome_bind_ok isOk]
  exact ends value after

theorem ends_finish (runner : Runner) (result : Except Stop Unit) :
    Ends (finish runner result) := by
  unfold finish
  split
  · exact ends_killed _
  · refine .bind (fun state => ⟨_, _, outcome_process state⟩) fun process => ?_
    cases process.trap? Process.endOfScript with
    | none => exact ends_exited _
    | some action =>
        refine .bind (fun state => ⟨_, _, outcome_modifyProcess _ state⟩)
          fun _ => ?_
        refine .bind (fun state => ⟨_, _, outcome_caught _ state⟩)
          fun trapped => ?_
        rcases trapped with (_ | _ | _ | _ | _ | _) | _
        · exact ends_exited _
        · exact ends_exited _
        · exact ends_status
        · exact ends_status
        · exact ends_status
        · exact ends_killed _
        · exact ends_exited _

/-- What is done to the end of another process comes to a possible ending, and
to the same process as before. -/
def IsolatesIn (action : Action Ending) : Prop :=
  ∀ state, ∃ ending after, outcome action state = (.ok ending, after) ∧
    ending.IsPossible ∧ after.process = state.process

def Isolates (runner : Runner) : Prop :=
  ∀ process action, IsolatesIn (runner.process process action)

/-- What happens inside the process ends as it does before its jobs begin,
unless they stop it. -/
theorem isPossible_of_inside {runner : Runner} {action : Action Unit}
    {state : State} {ending : Ending}
    (isInside : (outcome (do
      let result ← Action.caught action
      let ending ← finish runner result
      beginOwnJobs runner
      return ending) state).1 = .ok ending) : ending.IsPossible := by
  obtain ⟨ended, after, isEnd, isPossible⟩ :=
    ends_finish runner (outcome action state).1 (outcome action state).2
  rw [outcome_bind_ok (outcome_caught action state), outcome_bind_ok isEnd,
    outcome_bind] at isInside
  rcases jobs : outcome (beginOwnJobs runner) after with ⟨stop | _, last⟩
  · rw [jobs] at isInside
    cases isInside
  · rw [jobs] at isInside
    cases isInside
    exact isPossible

theorem isolatesIn_complete (runner : Runner) (process : Process)
    (action : Action Unit) : IsolatesIn (complete runner process action) := by
  intro state
  rw [complete, outcome_bind_ok (outcome_within process _ state)]
  split
  · rename_i ending isInside
    exact ⟨ending, _, rfl, isPossible_of_inside isInside, rfl⟩
  · exact ⟨_, _, rfl, trivial, rfl⟩
  · exact ⟨_, _, rfl, show 2 < 256 by decide, rfl⟩

/-- Every process that runs for another one comes to its end apart from it,
however deep commands may nest. -/
theorem isolates_runner (fuel : Nat) : Isolates (runner fuel) := by
  cases fuel with
  | zero => exact fun _ _ state => ⟨_, state, rfl, trivial, rfl⟩
  | succ fuel => exact isolatesIn_complete (runner fuel)

/-! ## The shell that waits -/

/-- The same shell, but for what it keeps of commands that have ended. -/
def IsSameShell (before after : Process) : Prop :=
  ∃ line status substituted reaped,
    after = { before with line, status, substituted, reaped }

theorem IsSameShell.refl (process : Process) : IsSameShell process process :=
  ⟨_, _, _, _, rfl⟩

theorem IsSameShell.trans {first second third : Process}
    (before : IsSameShell first second) (after : IsSameShell second third) :
    IsSameShell first third := by
  obtain ⟨_, _, _, _, rfl⟩ := before
  obtain ⟨_, _, _, _, rfl⟩ := after
  exact ⟨_, _, _, _, rfl⟩

section KeepsShell

variable {α β : Type}

/-- An action that leaves the shell it is done in the same, however it ends. -/
def KeepsShell (action : Action α) : Prop :=
  ∀ state, IsSameShell state.process (outcome action state).2.process

theorem KeepsShell.bind {action : Action α} {next : α → Action β}
    (first : KeepsShell action) (rest : ∀ value, KeepsShell (next value)) :
    KeepsShell (action >>= next) := by
  intro state
  have isSame := first state
  rw [outcome_bind]
  revert isSame
  rcases outcome action state with ⟨stop | value, after⟩
  · exact id
  · exact fun isSame => isSame.trans (rest value after)

theorem keepsShell_pure (value : α) : KeepsShell (pure value : Action α) :=
  fun state => .refl state.process

theorem keepsShell_throw (stop : Stop) : KeepsShell (throw stop : Action α) :=
  fun state => .refl state.process

theorem keepsShell_get : KeepsShell get :=
  fun state => .refl state.process

theorem keepsShell_process : KeepsShell Action.process :=
  fun state => .refl state.process

theorem keepsShell_status : KeepsShell Action.status :=
  fun state => .refl state.process

theorem keepsShell_modifySystem (change : System → System) :
    KeepsShell (Action.modifySystem change) :=
  fun state => .refl state.process

theorem keepsShell_setStatus (status : Nat) :
    KeepsShell (Action.setStatus status) :=
  fun _ => ⟨_, _, _, _, rfl⟩

theorem keepsShell_setLine (line : Nat) : KeepsShell (setLine line) :=
  fun _ => ⟨_, _, _, _, rfl⟩

theorem keepsShell_begun : KeepsShell Action.begun :=
  fun state => .refl state.process

theorem keepsShell_openChannel (room? : Option Nat) :
    KeepsShell (Action.openChannel room?) :=
  fun state => .refl state.process

theorem keepsShell_reap : KeepsShell reap :=
  fun _ => ⟨_, _, _, _, rfl⟩

theorem keepsShell_writeTo (number : Nat) (text : String) :
    KeepsShell (Action.writeTo number text) := by
  intro state
  unfold Action.writeTo
  rw [outcome_bind_ok (outcome_get state)]
  split
  · exact .refl state.process
  · split
    · rename_i index isOpen _ system writes
      have afterwards : KeepsShell (do
          if system.isFull index then throw (.killed Signal.pipe)
          return true) := by
        split
        · exact (keepsShell_throw _).bind fun _ => keepsShell_pure true
        · exact (keepsShell_pure _).bind fun _ => keepsShell_pure true
      rw [outcome_bind_ok (outcome_set _ state)]
      exact afterwards { state with system }
    · exact .refl state.process

theorem keepsShell_report (ending : Ending) :
    KeepsShell (Action.report ending) := by
  unfold Action.report
  split
  · exact keepsShell_pure ()
  · split
    · exact keepsShell_pure ()
    · exact .bind (keepsShell_writeTo _ _) fun _ => keepsShell_pure ()

end KeepsShell

variable {runner : Runner}

theorem keepsShell_await (isolates : Isolates runner) (process : Process)
    (action : Action Unit) : KeepsShell (await runner process action) := by
  have runs : KeepsShell (runner.process process action) := by
    intro state
    obtain ⟨ending, after, isOk, -, same⟩ := isolates process action state
    rw [isOk]
    exact same ▸ .refl _
  refine runs.bind fun ending => ?_
  exact keepsShell_reap.bind fun _ =>
    (keepsShell_report ending).bind fun _ => keepsShell_pure ending

/-- Commands in parentheses change nothing in the shell around them. -/
theorem keepsShell_apart (isolates : Isolates runner) (isTested : Bool)
    (line : Nat) (body : Command) :
    KeepsShell (apart runner isTested false line body []) := by
  refine (keepsShell_setLine line).bind fun _ => ?_
  refine (keepsShell_pure []).bind fun leads => ?_
  refine keepsShell_process.bind fun process => ?_
  simp only [Bool.false_and, Bool.false_eq_true, if_false]
  refine keepsShell_begun.bind fun child => ?_
  refine (keepsShell_await isolates child _).bind fun ending => ?_
  exact keepsShell_setStatus ending.status

/-- A program that a shell waits for changes nothing in it. -/
theorem keepsShell_external (isolates : Isolates runner)
    (paths words : List String) :
    KeepsShell (external runner false paths words) := by
  refine keepsShell_process.bind fun process => ?_
  simp only [Bool.false_and, Bool.false_eq_true, if_false]
  refine keepsShell_begun.bind fun child => ?_
  refine (keepsShell_await isolates child _).bind fun ending => ?_
  exact keepsShell_setStatus ending.status

/-- What is carried out for a part of a word changes nothing in the shell of the
word. -/
theorem keepsShell_capture (isolates : Isolates runner) (command : Command) :
    KeepsShell (capture runner command) := by
  unfold capture
  split
  · exact keepsShell_pure ""
  · refine (keepsShell_openChannel none).bind fun index => ?_
    refine keepsShell_begun.bind fun child => ?_
    refine (keepsShell_await isolates _ _).bind fun ending => ?_
    refine .bind (fun _ => ⟨_, _, _, _, rfl⟩) fun _ => ?_
    refine keepsShell_get.bind fun state => ?_
    split
    · exact (keepsShell_modifySystem _).bind fun _ => keepsShell_pure _
    · exact keepsShell_pure ""

/-! ## Commands side by side -/

theorem keepsShell_firstDone {α : Type}
    {attempt : Option Nat → Action (α × Bool)}
    (keeps : ∀ room?, KeepsShell (attempt room?)) (rooms : List (Option Nat)) :
    KeepsShell (firstDone attempt rooms) := by
  induction rooms with
  | nil => exact (keeps none).bind fun result => keepsShell_pure result.1
  | cons room? rooms ih =>
      intro before
      rw [firstDone, outcome_bind_ok (outcome_get before)]
      have isSame := keeps room? before
      rw [outcome_bind]
      revert isSame
      rcases outcome (attempt room?) before
        with ⟨stop | ⟨result, isDone⟩, after⟩
      · exact id
      · intro isSame
        cases isDone with
        | true => exact isSame
        | false =>
            -- What the attempt did is forgotten.
            show IsSameShell _ (outcome (set before >>= fun _ =>
              firstDone attempt rooms) after).2.process
            rw [outcome_bind_ok (outcome_set before after)]
            exact ih before

theorem keepsShell_pipe (isolates : Isolates runner) (isTested : Bool)
    (commands : List Command) (input? : Option Nat) :
    KeepsShell (pipe runner isTested input? commands) := by
  induction commands generalizing input? with
  | nil => exact keepsShell_status.bind fun status => keepsShell_pure _
  | cons command rest ih =>
      refine keepsShell_begun.bind fun begun => ?_
      -- Whichever stream it reads from, the child is a process.
      extract_lets child
      clear_value child
      split
      · exact (keepsShell_await isolates _ _).bind fun ending =>
          keepsShell_pure _
      · refine keepsShell_firstDone (fun room? => ?_) rooms
        refine (keepsShell_openChannel room?).bind fun index => ?_
        refine (keepsShell_await isolates _ _).bind fun ending => ?_
        refine keepsShell_get.bind fun state => ?_
        refine (ih (some index)).bind fun result => ?_
        refine keepsShell_get.bind fun state => ?_
        exact keepsShell_pure _

end Run

end ClusterConsole.Shell
