import Mathlib.Data.List.Infix
import ClusterConsole.Proofs.Console.Commands
import ClusterConsole.Proofs.Console.Pauses
import ClusterConsole.Proofs.Console.Voices

/-!
# Display loops stop cleanly

A display loop draws the frame of each fetch that succeeds before there is an
interrupt.  After an interrupt it does nothing but finish the fetch that was
going on.  It fails if and only if a fetch fails, and however it ends, the next
interrupt ends the program and the next loop begins unstopped.
-/

namespace ClusterConsole

theorem Procedure.run_writing (surroundings : Surroundings σ)
    (emissions : List Emission) (next : Procedure α) (state : σ) :
    (writing emissions next).run surroundings state =
      let writes := emissions.map Emission.exchange
      let rest := next.run surroundings (surroundings.after writes state)
      ⟨rest.value, writes ++ rest.trace, rest.state⟩ := by
  induction emissions generalizing state with
  | nil => rfl
  | cons emission emissions ih =>
      rw [writing_cons, run_ask]
      dsimp only
      rw [ih]
      rfl

namespace Operation

theorem run_request_bind (surroundings : Surroundings σ) (asked : Request)
    (next : asked.Reply → Operation β) (state : σ) :
    (request asked >>= next).toProcedure.run surroundings state =
      let rest :=
        (next (surroundings.reply asked state).1).toProcedure.run surroundings
        (surroundings.next asked state)
      ⟨rest.value, surroundings.exchange asked state :: rest.trace,
        rest.state⟩ :=
  rfl

theorem run_say_bind (surroundings : Surroundings σ) (voice : Voice)
    (messages : List Message) (next : Unit → Operation β) (state : σ) :
    (say voice messages >>= next).toProcedure.run surroundings state =
      let writes := (messages.flatMap voice.speak).map Emission.exchange
      let rest :=
        (next ()).toProcedure.run surroundings (surroundings.after writes state)
      ⟨rest.value, writes ++ rest.trace, rest.state⟩ := by
  have said : (say voice messages).toProcedure.run surroundings state =
      let writes := (messages.flatMap voice.speak).map Emission.exchange
      ⟨.ok (), writes, surroundings.after writes state⟩ := by
    refine (Procedure.run_bind _ _ state).trans ?_
    rw [Procedure.run_writing]
    dsimp only [Procedure.run_done]
    rw [List.append_nil]
    show (⟨_, _ ++ [], _⟩ : Run σ (Except Failure Unit)) = _
    rw [List.append_nil]
    rfl
  rw [run_bind, said]

end Operation

namespace Display

open Operation

/-! ## How a loop goes -/

def drawing (voice : Voice) (title text : String) : List Exchange :=
  ((frame title text).flatMap voice.speak).map Emission.exchange

/-- A loop that is not stopped in a state fetches. -/
structure Fetches (world : Surroundings (Interruption × σ))
    (fetch : Operation String) (state begun : Interruption × σ)
    (fetched : Run (Interruption × σ) (Except Failure String)) : Prop where
  unstopped : state.1.stopped = false
  begins : begun = world.next (.display .isStopped) state
  fetched : fetch.toProcedure.run world begun = fetched

/-- What comes before the pause of a round in which a frame is drawn. -/
def opening (voice : Voice) (title text : String) (fetched : List Exchange) :
    List Exchange :=
  check false :: (fetched ++ check false :: drawing voice title text)

theorem opening_append (voice : Voice) (title text : String)
    (fetched rest : List Exchange) :
    opening voice title text fetched ++ rest =
      check false :: (fetched ++ check false ::
        (drawing voice title text ++ rest)) := by
  simp [opening]

/-- The ways in which a loop goes from a state, told by the states in which its
fetches begin. -/
inductive Loops (world : Surroundings (Interruption × σ)) (voice : Voice)
    (title : String) (fetch : Operation String) :
    (horizon : Nat) → (state : Interruption × σ) →
    (begun : List (Interruption × σ)) → (trace : List Exchange) →
    (value : Except Failure Unit) →
    Prop where
  | exhausted (state : Interruption × σ) :
      Loops world voice title fetch 0 state [] [] (.ok ())
  | halted (horizon : Nat) {state : Interruption × σ}
      (stopped : state.1.stopped = true) :
      Loops world voice title fetch (horizon + 1) state [] [check true] (.ok ())
  | failed (horizon : Nat) {state begun : Interruption × σ}
      {fetched : Run (Interruption × σ) (Except Failure String)}
      {failure : Failure}
      (fetches : Fetches world fetch state begun fetched)
      (fails : fetched.value = .error failure) :
      Loops world voice title fetch (horizon + 1) state [begun]
        (check false :: fetched.trace) (.error failure)
  | dropped (horizon : Nat) {state begun : Interruption × σ}
      {fetched : Run (Interruption × σ) (Except Failure String)} {text : String}
      (fetches : Fetches world fetch state begun fetched)
      (succeeds : fetched.value = .ok text)
      (stopped : fetched.state.1.stopped = true) :
      Loops world voice title fetch (horizon + 1) state [begun]
        (check false :: (fetched.trace ++ [check true])) (.ok ())
  | drawn {horizon : Nat} {state begun : Interruption × σ}
      {fetched : Run (Interruption × σ) (Except Failure String)} {text : String}
      {naps rest : List Exchange} {later : List (Interruption × σ)}
      {value : Except Failure Unit}
      (fetches : Fetches world fetch state begun fetched)
      (succeeds : fetched.value = .ok text)
      (unstopped : fetched.state.1.stopped = false)
      (pauses : Pauses (slices refresh) naps)
      (replies : world.Replies naps
          (world.after (opening voice title text fetched.trace) state))
      (goesOn : Loops world voice title fetch horizon
        (world.after (opening voice title text fetched.trace ++ naps) state)
          later rest value) :
      Loops world voice title fetch (horizon + 1) state (begun :: later)
        (opening voice title text fetched.trace ++ (naps ++ rest)) value

theorem Fetches.after_trace {world : Surroundings (Interruption × σ)}
    {fetch : Operation String} {state begun : Interruption × σ}
    {fetched : Run (Interruption × σ) (Except Failure String)}
    (fetches : Fetches world fetch state begun fetched) :
    world.after (check false :: fetched.trace) state = fetched.state := by
  obtain ⟨-, rfl, rfl⟩ := fetches
  exact (Procedure.state_run world fetch.toProcedure _).symm

theorem Fetches.after_opening {world : Surroundings (Interruption × σ)}
    {fetch : Operation String} {state begun : Interruption × σ}
    {fetched : Run (Interruption × σ) (Except Failure String)}
    (fetches : Fetches world fetch state begun fetched) (voice : Voice)
    (title text : String) :
    world.after (opening voice title text fetched.trace) state =
      world.after (drawing voice title text)
        (world.next (.display .isStopped) fetched.state) := by
  rw [← fetches.after_trace, opening, ← List.cons_append,
    Surroundings.after_append]
  rfl

theorem frames_succ (voice : Voice) (title : String) (fetch : Operation String)
    (horizon : Nat) :
    frames voice title fetch (horizon + 1) =
      display .isStopped >>= fun isStopped =>
        if isStopped = true then pure () else
          fetch >>= fun text =>
            display .isStopped >>= fun isStopped =>
              if isStopped = true then pure () else
                say voice (frame title text) >>= fun _ =>
                  pause (slices refresh) >>= fun _ =>
                    frames voice title fetch horizon :=
  rfl

section Interrupts

variable {others : Surroundings σ} {arrives : Request → σ → σ → Bool}

theorem run_check_bind (next : Bool → Operation β) (state : Interruption × σ) :
    (display .isStopped >>= next).toProcedure.run
        (others.withInterrupts arrives) state =
      let rest :=
        (next state.1.stopped).toProcedure.run (others.withInterrupts arrives)
          ((others.withInterrupts arrives).next (.display .isStopped) state)
      ⟨rest.value, check state.1.stopped :: rest.trace, rest.state⟩ :=
  rfl

theorem loops_frames (voice : Voice) (title : String) (fetch : Operation String)
    (horizon : Nat) (state : Interruption × σ) :
    let run := (frames voice title fetch horizon).toProcedure.run
      (others.withInterrupts arrives) state
    ∃ begun, Loops (others.withInterrupts arrives) voice title fetch horizon
      state begun run.trace run.value := by
  induction horizon generalizing state with
  | zero => exact ⟨[], .exhausted state⟩
  | succ horizon ih =>
      rw [frames_succ, run_check_bind]
      cases stopped : state.1.stopped with
      | true => exact ⟨[], .halted horizon stopped⟩
      | false =>
          dsimp only
          rw [if_neg Bool.false_ne_true, run_bind]
          generalize fetched : fetch.toProcedure.run
            (others.withInterrupts arrives)
            ((others.withInterrupts arrives).next (.display .isStopped) state) =
              run
          have fetches :
              Fetches (others.withInterrupts arrives) fetch state _ run :=
            ⟨stopped, rfl, fetched⟩
          dsimp only
          cases succeeds : run.value with
          | error failure => exact ⟨_, .failed horizon fetches succeeds⟩
          | ok text =>
              dsimp only
              rw [run_check_bind]
              cases stoppedMeanwhile : run.state.1.stopped with
              | true =>
                exact ⟨_, .dropped horizon fetches succeeds stoppedMeanwhile⟩
              | false =>
                  rw [if_neg Bool.false_ne_true, run_say_bind]
                  dsimp only
                  rw [run_bind]
                  dsimp only
                  -- The pause begins where the opening of the round ends.
                  have drawn := fetches.after_opening voice title text
                  rw [drawing] at drawn
                  rw [← drawn]
                  have ⟨pauses, value⟩ := (ensures_pause (slices refresh)).run
                    (others.withInterrupts arrives)
                      ((others.withInterrupts arrives).after
                      (opening voice title text run.trace) state)
                  have replies := Procedure.replies_run
                    (others.withInterrupts arrives)
                    (pause (slices refresh)).toProcedure
                    ((others.withInterrupts arrives).after
                      (opening voice title text run.trace) state)
                  rw [value, Procedure.state_run, ← Surroundings.after_append]
                  obtain ⟨later, goesOn⟩ := ih _
                  have whole := Loops.drawn fetches succeeds stoppedMeanwhile
                    pauses replies goesOn
                  rw [opening_append] at whole
                  exact ⟨_, whole⟩

/-! ## What becomes of the fetches -/

/-- The text of the frame that is drawn after the fetch that begins in a
state. -/
def shown? (world : Surroundings (Interruption × σ)) (fetch : Operation String)
    (begun : Interruption × σ) : Option String :=
  let fetched := fetch.toProcedure.run world begun
  if fetched.state.1.stopped then none else fetched.value.toOption

theorem shown?_eq_some {world : Surroundings (Interruption × σ)}
    {fetch : Operation String} {state begun : Interruption × σ}
    {fetched : Run (Interruption × σ) (Except Failure String)}
    {text : String} (fetches : Fetches world fetch state begun fetched)
    (succeeds : fetched.value = .ok text)
    (unstopped : fetched.state.1.stopped = false) :
    shown? world fetch begun = some text := by
  rw [shown?, fetches.fetched, succeeds, unstopped]
  rfl

theorem shown?_eq_none {world : Surroundings (Interruption × σ)}
    {fetch : Operation String} {state begun : Interruption × σ}
    {fetched : Run (Interruption × σ) (Except Failure String)}
    (fetches : Fetches world fetch state begun fetched)
    (isLast : (∃ failure, fetched.value = .error failure) ∨
      fetched.state.1.stopped = true) :
    shown? world fetch begun = none := by
  rw [shown?, fetches.fetched]
  rcases isLast with ⟨failure, fails⟩ | stopped
  · rw [fails]
    exact ite_self none
  · rw [stopped]
    rfl

/-- What a loop does with the fetch that begins in a state: it fetches, and
draws the frame. -/
def round (world : Surroundings (Interruption × σ)) (voice : Voice)
    (title : String) (fetch : Operation String) (begun : Interruption × σ) :
    List Exchange :=
  (fetch.toProcedure.run world begun).trace ++
    (shown? world fetch begun).toList.flatMap (drawing voice title)

theorem drawing_writes {voice : Voice} {title text : String}
    {exchange : Exchange} (member : exchange ∈ drawing voice title text) :
    exchange.request.isDisplay = false ∧
    exchange.request.takesTime = false := by
  obtain ⟨emission, -, rfl⟩ := List.mem_map.mp member
  exact ⟨rfl, rfl⟩

theorem flags_drawing (timely : Timely arrives) (voice : Voice)
    (title text : String) (state : Interruption × σ) :
    ((others.withInterrupts arrives).after (drawing voice title text)
      ((others.withInterrupts arrives).next (.display .isStopped) state)).1 =
        state.1 := by
  rw [Surroundings.flags_after_of_timely timely]
  · exact flags_check timely
  · intro exchange member
    exact Request.isBoundary_of_isDisplay (drawing_writes member).1
  · intro exchange member
    exact (drawing_writes member).2

section Loops

variable {voice : Voice} {title : String} {fetch : Operation String}
  {horizon : Nat}
  {state : Interruption × σ} {begun : List (Interruption × σ)}
  {trace : List Exchange}
  {value : Except Failure Unit}

theorem Fetches.isDisplay
    (asksOutside : AsksOnly (fun asked => asked.isOutside = true) fetch)
    {world : Surroundings (Interruption × σ)} {own : Interruption × σ}
    {fetched : Run (Interruption × σ) (Except Failure String)}
    (fetches : Fetches world fetch state own fetched) :
    ∀ exchange ∈ fetched.trace, exchange.request.isDisplay = false := by
  intro exchange member
  rw [← fetches.fetched] at member
  exact Request.isDisplay_of_isOutside
    (asksOutside.run world own exchange member)

/-- The first fetch of a loop has its place there, and begins unstopped. -/
theorem Fetches.began (timely : Timely arrives) {own : Interruption × σ}
    {fetched : Run (Interruption × σ) (Except Failure String)}
    (fetches : Fetches (others.withInterrupts arrives) fetch state own fetched)
    (rest : List Exchange) :
    own.1.stopped = false ∧ ∃ early late,
      check false :: (fetched.trace ++ rest) =
        early ++ (fetch.toProcedure.run (others.withInterrupts arrives)
            own).trace ++ late ∧
        own = (others.withInterrupts arrives).after early state := by
  constructor
  · rw [fetches.begins, flags_check timely]
    exact fetches.unstopped
  · exact ⟨[check false], rest, by rw [fetches.fetched]; rfl, fetches.begins⟩

theorem Loops.began
    (loops : Loops (others.withInterrupts arrives) voice title fetch horizon
      state begun trace value) (timely : Timely arrives) :
    ∀ own ∈ begun, own.1.stopped = false ∧ ∃ early late,
      trace = early ++ (fetch.toProcedure.run (others.withInterrupts arrives)
          own).trace ++ late ∧
        own = (others.withInterrupts arrives).after early state := by
  induction loops with
  | exhausted => nofun
  | halted => nofun
  | failed horizon fetches fails =>
      intro own member
      cases List.mem_singleton.mp member
      have first := fetches.began timely []
      rwa [List.append_nil] at first
  | dropped horizon fetches succeeds stopped =>
      intro own member
      cases List.mem_singleton.mp member
      exact fetches.began timely _
  | drawn fetches succeeds unstopped pauses replies goesOn ih =>
      intro own member
      rcases List.mem_cons.mp member with rfl | isLater
      · rw [opening_append]
        exact fetches.began timely _
      · obtain ⟨unstoppedThen, early, late, rfl, place⟩ := ih own isLater
        refine ⟨unstoppedThen, _, late, ?_,
          place.trans (Surroundings.after_append ..).symm⟩
        simp only [List.append_assoc]

theorem outward_opening {text : String} {fetched : List Exchange}
    (outside : ∀ exchange ∈ fetched, exchange.request.isDisplay = false) :
    outward (opening voice title text fetched) = fetched ++
      drawing voice title text := by
  show outward (fetched ++ ([check false] ++ drawing voice title text)) = _
  rw [outward_append, outward_append, outward_eq_self outside,
    outward_eq_self fun exchange member => (drawing_writes member).1]
  rfl

theorem Pauses.outward_eq_nil {times : List Nat} {naps : List Exchange}
    (pauses : Pauses times naps) : outward naps = [] := by
  apply ClusterConsole.outward_eq_nil
  intro exchange member
  rcases pauses.asks exchange member with ⟨isStopped, rfl⟩ | ⟨time, rfl⟩
  · rfl
  · rfl

theorem Loops.outward_eq {world : Surroundings (Interruption × σ)}
    (loops : Loops world voice title fetch horizon state begun trace value)
    (asksOutside : AsksOnly (fun asked => asked.isOutside = true) fetch) :
    outward trace = begun.flatMap (round world voice title fetch) := by
  induction loops with
  | exhausted => rfl
  | halted => rfl
  | failed horizon fetches fails =>
      have own := outward_eq_self (fetches.isDisplay asksOutside)
      have undrawn := shown?_eq_none fetches (.inl ⟨_, fails⟩)
      rw [List.flatMap_singleton, round, undrawn, fetches.fetched]
      exact own.trans (List.append_nil _).symm
  | dropped horizon fetches succeeds stopped =>
      have own := outward_eq_self (fetches.isDisplay asksOutside)
      have undrawn := shown?_eq_none fetches (.inr stopped)
      rw [List.flatMap_singleton, round, undrawn, fetches.fetched]
      exact (outward_append _ _).trans (congrArg (· ++ []) own)
  | drawn fetches succeeds unstopped pauses replies goesOn ih =>
      have isDrawn := shown?_eq_some fetches succeeds unstopped
      rw [outward_append, outward_append,
        outward_opening (fetches.isDisplay asksOutside), pauses.outward_eq_nil,
        ih, List.flatMap_cons, round, isDrawn, fetches.fetched]
      simp

theorem Loops.shown_of_dropLast {world : Surroundings (Interruption × σ)}
    (loops : Loops world voice title fetch horizon state begun trace value) :
    ∀ own ∈ begun.dropLast, (shown? world fetch own).isSome = true := by
  induction loops with
  | exhausted => nofun
  | halted => nofun
  | failed => nofun
  | dropped => nofun
  | @drawn _ _ _ _ _ _ _ later _ fetches succeeds unstopped pauses replies
    goesOn ih =>
      intro own member
      cases later with
      | nil => cases member
      | cons next later =>
          rcases List.mem_cons.mp member with rfl | isLater
          · rw [shown?_eq_some fetches succeeds unstopped]
            rfl
          · exact ih own isLater

theorem Loops.error_iff {world : Surroundings (Interruption × σ)}
    (loops : Loops world voice title fetch horizon state begun trace value)
    (failure : Failure) :
    value = .error failure ↔
      ∃ own ∈ begun, (fetch.toProcedure.run world own).value =
        .error failure := by
  induction loops with
  | exhausted => simp
  | halted => simp
  | failed horizon fetches fails => simp [fetches.fetched, fails]
  | dropped horizon fetches succeeds stopped => simp [fetches.fetched, succeeds]
  | drawn fetches succeeds unstopped pauses replies goesOn ih =>
      simp [ih, fetches.fetched, succeeds]

theorem Loops.ended
    (loops : Loops (others.withInterrupts arrives) voice title fetch horizon
      state begun trace value) (timely : Timely arrives)
      (succeeds : value = .ok ()) :
    ((others.withInterrupts arrives).after trace state).1.stopped = true ∨
      begun.length = horizon := by
  induction loops with
  | exhausted => exact .inr rfl
  | halted horizon stopped =>
      left
      show ((others.withInterrupts arrives).next (.display .isStopped)
          _).1.stopped = true
      rw [flags_check timely]
      exact stopped
  | failed => cases succeeds
  | dropped horizon fetches hasText stopped =>
      left
      rw [← List.cons_append, Surroundings.after_append, fetches.after_trace]
      show ((others.withInterrupts arrives).next (.display .isStopped)
          _).1.stopped = true
      rw [flags_check timely]
      exact stopped
  | drawn fetches hasText unstopped pauses replies goesOn ih =>
      rw [← List.append_assoc, Surroundings.after_append, List.length_cons,
        Nat.succ_inj]
      exact ih succeeds

/-- What is still done of a loop after an interrupt: the end of its last
fetch. -/
def lastFetch (world : Surroundings (Interruption × σ))
    (fetch : Operation String) (begun : List (Interruption × σ)) :
    List Exchange :=
  match begun.getLast? with
  | none => []
  | some own => (fetch.toProcedure.run world own).trace

theorem Fetches.lastFetch_eq
    {world : Surroundings (Interruption × σ)} {own : Interruption × σ}
    {fetched : Run (Interruption × σ) (Except Failure String)}
    (fetches : Fetches world fetch state own fetched) :
    lastFetch world fetch [own] = fetched.trace :=
  congrArg Run.trace fetches.fetched

theorem Fetches.deeds_eq {world : Surroundings (Interruption × σ)}
    {own : Interruption × σ}
    {fetched : Run (Interruption × σ) (Except Failure String)}
    (fetches : Fetches world fetch state own fetched)
    (asksOutside : AsksOnly (fun asked => asked.isOutside = true) fetch) :
    deeds (check false :: fetched.trace) = fetched.trace :=
  deeds_eq_self (fetches.isDisplay asksOutside)

theorem lastFetch_suffix (world : Surroundings (Interruption × σ))
    (fetch : Operation String) (own : Interruption × σ)
    (later : List (Interruption × σ)) :
    lastFetch world fetch later <:+ lastFetch world fetch (own :: later) := by
  cases later with
  | nil => exact List.nil_suffix
  | cons next later =>
      rw [lastFetch, lastFetch, List.getLast?_cons_cons]

theorem Fetches.inside_opening
    {world : Surroundings (Interruption × σ)} {own : Interruption × σ}
    {fetched : Run (Interruption × σ) (Except Failure String)}
    (fetches : Fetches world fetch state own fetched)
    (asksOutside : AsksOnly (fun asked => asked.isOutside = true) fetch)
    (text : String) :
    ∀ exchange ∈ opening voice title text fetched.trace,
      exchange.request.isBoundary = false := by
  intro exchange member
  rcases List.mem_cons.mp member with rfl | member
  · rfl
  rcases List.mem_append.mp member with isOwn | member
  · exact Request.isBoundary_of_isDisplay
      (fetches.isDisplay asksOutside exchange isOwn)
  rcases List.mem_cons.mp member with rfl | isDrawn
  · rfl
  · exact Request.isBoundary_of_isDisplay (drawing_writes isDrawn).1

/-- A loop that is stopped when a round begins does nothing. -/
theorem Loops.deeds_eq_nil {world : Surroundings (Interruption × σ)}
    (loops : Loops world voice title fetch horizon state begun trace value)
    (stopped : state.1.stopped = true) : deeds trace = [] := by
  cases loops with
  | exhausted => rfl
  | halted => rfl
  | failed horizon fetches fails => cases stopped.symm.trans fetches.unstopped
  | dropped horizon fetches => cases stopped.symm.trans fetches.unstopped
  | drawn fetches => cases stopped.symm.trans fetches.unstopped

theorem Loops.endsWithin
    (loops : Loops (others.withInterrupts arrives) voice title fetch
      horizon state begun trace value) (timely : Timely arrives)
    (asksOutside : AsksOnly (fun asked => asked.isOutside = true) fetch) :
    EndsWithin (others.withInterrupts arrives)
      (lastFetch (others.withInterrupts arrives) fetch begun) trace state := by
  induction loops with
  | exhausted => exact .of_deeds List.nil_suffix
  | halted => exact .of_deeds List.nil_suffix
  | failed horizon fetches fails =>
      apply EndsWithin.of_deeds
      rw [fetches.lastFetch_eq, fetches.deeds_eq asksOutside]
  | dropped horizon fetches succeeds stopped =>
      apply EndsWithin.of_deeds
      rw [fetches.lastFetch_eq, ← List.cons_append, deeds_append,
        fetches.deeds_eq asksOutside]
      show _ ++ [] <:+ _
      rw [List.append_nil]
  | @drawn _ state own fetched text naps _ _ _ fetches succeeds unstopped pauses
      replies goesOn
      ih =>
      have unstoppedThen : ((others.withInterrupts arrives).after
          (opening voice title text fetched.trace) state).1.stopped =
            false := by
        rw [fetches.after_opening, flags_drawing timely]
        exact unstopped
      apply EndsWithin.append (fetches.inside_opening asksOutside _)
        unstoppedThen
      -- An interrupt either falls into the pause, after which nothing is done,
      -- or comes later.
      rw [Surroundings.after_append] at goesOn ih
      cases stopped : ((others.withInterrupts arrives).after naps
          ((others.withInterrupts arrives).after
            (opening voice title text fetched.trace) state)).1.stopped with
      | true =>
          apply EndsWithin.append_checks _ (goesOn.deeds_eq_nil stopped)
          exact (pauses.endsWithin timely replies).mono List.nil_suffix
      | false =>
          apply EndsWithin.append pauses.inside stopped
          exact ih.mono (lastFetch_suffix ..)

end Loops

/-! ## The whole loop -/

theorem run_interruptible (surroundings : Surroundings σ)
    (body : Operation α) (state : σ) :
    (interruptible body).toProcedure.run surroundings state =
      let ran := body.toProcedure.run surroundings
        (surroundings.next (.display .begin) state)
      ⟨ran.value, ⟨.display .begin, ()⟩ ::
        (ran.trace ++ [⟨.display .finish, ()⟩]),
        surroundings.next (.display .finish) ran.state⟩ := by
  refine (run_request_bind surroundings (.display .begin) _ state).trans ?_
  dsimp only
  rw [run_bind, run_result]
  dsimp only
  generalize body.toProcedure.run surroundings _ = ran
  obtain ⟨value, trace, state⟩ := ran
  cases value with
  | error failure => rfl
  | ok value => rfl

/-- How a loop goes from a state, told by the states in which its fetches
begin. -/
structure Watched (world : Surroundings (Interruption × σ)) (voice : Voice)
    (title : String) (fetch : Operation String) (horizon : Nat)
    (state : Interruption × σ) (begun : List (Interruption × σ))
    (trace : List Exchange) (value : Except Failure Unit) :
    Prop where
  /-- Each fetch has its place, and does not begin after an interrupt. -/
  began : ∀ own ∈ begun, own.1.stopped = false ∧ ∃ early late,
    trace = early ++ (fetch.toProcedure.run world own).trace ++ late ∧
      own = world.after early state
  /-- Nothing else is done but to fetch, and to draw what is shown. -/
  outward : outward trace = begun.flatMap (round world voice title fetch)
  /-- Each fetch but the last one is shown. -/
  shown : ∀ own ∈ begun.dropLast, (shown? world fetch own).isSome = true
  failed : ∀ failure, value = .error failure ↔
    ∃ own ∈ begun, (fetch.toProcedure.run world own).value = .error failure
  ended : value = .ok () → (world.after trace state).1.stopped = true ∨
    begun.length = horizon
  /-- After an interrupt only the last fetch comes to its end. -/
  stops : EndsWithin world (lastFetch world fetch begun) trace state

/-- What display loops are like in surroundings with interrupts. -/
structure StopsCleanly (world : Surroundings (Interruption × σ)) : Prop where
  watched : ∀ voice horizon title fetch start,
    AsksOnly (fun asked => asked.isOutside = true) fetch →
    ∃ begun body,
      ((watch voice horizon title fetch).toProcedure.run world start).trace =
        ⟨.display .begin, ()⟩ :: (body ++ [⟨.display .finish, ()⟩]) ∧
      Watched world voice title fetch horizon
        (world.next (.display .begin) start) begun body
        ((watch voice horizon title fetch).toProcedure.run world start).value
  /-- However a loop ends, its flags are cleared. -/
  cleared : ∀ {α : Type} (body : Operation α) start,
    ((interruptible body).toProcedure.run world start).state.1 = .idle
  /-- An interrupt outside a loop is not taken for one inside. -/
  outside : ∀ trace state, state.1 = .idle →
    (∀ exchange ∈ trace, exchange.request ≠ .display .begin) →
    (world.after trace state).1 = .idle
  begins : ∀ start, (world.next (.display .begin) start).1 = ⟨true, false⟩
  paused : ∀ period start, pause (slices period) = sleepOut period ∧
    Paused world period start
      ((pause (slices period)).toProcedure.run world start)

theorem stopsCleanly (others : Surroundings σ)
    {arrives : Request → σ → σ → Bool} (timely : Timely arrives) :
    StopsCleanly (others.withInterrupts arrives) where
  watched voice horizon title fetch start asksOutside := by
    obtain ⟨begun, loops⟩ := loops_frames voice title fetch horizon
      ((others.withInterrupts arrives).next (.display .begin) start)
    rw [watch, run_interruptible]
    exact ⟨begun, _, rfl, loops.began timely, loops.outward_eq asksOutside,
      loops.shown_of_dropLast, loops.error_iff, loops.ended timely,
      loops.endsWithin timely asksOutside⟩
  cleared body start := by
    rw [run_interruptible]
    exact Surroundings.flags_finish
  outside trace state idle outside := Surroundings.idle_after outside idle
  begins start := Surroundings.flags_begin timely
  paused period start := ⟨pause_slices period, run_pause timely period start⟩

theorem timely_rehearsal : Timely Rehearsal.arrives := by
  intro asked before after isLate
  cases asked with
  | run => rfl
  | display request =>
      cases request with
      | pause => rfl
      | _ => cases isLate
  | _ => cases isLate

/-- The control plane answers, and an interrupt arrives in the pause after its
answer. -/
def interruptedInPause : Rehearsal :=
  { Rehearsal.ofScript (Script.empty.cue
      ⟨.start ["kubectl", "get", "pods,svc,ingress,hpa"],
        ⟨0, "pod/web\n", some ""⟩⟩) with
    interrupts := [⟨["kubectl", "get"], .afterwards⟩] }

/-- One frame is drawn, although there might have been three. -/
theorem stopsCleanly_interruptedInPause :
    let world := Rehearsal.performers.withInterrupts Rehearsal.arrives
    let run := (watch Settings.plain.voice 3 "Status"
        (status .standard)).toProcedure.run world
      (.idle, interruptedInPause)
    run.value = .ok () ∧
      run.state.2.output =
        "\x1b[2J\x1b[1;1H\nStatus (Ctrl+C to exit)\n  pod/web\n" ∧
      run.state.1 = .idle ∧
      ∃ begun body, run.trace = ⟨.display .begin, ()⟩ ::
        (body ++ [⟨.display .finish, ()⟩]) ∧
        Watched world Settings.plain.voice "Status" (status .standard) 3
          (world.next (.display .begin) (.idle, interruptedInPause)) begun body
            run.value := by
  have clean := stopsCleanly Rehearsal.performers timely_rehearsal
  have asksOutside :
      AsksOnly (fun asked => asked.isOutside = true) (status .standard) :=
    asksOnly_snapshot rfl
  exact ⟨rfl, rfl, clean.cleared _ _, clean.watched _ _ _ _ _ asksOutside⟩

end Interrupts

end Display

end ClusterConsole
