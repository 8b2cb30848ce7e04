import ClusterConsole.Proofs.Console.Interrupts
import ClusterConsole.Proofs.Procedure.Ensures

/-!
# Pauses

A pause is slept in slices, which are what a loop sleeps that takes each slice
off the time that is left.  What is slept is the beginning of these slices, and
all of them unless there is an interrupt; no slice begins after one.
-/

namespace ClusterConsole

namespace Display

open Operation

/-! ## Slices -/

theorem slices_of_pos {period : Nat} (isLeft : 0 < period) :
    slices period = min period slice :: slices (period - min period slice) := by
  by_cases short : period < slice
  · have quotient : period / slice = 0 := Nat.div_eq_of_lt short
    have remainder : period % slice = period := Nat.mod_eq_of_lt short
    have none : slices 0 = [] := rfl
    rw [Nat.min_eq_left (Nat.le_of_lt short), Nat.sub_self, none, slices,
      quotient, remainder, if_neg (by omega)]
    rfl
  · have enough : slice ≤ period := Nat.not_lt.mp short
    have quotient : period / slice = (period - slice) / slice + 1 :=
      Nat.div_eq_sub_div (by decide) enough
    have remainder : period % slice = (period - slice) % slice :=
      Nat.mod_eq_sub_mod enough
    rw [Nat.min_eq_right enough, slices, quotient, remainder,
      List.replicate_succ, List.cons_append, slices]

theorem slices_eq_cons {period time : Nat} {rest : List Nat}
    (split : slices period = time :: rest) :
    time = min period slice ∧ slices (period - time) = rest := by
  rcases Nat.eq_zero_or_pos period with rfl | isLeft
  · cases split
  · rw [slices_of_pos isLeft, List.cons.injEq] at split
    obtain ⟨rfl, rest⟩ := split
    exact ⟨rfl, rest⟩

/-- Each slice is as long as possible, and what it takes off the time that is
left is there. -/
theorem slices_split {period time : Nat} {early late : List Nat}
    (split : slices period = early ++ time :: late) :
    time = min (period - duration early) slice ∧
    duration early + time ≤ period := by
  induction early generalizing period with
  | nil =>
      obtain ⟨rfl, -⟩ := slices_eq_cons split
      have nothing : duration [] = 0 := rfl
      rw [nothing, Nat.sub_zero, Nat.zero_add]
      exact ⟨rfl, Nat.min_le_left ..⟩
  | cons first early ih =>
      obtain ⟨rfl, later⟩ := slices_eq_cons split
      obtain ⟨isLongest, fits⟩ := ih later
      have whole : duration (min period slice :: early) = min period slice +
        duration early := rfl
      have possible : min period slice ≤ period := Nat.min_le_left ..
      rw [whole, isLongest]
      omega

/-- Sleeps until no time is left, or until there was an interrupt. -/
def sleepOut (left : Nat) : Operation Unit :=
  if left = 0 then return ()
  else do
    if ← display .isStopped then return ()
    display (.pause (min left slice))
    sleepOut (left - min left slice)
termination_by left
decreasing_by
  have : 0 < slice := by decide
  omega

theorem pause_slices (period : Nat) :
    pause (slices period) = sleepOut period := by
  induction period using Nat.strongRecOn with
  | _ period ih =>
      rw [sleepOut]
      split
      · rename_i none
        subst none
        rfl
      · rename_i some
        have isLeft : 0 < period := Nat.pos_of_ne_zero some
        have less : period - min period slice < period := by
          have : 0 < slice := by decide
          omega
        rw [slices_of_pos isLeft, ← ih _ less]
        rfl

/-! ## How a pause goes -/

def check (isStopped : Bool) : Exchange := ⟨.display .isStopped, isStopped⟩

def sleep (time : Nat) : Exchange := ⟨.display (.pause time), ()⟩

/-- The exchanges of a pause of some slices. -/
inductive Pauses : List Nat → List Exchange → Prop where
  | elapsed : Pauses [] []
  | cut (first : Nat) (rest : List Nat) : Pauses (first :: rest) [check true]
  | onward {first : Nat} {rest : List Nat} {trace : List Exchange}
      (goesOn : Pauses rest trace) :
      Pauses (first :: rest) (check false :: sleep first :: trace)

theorem ensures_pause (times : List Nat) :
    Ensures (pause times) fun trace result => Pauses times trace ∧
    result = .ok () := by
  induction times with
  | nil => exact ensures_pure ⟨.elapsed, rfl⟩
  | cons first rest ih =>
      apply ensures_bind
      apply ensures_request
      intro isStopped
      cases isStopped with
      | true => exact ensures_pure ⟨.cut first rest, rfl⟩
      | false =>
          apply ensures_bind
          apply ensures_request
          intro reply
          apply Ensures.mono ih
          intro trace result goes
          exact ⟨.onward goes.1, goes.2⟩

def slept? : Exchange → Option Nat
  | ⟨.display (.pause time), _⟩ => some time
  | _ => none

def slept (trace : List Exchange) : List Nat :=
  trace.filterMap slept?

theorem slept_check (isStopped : Bool) (trace : List Exchange) :
    slept (check isStopped :: trace) = slept trace := rfl

theorem slept_sleep (time : Nat) (trace : List Exchange) :
    slept (sleep time :: trace) = time :: slept trace := rfl

section Pauses

variable {times : List Nat} {trace : List Exchange}

theorem Pauses.slept_prefix (pauses : Pauses times trace) :
    slept trace <+: times := by
  induction pauses with
  | elapsed => exact List.prefix_refl []
  | cut first rest => exact List.nil_prefix
  | onward goesOn ih =>
      rw [slept_check, slept_sleep, List.prefix_cons_inj]
      exact ih

theorem Pauses.slept_eq (pauses : Pauses times trace)
    (neverStopped : check true ∉ trace) :
    slept trace = times := by
  induction pauses with
  | elapsed => rfl
  | cut first rest => simp at neverStopped
  | onward goesOn ih =>
      rw [slept_check, slept_sleep, ih (by simp_all)]

theorem Pauses.asks (pauses : Pauses times trace) :
    ∀ exchange ∈ trace, (∃ isStopped, exchange = check isStopped) ∨
      ∃ time, exchange = sleep time := by
  induction pauses with
  | elapsed => simp
  | cut first rest => simp
  | onward goesOn ih =>
      intro exchange member
      rcases List.mem_cons.mp member with rfl | member
      · exact .inl ⟨false, rfl⟩
      · rcases List.mem_cons.mp member with rfl | member
        · exact .inr ⟨_, rfl⟩
        · exact ih exchange member

end Pauses

/-- What is slept of a period: slice after slice, each as long as possible. -/
theorem Pauses.slept_split {period : Nat} {trace : List Exchange}
    (pauses : Pauses (slices period) trace) {early late : List Nat} {time : Nat}
    (split : slept trace = early ++ time :: late) :
    time = min (period - duration early) slice ∧
    duration early + time ≤ period := by
  obtain ⟨rest, whole⟩ := pauses.slept_prefix
  rw [split, List.append_assoc, List.cons_append] at whole
  exact slices_split whole.symm

theorem Pauses.duration_le {period : Nat} {trace : List Exchange}
    (pauses : Pauses (slices period) trace) :
    duration (slept trace) ≤ period := by
  obtain ⟨rest, whole⟩ := pauses.slept_prefix
  have total := duration_slices period
  rw [← whole, duration_append] at total
  omega

/-! ## Pauses and interrupts -/

/-- How a pause of some period goes. -/
structure Paused (world : Surroundings (Interruption × σ))
    (period : Nat) (start : Interruption × σ)
    (run : Run (Interruption × σ) (Except Failure Unit)) : Prop where
  value : run.value = .ok ()
  isLongest : ∀ early time late, slept run.trace = early ++ time :: late →
    time = min (period - duration early) slice ∧ duration early + time ≤ period
  atMost : duration (slept run.trace) ≤ period
  whole : run.state.1.stopped = false → duration (slept run.trace) = period
  /-- No slice begins after an interrupt. -/
  stops : EndsWithin world [] run.trace start

section Interrupts

variable {others : Surroundings σ} {arrives : Request → σ → σ → Bool}
  {times : List Nat}
  {trace : List Exchange} {state : Interruption × σ}

theorem stopped_of_check {isStopped : Bool}
    (answer : check isStopped =
      (others.withInterrupts arrives).exchange (.display .isStopped) state) :
    state.1.stopped = isStopped := by
  have same : isStopped =
      ((others.withInterrupts arrives).reply (.display .isStopped)
          state).1 := by
    simpa [check, Surroundings.exchange] using answer
  exact same.symm

theorem flags_check (timely : Timely arrives) :
    ((others.withInterrupts arrives).next (.display .isStopped) state).1 =
      state.1 :=
  Surroundings.flags_next_of_timely timely rfl rfl

theorem Pauses.endsWithin (pauses : Pauses times trace)
    (timely : Timely arrives)
    (replies : (others.withInterrupts arrives).Replies trace state) :
    EndsWithin (others.withInterrupts arrives) [] trace state := by
  induction pauses generalizing state with
  | elapsed => exact .of_deeds List.nil_suffix
  | cut first rest => exact .of_deeds List.nil_suffix
  | onward goesOn ih =>
      obtain ⟨answer, -, later⟩ := replies
      have unstopped := stopped_of_check answer
      refine .cons unstopped (.cons ?_ (ih later))
      exact (congrArg Interruption.stopped (flags_check timely)).trans unstopped

theorem Pauses.inside (pauses : Pauses times trace) :
    ∀ exchange ∈ trace, exchange.request.isBoundary = false := by
  intro exchange member
  rcases pauses.asks exchange member with ⟨isStopped, rfl⟩ | ⟨time, rfl⟩
  · rfl
  · rfl

theorem Pauses.slept_eq_of_unstopped (pauses : Pauses times trace)
    (replies : (others.withInterrupts arrives).Replies trace state)
    (unstopped :
      ((others.withInterrupts arrives).after trace state).1.stopped = false) :
    slept trace = times := by
  apply pauses.slept_eq
  intro member
  obtain ⟨early, late, rfl⟩ := List.append_of_mem member
  have stopped := stopped_of_check replies.of_append_right.1
  have stays :
      ((others.withInterrupts arrives).after (early ++ check true :: late)
          state).1.stopped =
        true := by
    rw [Surroundings.after_append]
    apply Surroundings.stopped_after _ stopped
    intro exchange inside
    exact pauses.inside exchange (List.mem_append_right early inside)
  exact absurd (stays.symm.trans unstopped) nofun

theorem run_pause (timely : Timely arrives) (period : Nat)
    (start : Interruption × σ) :
    Paused (others.withInterrupts arrives) period start
      ((pause (slices period)).toProcedure.run (others.withInterrupts arrives)
          start) := by
  have ⟨pauses, value⟩ :=
    (ensures_pause (slices period)).run (others.withInterrupts arrives) start
  have replies := Procedure.replies_run (others.withInterrupts arrives)
    (pause (slices period)).toProcedure start
  refine ⟨value, fun _ _ _ => pauses.slept_split, pauses.duration_le, ?_,
    pauses.endsWithin timely replies⟩
  intro unstopped
  rw [Procedure.state_run] at unstopped
  rw [pauses.slept_eq_of_unstopped replies unstopped, duration_slices]

end Interrupts

end Display

end ClusterConsole
