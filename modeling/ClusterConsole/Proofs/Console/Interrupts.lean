import ClusterConsole.Console.Display
import ClusterConsole.Procedure.Surroundings
import ClusterConsole.Proofs.Procedure.Replies

/-!
# Interrupts

An interrupt stops the display loop that is running, and the loop then stays
stopped until it ends.  Asking whether there was an interrupt and writing take
no time, so no interrupt comes meanwhile.
-/

namespace ClusterConsole

namespace Request

/-- Whether a request is neither one of a display loop nor one to write. -/
def isOutside : Request → Bool
  | .display _ => false
  | .write _ _ => false
  | _ => true

/-- Whether a display loop begins or ends. -/
def isBoundary : Request → Bool
  | .display .begin => true
  | .display .finish => true
  | _ => false

/-- Whether it is only asked if there was an interrupt. -/
def isCheck : Request → Bool
  | .display .isStopped => true
  | _ => false

def isDisplay : Request → Bool
  | .display _ => true
  | _ => false

section Kinds

variable {asked : Request}

theorem isDisplay_of_isOutside (isOutside : asked.isOutside = true) :
    asked.isDisplay = false := by
  cases asked with
  | display request => cases isOutside
  | _ => rfl

theorem isBoundary_of_isDisplay (isOther : asked.isDisplay = false) :
    asked.isBoundary = false := by
  cases asked with
  | display request => cases isOther
  | _ => rfl

theorem isCheck_of_isDisplay (isOther : asked.isDisplay = false) :
    asked.isCheck = false := by
  cases asked with
  | display request => cases isOther
  | _ => rfl

end Kinds

/-- Whether a request of a display loop takes the time that an interrupt needs
to arrive. -/
def takesTime : Request → Bool
  | .display (.pause _) => true
  | request => request.isOutside

end Request

def Timely (arrives : Request → σ → σ → Bool) : Prop :=
  ∀ request before after, arrives request before after = true →
    request.takesTime = true

namespace Surroundings

section Flags

variable {others : Surroundings σ} {arrives : Request → σ → σ → Bool}
  {asked : Request} {state : Interruption × σ}

theorem flags_next (inside : asked.isBoundary = false) :
    ((others.withInterrupts arrives).next asked state).1 =
      if arrives asked state.2 (others.next asked state.2) then
        state.1.interrupt
      else state.1 := by
  cases asked with
  | display request =>
      cases request with
      | begin => cases inside
      | finish => cases inside
      | isStopped => rfl
      | pause nanoseconds => rfl
  | _ => rfl

theorem flags_next_of_timely (timely : Timely arrives)
    (inside : asked.isBoundary = false) (isQuick : asked.takesTime = false) :
    ((others.withInterrupts arrives).next asked state).1 = state.1 := by
  have arrivesNot :
      arrives asked state.2 (others.next asked state.2) = false := by
    cases isLate : arrives asked state.2 (others.next asked state.2) with
    | false => rfl
    | true => simp [timely _ _ _ isLate] at isQuick
  rw [flags_next inside, arrivesNot]
  rfl

theorem flags_begin (timely : Timely arrives) :
    ((others.withInterrupts arrives).next (.display .begin) state).1 =
      ⟨true, false⟩ := by
  cases isLate : arrives (.display .begin) state.2
    (others.next (.display .begin) state.2) with
  | false =>
      show (if arrives _ _ (others.next (.display .begin) state.2) then
        _ else _) = _
      rw [isLate]
      rfl
  | true => cases timely _ _ _ isLate

theorem flags_finish :
    ((others.withInterrupts arrives).next (.display .finish) state).1 =
      .idle := by
  show (if arrives _ _ (others.next (.display .finish) state.2) then
    Interruption.idle.interrupt else .idle) = .idle
  split
  · rfl
  · rfl

theorem stopped_next (inside : asked.isBoundary = false)
    (stopped : state.1.stopped = true) :
    ((others.withInterrupts arrives).next asked state).1.stopped = true := by
  rw [flags_next inside]
  split
  · simp [Interruption.interrupt, stopped]
  · exact stopped

theorem stopped_after {trace : List Exchange}
    (inside : ∀ exchange ∈ trace, exchange.request.isBoundary = false)
    (stopped : state.1.stopped = true) :
    ((others.withInterrupts arrives).after trace state).1.stopped = true := by
  induction trace generalizing state with
  | nil => exact stopped
  | cons exchange trace ih =>
      apply ih fun later member => inside later (.tail _ member)
      exact stopped_next (inside exchange (.head _)) stopped

theorem flags_after_of_timely (timely : Timely arrives) {trace : List Exchange}
    (inside : ∀ exchange ∈ trace, exchange.request.isBoundary = false)
    (isQuick : ∀ exchange ∈ trace, exchange.request.takesTime = false) :
    ((others.withInterrupts arrives).after trace state).1 = state.1 := by
  induction trace generalizing state with
  | nil => rfl
  | cons exchange trace ih =>
      refine (ih ?_ ?_).trans
        (flags_next_of_timely timely (inside exchange (.head _))
        (isQuick exchange (.head _)))
      · intro own member
        exact inside own (.tail _ member)
      · intro own member
        exact isQuick own (.tail _ member)

/-- Outside a loop no interrupt is kept for the next one. -/
theorem idle_after {trace : List Exchange}
    (outside : ∀ exchange ∈ trace, exchange.request ≠ .display .begin)
    (idle : state.1 = .idle) :
    ((others.withInterrupts arrives).after trace state).1 = .idle := by
  induction trace generalizing state with
  | nil => exact idle
  | cons exchange trace ih =>
      apply ih fun later member => outside later (.tail _ member)
      show ((others.withInterrupts arrives).next exchange.request state).1 =
        .idle
      by_cases finishes : exchange.request = .display .finish
      · rw [finishes]
        exact flags_finish
      · have inside : exchange.request.isBoundary = false := by
          have begins := outside exchange (.head _)
          unfold Request.isBoundary
          split
          · contradiction
          · contradiction
          · rfl
        rw [flags_next inside, idle]
        split
        · rfl
        · rfl

end Flags

end Surroundings

/-! ## What is done -/

/-- What is done in a trace besides what a display loop asks for. -/
def outward (trace : List Exchange) : List Exchange :=
  trace.filter fun exchange => !exchange.request.isDisplay

theorem outward_eq_self {trace : List Exchange}
    (others : ∀ exchange ∈ trace, exchange.request.isDisplay = false) :
    outward trace = trace := by
  apply List.filter_eq_self.mpr
  intro exchange member
  rw [others exchange member]
  rfl

theorem outward_eq_nil {trace : List Exchange}
    (isOwn : ∀ exchange ∈ trace, exchange.request.isDisplay = true) :
    outward trace = [] := by
  simpa [outward] using isOwn

theorem outward_append (early late : List Exchange) :
    outward (early ++ late) = outward early ++ outward late :=
  List.filter_append ..

/-- What is done in a trace besides asking whether there was an interrupt. -/
def deeds (trace : List Exchange) : List Exchange :=
  trace.filter fun exchange => !exchange.request.isCheck

theorem deeds_eq_self {trace : List Exchange}
    (others : ∀ exchange ∈ trace, exchange.request.isDisplay = false) :
    deeds trace = trace := by
  apply List.filter_eq_self.mpr
  intro exchange member
  rw [Request.isCheck_of_isDisplay (others exchange member)]
  rfl

theorem deeds_append (early late : List Exchange) :
    deeds (early ++ late) = deeds early ++ deeds late :=
  List.filter_append ..

/-- Once there was an interrupt, nothing is done any more but the end of what is
`allowed`. -/
def EndsWithin (world : Surroundings (Interruption × σ))
    (allowed trace : List Exchange) (state : Interruption × σ) : Prop :=
  ∀ early late, trace = early ++ late →
    (world.after early state).1.stopped = true →
    deeds late <:+ allowed

section EndsWithin

variable {others : Surroundings σ} {arrives : Request → σ → σ → Bool}
  {allowed early late : List Exchange} {state : Interruption × σ}

theorem EndsWithin.of_deeds {world : Surroundings (Interruption × σ)}
    {trace : List Exchange} (within : deeds trace <:+ allowed) :
    EndsWithin world allowed trace state := by
  intro early late split _
  subst split
  exact (List.IsSuffix.filter _ (List.suffix_append early late)).trans within

theorem EndsWithin.cons {world : Surroundings (Interruption × σ)}
    {exchange : Exchange} (unstopped : state.1.stopped = false)
    (rest : EndsWithin world allowed late (world.next exchange.request state)) :
    EndsWithin world allowed (exchange :: late) state := by
  intro front back split stopped
  cases front with
  | nil => exact absurd (stopped.symm.trans unstopped) nofun
  | cons first front =>
      obtain ⟨rfl, same⟩ := List.cons.inj split
      exact rest front back same stopped

/-- If there was no interrupt so far, there was none at any time before. -/
theorem EndsWithin.append
    (inside : ∀ exchange ∈ early, exchange.request.isBoundary = false)
    (unstopped : ((others.withInterrupts arrives).after early state).1.stopped =
      false)
    (rest : EndsWithin (others.withInterrupts arrives) allowed late
      ((others.withInterrupts arrives).after early state)) :
    EndsWithin (others.withInterrupts arrives) allowed (early ++ late)
      state := by
  induction early generalizing state with
  | nil => exact rest
  | cons exchange early ih =>
      apply EndsWithin.cons
      · cases stopped : state.1.stopped with
        | false => rfl
        | true =>
            exact absurd
              (unstopped.symm.trans (Surroundings.stopped_after inside stopped))
              Bool.false_ne_true
      · exact ih (fun own member => inside own (.tail _ member)) unstopped rest

theorem EndsWithin.append_checks {world : Surroundings (Interruption × σ)}
    (first : EndsWithin world allowed early state) (checks : deeds late = []) :
    EndsWithin world allowed (early ++ late) state := by
  intro front back split stopped
  rcases List.append_eq_append_iff.mp split with ⟨middle, rfl, rfl⟩ |
    ⟨middle, rfl, rfl⟩
  · have isLast : deeds back = [] := by
      rw [deeds_append] at checks
      exact (List.append_eq_nil_iff.mp checks).2
    rw [isLast]
    exact List.nil_suffix
  · rw [deeds_append, checks, List.append_nil]
    exact first front middle rfl stopped

theorem EndsWithin.mono {world : Surroundings (Interruption × σ)}
    {wider trace : List Exchange} (ends : EndsWithin world allowed trace state)
    (wide : allowed <:+ wider) :
    EndsWithin world wider trace state :=
  fun early late split stopped => (ends early late split stopped).trans wide

end EndsWithin

end ClusterConsole
