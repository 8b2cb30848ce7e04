import ClusterConsole.Shell.State
import Mathlib.Logic.Relation

/-!
# Variables and what hides them

A variable that is given a value has this value, and all others have theirs.  A
variable that is local, or that stands in front of one command, is as it was
when that is over, whatever happened to it meanwhile.
-/

namespace ClusterConsole.Shell

namespace Process

/-! ## Looking up -/

theorem name_of_binding? {process : Process} {name : String} {binding : Binding}
    (isBinding : process.binding? name = some binding) :
    binding.name = name := by
  simpa using List.find?_some isBinding

/-- Changes of a variable that leave it under its name. -/
def KeepsName (name : String) (change : Binding → Binding) : Prop :=
  ∀ binding : Binding, binding.name = name → (change binding).name = name

theorem find?_changed {name : String} {change : Binding → Binding}
    (keepsName : KeepsName name change) (bindings : List Binding)
    (other : String) :
    (bindings.map fun binding =>
      if binding.name = name then change binding else binding).find?
        (fun binding => binding.name = other) =
      (bindings.find? fun binding => binding.name = other).map fun binding =>
        if binding.name = name then change binding else binding := by
  induction bindings with
  | nil => rfl
  | cons binding bindings ih =>
      have sameName : (if binding.name = name then change binding
          else binding).name = binding.name := by
        split
        · rename_i isNamed
          exact (keepsName binding isNamed).trans isNamed.symm
        · rfl
      rw [List.map_cons, List.find?_cons, List.find?_cons, sameName, ih]
      split <;> rfl

theorem bindings_of_known {process : Process} {name : String}
    {known : Binding} (isKnown : process.binding? name = some known)
    (change : Binding → Binding) :
    (process.withBinding name change).bindings = process.bindings.map
    fun binding =>
      if binding.name = name then change binding else binding := by
  simp [withBinding, isKnown]

theorem bindings_of_unknown {process : Process} {name : String}
    (isUnknown : process.binding? name = none) (change : Binding → Binding) :
    (process.withBinding name change).bindings =
      process.bindings ++ [change ⟨name, none, false, false⟩] := by
  simp [withBinding, isUnknown]

theorem binding?_withBinding {name : String} {change : Binding → Binding}
    (keepsName : KeepsName name change) (process : Process) (other : String) :
    (process.withBinding name change).binding? other =
      if other = name then
        some (change ((process.binding? name).getD ⟨name, none, false, false⟩))
      else process.binding? other := by
  cases isKnown : process.binding? name with
  | some known =>
      rw [binding?, bindings_of_known isKnown, find?_changed keepsName,
        ← binding?]
      split
      · rename_i same
        subst same
        simp [isKnown, name_of_binding? isKnown]
      · rename_i different
        cases isOther : process.binding? other with
        | none => rfl
        | some binding =>
            have isNotNamed : binding.name ≠ name := fun isNamed =>
              different
                ((name_of_binding? isOther).symm.trans isNamed)
            simp [isNotNamed]
  | none =>
      have isNamed := keepsName ⟨name, none, false, false⟩ rfl
      rw [binding?, bindings_of_unknown isKnown, List.find?_append, ← binding?]
      split
      · rename_i same
        subst same
        simp [isKnown, isNamed]
      · rename_i different
        simp [isNamed, Ne.symm different]

theorem binding?_withoutBinding (process : Process) (name other : String) :
    (process.withoutBinding name).binding? other =
      if other = name then none else process.binding? other := by
  unfold withoutBinding binding?
  rw [List.find?_filter]
  split
  · rename_i same
    subst same
    simp
  · rename_i different
    congr 1
    funext binding
    by_cases isOther : binding.name = other
    · simp [isOther, different]
    · simp [isOther]

/-! ## Values -/

theorem keepsName_value (name : String) (value? : Option String)
    (isExported : Binding → Bool) :
    KeepsName name fun binding =>
      { binding with value?, isExported := isExported binding } :=
  fun _ isNamed => isNamed

/-- A variable has the value that it is given, and no other one changes. -/
theorem lookup?_assign (process : Process) (name value other : String) :
    (process.assign name value).lookup? other =
      if other = name then some value else process.lookup? other := by
  -- What is kept beside a variable with a meaning of its own is no binding.
  have beside : ∀ changed : Process, changed.bindings = process.bindings →
      (changed.withBinding name fun binding =>
        { binding with
          value? := some value
          isExported :=
            binding.isExported || changed.has exportAll }).lookup? other =
      if other = name then some value else process.lookup? other := by
    intro changed sameBindings
    rw [lookup?, binding?_withBinding (keepsName_value name _ _)]
    split
    · rfl
    · simp [lookup?, binding?, sameBindings]
  unfold assign
  split
  · exact beside _ rfl
  · split
    · exact beside _ rfl
    · exact beside process rfl

/-! ## Frames -/

/-- What a frame keeps: each name once, with what stood under it. -/
structure IsFrame (frame : List (String × Option Binding)) : Prop where
  nodup : (frame.map Prod.fst).Nodup
  named : ∀ name binding, (name, some binding) ∈ frame → binding.name = name

/-- A process with one variable as it was kept. -/
def withKept (process : Process) (entry : String × Option Binding) : Process :=
  match entry.2 with
  | some binding => process.withBinding entry.1 fun _ => binding
  | none => process.withoutBinding entry.1

theorem binding?_withKept (process : Process) (entry : String × Option Binding)
    (named : ∀ binding, entry.2 = some binding → binding.name = entry.1)
    (other : String) :
    (process.withKept entry).binding? other =
      if other = entry.1 then entry.2 else process.binding? other := by
  obtain ⟨name, kept?⟩ := entry
  cases kept? with
  | none => exact binding?_withoutBinding process name other
  | some binding =>
      exact binding?_withBinding (fun _ _ => named binding rfl) process other

theorem IsFrame.tail {entry : String × Option Binding}
    {frame : List (String × Option Binding)}
    (isFrame : IsFrame (entry :: frame)) :
    IsFrame frame where
  nodup := (List.nodup_cons.mp isFrame.nodup).2
  named := fun name binding member =>
    isFrame.named name binding (List.mem_cons_of_mem _ member)

theorem binding?_foldl_withKept {frame : List (String × Option Binding)}
    (isFrame : IsFrame frame) (process : Process) (other : String) :
    (frame.foldl withKept process).binding? other =
      (frame.lookup other).getD (process.binding? other) := by
  induction frame generalizing process with
  | nil => rfl
  | cons entry frame ih =>
      have kept := binding?_withKept process entry
        (fun binding isKept =>
          isFrame.named entry.1 binding (by simp [← isKept]))
        other
      rw [List.foldl_cons, ih isFrame.tail, kept, List.lookup_cons]
      by_cases same : other = entry.1
      · have isElsewhere : frame.lookup other = none := by
          rw [List.lookup_eq_none_iff]
          intro later member
          have isAnother := (List.nodup_cons.mp isFrame.nodup).1
          simpa [same] using fun isSame : entry.1 = later.1 =>
            isAnother (isSame ▸ List.mem_map_of_mem member)
        rw [if_pos same, isElsewhere]
        simp [same]
      · have isOther : (other == entry.1) = false := by simpa using same
        rw [if_neg same, isOther]

def keeping (process : Process) (name : String) : Process :=
  match process.frames with
  | [] => process
  | frame :: outer =>
    if (frame.lookup name).isSome then process
    else
      { process with frames :=
        ((name, process.binding? name) :: frame) :: outer }

/-- A process that goes back to what it has kept last. -/
def goingBack (process : Process) : Process :=
  match process.frames with
  | [] => process
  | frame :: outer => frame.foldl withKept { process with frames := outer }

theorem hide_eq (name : String) :
    Action.hide name = Action.modifyProcess (·.keeping name) := rfl

theorem leaveFrame_eq :
    Action.leaveFrame = Action.modifyProcess goingBack := rfl

/-- What may be done while a frame is open: one more variable is kept, or
anything that has its own frames closed again. -/
inductive WithinFrame : Process → Process → Prop
  | keeping (process : Process) (name : String) :
      WithinFrame process (process.keeping name)
  | other {process after : Process} :
      after.frames = process.frames → WithinFrame process after

def Keeps (outer : List (List (String × Option Binding))) (name : String)
    (kept? : Option Binding) (process : Process) : Prop :=
  ∃ frame, process.frames = frame :: outer ∧ IsFrame frame ∧
    frame.lookup name = some kept?

theorem IsFrame.cons {frame : List (String × Option Binding)}
    (isFrame : IsFrame frame) {process : Process} {name : String}
    (isNew : frame.lookup name = none) :
    IsFrame ((name, process.binding? name) :: frame) where
  nodup := by
    refine List.nodup_cons.mpr ⟨fun member => ?_, isFrame.nodup⟩
    obtain ⟨entry, isEntry, isName⟩ := List.mem_map.mp member
    have isOther := List.lookup_eq_none_iff.mp isNew entry isEntry
    have isOther : name ≠ entry.1 := by simpa using isOther
    exact isOther isName.symm
  named := by
    intro other binding member
    rcases List.mem_cons.mp member with isFirst | member
    · obtain ⟨rfl, isBinding⟩ := Prod.mk.inj isFirst
      exact name_of_binding? isBinding.symm
    · exact isFrame.named other binding member

theorem Keeps.step {outer : List (List (String × Option Binding))}
    {name : String} {kept? : Option Binding}
    {process after : Process} (keeps : Keeps outer name kept? process)
    (step : WithinFrame process after) :
    Keeps outer name kept? after := by
  obtain ⟨frame, isTop, isFrame, isKept⟩ := keeps
  cases step with
  | other sameFrames => exact ⟨frame, sameFrames.trans isTop, isFrame, isKept⟩
  | keeping other =>
      unfold keeping
      rw [isTop]
      dsimp only
      split
      · exact ⟨frame, isTop, isFrame, isKept⟩
      · rename_i isNew
        have isNew : frame.lookup other = none :=
          Option.not_isSome_iff_eq_none.mp isNew
        have isOther : name ≠ other := by
          rintro rfl
          simp [isKept] at isNew
        refine ⟨_, rfl, isFrame.cons isNew, ?_⟩
        rw [List.lookup_cons, show (name == other) = false by
          simpa using isOther]
        exact isKept

theorem Keeps.steps {outer : List (List (String × Option Binding))}
    {name : String} {kept? : Option Binding}
    {process after : Process} (keeps : Keeps outer name kept? process)
    (steps : Relation.ReflTransGen WithinFrame process after) :
    Keeps outer name kept? after := by
  induction steps with
  | refl => exact keeps
  | tail _ step ih => exact ih.step step

/-- A variable that is kept when a frame is open is the same when the frame is
closed, whatever is done in between. -/
theorem binding?_goingBack {frame : List (String × Option Binding)}
    {outer : List (List (String × Option Binding))} {process after : Process}
    {name : String} (isTop : process.frames = frame :: outer)
    (isFrame : IsFrame frame) (isNew : frame.lookup name = none)
    (steps : Relation.ReflTransGen WithinFrame (process.keeping name) after) :
    after.goingBack.binding? name = process.binding? name := by
  have keeps :
      Keeps outer name (process.binding? name) (process.keeping name) := by
    unfold keeping
    rw [isTop]
    simp only [isNew, Option.isSome_none, Bool.false_eq_true, if_false]
    exact ⟨_, rfl, isFrame.cons isNew, by simp⟩
  obtain ⟨last, isLast, isFrameLast, isKept⟩ := keeps.steps steps
  rw [goingBack, isLast]
  dsimp only
  rw [binding?_foldl_withKept isFrameLast, isKept, Option.getD_some]

end Process

end ClusterConsole.Shell
