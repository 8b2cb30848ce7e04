import ClusterConsole.Proofs.Text.Decoding
import ClusterConsole.Shell.System

/-!
# Channels keep the order of what is written

What is read from a channel is what was written to it, from its start on and
with nothing left out, however writing and reading take turns and whatever else
the processes do.  A channel takes no more than it has room for.
-/

namespace ClusterConsole.Shell

namespace System

/-! ## Bytes -/

theorem toList_foldl_push (contents : ByteArray) (bytes : List UInt8) :
    (bytes.foldl ByteArray.push contents).toList = contents.toList ++
      bytes := by
  induction bytes generalizing contents with
  | nil => simp
  | cons byte bytes ih =>
      have pushed :
          (contents.push byte).toList = contents.toList ++ [byte] := by
        simp [Text.toList_eq_data, ByteArray.data_push]
      rw [List.foldl_cons, ih, pushed, List.append_assoc, List.singleton_append]

theorem toList_extract (contents : ByteArray) (first last : Nat) :
    (contents.extract first last).toList =
      (contents.toList.take last).drop first := by
  simp only [Text.toList_eq_data, ByteArray.data_extract, Array.toList_extract,
    List.extract_eq_take_drop, List.drop_take]

theorem length_toList (contents : ByteArray) :
    contents.toList.length = contents.size := by
  rw [Text.toList_eq_data]
  rfl

/-! ## One channel -/

/-- A channel at a place, what is in it, and the room that it has left. -/
def Holds (system : System) (index : Nat) (held : List UInt8)
    (room? : Option Nat) : Prop :=
  ∃ contents : ByteArray, contents.toList = held ∧
    system.stream? index = some ⟨.channel contents room?, true, true⟩

/-- As much as there is room for. -/
def fitting (room? : Option Nat) (bytes : List UInt8) : List UInt8 :=
  match room? with
  | some room => bytes.take room
  | none => bytes

variable {system : System} {index : Nat} {held : List UInt8}
  {room? : Option Nat}

theorem stream?_modify (system : System)
    (index other : Nat) (change : Stream → Stream) :
    ({ system with streams :=
        system.streams.modify index change } : System).stream? other =
      if index = other then (system.stream? other).map change
      else system.stream? other := by
  simp only [stream?, Array.getElem?_modify]

/-- A channel whose contents are replaced holds the new ones, and no other
stream changes. -/
theorem holds_modify {before contents : ByteArray} {left? : Option Nat}
    {change : Stream → Stream}
    (isStream : system.stream? index = some ⟨.channel before room?, true, true⟩)
    (changed : change ⟨.channel before room?, true, true⟩ =
      ⟨.channel contents left?, true, true⟩) :
    ({ system with streams :=
        system.streams.modify index change } : System).Holds
        index contents.toList left? ∧
      ∀ other, other ≠ index →
        ({ system with streams := system.streams.modify index change } :
          System).stream? other = system.stream? other := by
  constructor
  · refine ⟨contents, rfl, ?_⟩
    rw [stream?_modify, if_pos rfl, isStream, Option.map_some, changed]
  · intro other isOther
    rw [stream?_modify, if_neg isOther.symm]

/-- What there is room for is put behind what a channel holds. -/
theorem Holds.write (holds : system.Holds index held room?)
    (bytes : List UInt8) :
    ∃ after, system.write index bytes = .ok after ∧
      after.Holds index (held ++ fitting room? bytes)
        (room?.map (· - (fitting room? bytes).length)) ∧
      ∀ other, other ≠ index → after.stream? other = system.stream? other := by
  obtain ⟨before, rfl, isStream⟩ := holds
  simp only [System.write, isStream]
  refine ⟨_, rfl, ?_⟩
  rw [← toList_foldl_push]
  exact holds_modify isStream rfl

/-- The front of a channel is the first of what it holds. -/
theorem Holds.front (holds : system.Holds index held room?) (count : Nat) :
    system.front index count = .ok (held.take count) := by
  obtain ⟨contents, rfl, isStream⟩ := holds
  simp [System.front, isStream, toList_extract]

theorem Holds.contents (holds : system.Holds index held room?) :
    system.contents index = .ok held := by
  obtain ⟨contents, isHeld, isStream⟩ := id holds
  have available : system.available index = held.length := by
    simp [System.available, isStream, ← isHeld, length_toList]
  rw [System.contents, holds.front, available, List.take_length]

theorem Holds.advance (holds : system.Holds index held room?) (count : Nat) :
    (system.advance index count).Holds index (held.drop count) room? ∧
      ∀ other, other ≠ index →
        (system.advance index count).stream? other = system.stream? other := by
  obtain ⟨before, rfl, isStream⟩ := holds
  have rest :
      (before.extract count before.size).toList = before.toList.drop count := by
    rw [toList_extract, ← length_toList, List.take_length]
  simp only [System.advance, isStream, Option.map_some]
  rw [← rest]
  exact holds_modify isStream rfl

/-! ## Writing and reading in turns -/

/-- What was offered to a channel and what was read from it on the way from one
system to another, whoever wrote and read and whatever happened to the rest. -/
inductive Passes (index : Nat) (start : System) :
    List UInt8 → List UInt8 → System → Prop where
  | start : Passes index start [] [] start
  | write {offered taken bytes : List UInt8} {system after : System} :
      Passes index start offered taken system →
      system.write index bytes = .ok after →
      Passes index start (offered ++ bytes) taken after
  | read {offered taken front : List UInt8} {system : System} {count : Nat} :
      Passes index start offered taken system →
      system.front index count = .ok front →
      Passes index start offered (taken ++ front)
        (system.advance index front.length)
  | elsewhere {offered taken : List UInt8} {system after : System} :
      Passes index start offered taken system →
      after.stream? index = system.stream? index →
      Passes index start offered taken after

theorem fitting_append (room? : Option Nat) (offered bytes : List UInt8) :
    fitting room? (offered ++ bytes) =
      fitting room? offered ++
        fitting (room?.map (· - (fitting room? offered).length)) bytes := by
  cases room? with
  | none => rfl
  | some room =>
    have left : room - (offered.take room).length = room - offered.length := by
      rw [List.length_take]
      omega
    simp only [fitting, Option.map_some, left, List.take_append]

theorem room_append (room? : Option Nat) (offered bytes : List UInt8) :
    room?.map (· - (fitting room? (offered ++ bytes)).length) =
      (room?.map (· - (fitting room? offered).length)).map
        (· - (fitting (room?.map (· - (fitting room? offered).length))
              bytes).length) := by
  rw [fitting_append, List.length_append, Option.map_map]
  exact Option.map_congr fun room _ => Nat.sub_add_eq ..

/-- What is read from a channel is what it held and then what was written to it,
in order and without a gap; what does not fit is the end of what was offered,
and is lost. -/
theorem Passes.in_order {start system : System} {offered taken : List UInt8}
    (holds : start.Holds index held room?)
    (passes : Passes index start offered taken system) :
    ∃ left, held ++ fitting room? offered = taken ++ left ∧
      system.Holds index left
        (room?.map (· - (fitting room? offered).length)) := by
  induction passes with
  | start =>
    refine ⟨held, by cases room? <;> simp [fitting], ?_⟩
    cases room? <;> simpa [fitting] using holds
  | @write offered _ bytes _ after _ written ih =>
    obtain ⟨left, inOrder, holds⟩ := ih
    obtain ⟨after', written', holds', -⟩ := holds.write bytes
    obtain rfl : after' = after := Except.ok.inj (written'.symm.trans written)
    refine ⟨left ++ fitting (room?.map (· - (fitting room? offered).length))
        bytes, ?_, ?_⟩
    · rw [fitting_append, ← List.append_assoc, inOrder, List.append_assoc]
    · rw [room_append]
      exact holds'
  | @read _ taken front _ count _ isFront ih =>
    obtain ⟨left, inOrder, holds⟩ := ih
    obtain rfl : left.take count = front :=
      Except.ok.inj ((holds.front count).symm.trans isFront)
    refine ⟨left.drop (left.take count).length, ?_, (holds.advance _).1⟩
    have whole :
        left.take count ++ left.drop (left.take count).length = left := by
      rw [List.length_take]
      rcases Nat.le_total count left.length with fits | short
      · rw [Nat.min_eq_left fits, List.take_append_drop]
      · rw [Nat.min_eq_right short, List.take_of_length_le short,
          List.drop_length, List.append_nil]
    rw [List.append_assoc, whole, inOrder]
  | elsewhere _ same ih =>
    obtain ⟨left, inOrder, contents, isHeld, isStream⟩ := ih
    exact ⟨left, inOrder, contents, isHeld, same.trans isStream⟩

end System

end ClusterConsole.Shell
