import ClusterConsole.Text.Raw
import Mathlib.Tactic.SplitIfs

/-!
# Bytes of texts are read back

Whatever bytes can be read as text, and the bytes of a text are read as this
text: nothing in it is replaced.  So raw texts keep the texts that they are made
from, and the output of a program that prints text is collected as it was
printed.
-/

namespace ClusterConsole.Text

/-! ## One byte -/

theorem toNat_ofNat {number : Nat} (isByte : number < 256) :
    (UInt8.ofNat number).toNat = number := by
  rw [UInt8.toNat_ofNat']
  exact Nat.mod_eq_of_lt isByte

theorem readBytes_whole {number : Nat} (isAscii : number < 0x80)
    (rest : List UInt8) :
    readBytes none (UInt8.ofNat number :: rest) =
      Char.ofNat number :: readBytes none rest := by
  rw [readBytes, readByte, readLead, toNat_ofNat (by omega)]
  simp [lead, isAscii]

theorem readBytes_begun {number : Nat} {begun : Begun} (isByte : number < 256)
    (isLead : lead number = .begun begun) (rest : List UInt8) :
    readBytes none (UInt8.ofNat number :: rest) =
      readBytes (some begun) rest := by
  rw [readBytes, readByte, readLead, toNat_ofNat isByte, isLead]
  rfl

/-- A byte within the bounds goes on with the character that has begun. -/
theorem readBytes_next {number bits missing low high : Nat}
    (isByte : number < 256) (isLow : low ≤ number) (isHigh : number ≤ high)
    (rest : List UInt8) :
    readBytes (some ⟨bits, missing + 2, low, high⟩)
      (UInt8.ofNat number :: rest) =
      readBytes (some ⟨bits * 64 + (number - 0x80), missing + 1, 0x80, 0xBF⟩)
        rest := by
  rw [readBytes, readByte, toNat_ofNat isByte]
  simp [isLow, isHigh]

theorem readBytes_last {number bits low high : Nat} (isByte : number < 256)
    (isLow : low ≤ number) (isHigh : number ≤ high) (rest : List UInt8) :
    readBytes (some ⟨bits, 1, low, high⟩) (UInt8.ofNat number :: rest) =
      Char.ofNat (bits * 64 + (number - 0x80)) :: readBytes none rest := by
  rw [readBytes, readByte, toNat_ofNat isByte]
  simp [isLow, isHigh]

/-! ## The first byte of a character -/

theorem lead_of_two {number : Nat} (least : 2 ≤ number) (most : number < 32) :
    lead (number + 0xC0) = .begun ⟨number, 1, 0x80, 0xBF⟩ := by
  unfold lead
  rw [if_neg (by omega), if_neg (by omega), if_pos (by omega)]
  simp

/-- The bounds of the second byte keep out long forms and surrogates. -/
theorem lead_of_three (number next : Nat) (most : number < 16)
    (isLong : number = 0 → 0xA0 ≤ next) (isScalar : number = 13 → next ≤ 0x9F)
    (least : 0x80 ≤ next) (isByte : next ≤ 0xBF) :
    ∃ low high, lead (number + 0xE0) = .begun ⟨number, 2, low, high⟩ ∧
      low ≤ next ∧ next ≤ high := by
  unfold lead
  rw [if_neg (by omega), if_neg (by omega), if_neg (by omega)]
  by_cases isFirst : number = 0
  · subst isFirst
    exact ⟨0xA0, 0xBF, rfl, isLong rfl, isByte⟩
  · rw [if_neg (by omega)]
    by_cases isSurrogate : number = 13
    · subst isSurrogate
      exact ⟨0x80, 0x9F, rfl, least, isScalar rfl⟩
    · rw [if_neg (by omega), if_pos (by omega)]
      exact ⟨0x80, 0xBF, by simp, least, isByte⟩

/-- The bounds of the second byte keep out long forms and what is past the last
character. -/
theorem lead_of_four (number next : Nat) (most : number ≤ 4)
    (isLong : number = 0 → 0x90 ≤ next) (isScalar : number = 4 → next ≤ 0x8F)
    (least : 0x80 ≤ next) (isByte : next ≤ 0xBF) :
    ∃ low high, lead (number + 0xF0) = .begun ⟨number, 3, low, high⟩ ∧
      low ≤ next ∧ next ≤ high := by
  unfold lead
  rw [if_neg (by omega), if_neg (by omega), if_neg (by omega),
    if_neg (by omega), if_neg (by omega), if_neg (by omega)]
  by_cases isFirst : number = 0
  · subst isFirst
    exact ⟨0x90, 0xBF, rfl, isLong rfl, isByte⟩
  · rw [if_neg (by omega)]
    by_cases isLast : number = 4
    · subst isLast
      exact ⟨0x80, 0x8F, rfl, least, isScalar rfl⟩
    · rw [if_pos (by omega)]
      exact ⟨0x80, 0xBF, by simp, least, isByte⟩

/-! ## Characters -/

theorem readBytes_utf8EncodeChar (char : Char) (rest : List UInt8) :
    readBytes none (String.utf8EncodeChar char ++ rest) =
      char :: readBytes none rest := by
  have isScalar : char.val.toNat < 0xD800 ∨
      (0xDFFF < char.val.toNat ∧ char.val.toNat < 0x110000) := char.valid
  have isSame : Char.ofNat char.val.toNat = char := Char.ofNat_toNat char
  unfold String.utf8EncodeChar
  generalize char.val.toNat = value at isScalar isSame ⊢
  dsimp only
  split_ifs with isOne isTwo isThree
  · rw [List.singleton_append, readBytes_whole (by omega), isSame]
  · rw [Nat.mod_eq_of_lt (show value / 64 < 32 by omega), List.cons_append,
      List.singleton_append,
      readBytes_begun (by omega) (lead_of_two (by omega) (by omega)),
      readBytes_last (by omega) (by omega) (by omega),
      show value / 64 * 64 + (value % 64 + 0x80 - 0x80) = value by
        omega, isSame]
  · obtain ⟨low, high, isLead, isLow, isHigh⟩ :=
      lead_of_three (value / 4096 % 16) (value / 64 % 64 + 0x80)
        (by omega) (by omega) (by omega) (by omega) (by omega)
    rw [List.cons_append, List.cons_append, List.singleton_append,
      readBytes_begun (by omega) isLead,
      readBytes_next (by omega) isLow isHigh,
      readBytes_last (by omega) (by omega) (by omega)]
    rw [show (value / 4096 % 16 * 64 + (value / 64 % 64 + 0x80 - 0x80)) * 64 +
      (value % 64 + 0x80 - 0x80) = value by omega, isSame]
  · obtain ⟨low, high, isLead, isLow, isHigh⟩ :=
      lead_of_four (value / 262144 % 8) (value / 4096 % 64 + 0x80)
        (by omega) (by omega) (by omega) (by omega) (by omega)
    rw [List.cons_append, List.cons_append, List.cons_append,
      List.singleton_append, readBytes_begun (by omega) isLead,
      readBytes_next (by omega) isLow isHigh, readBytes_next (by omega)
        (by omega) (by omega), readBytes_last (by omega) (by omega) (by omega)]
    rw [show ((value / 262144 % 8 * 64 +
          (value / 4096 % 64 + 0x80 - 0x80)) * 64 +
      (value / 64 % 64 + 0x80 - 0x80)) * 64 + (value % 64 + 0x80 - 0x80) =
      value by omega, isSame]

theorem readBytes_utf8Encode (chars : List Char) :
    readBytes none (chars.flatMap String.utf8EncodeChar) = chars := by
  induction chars with
  | nil => rfl
  | cons char chars ih =>
      rw [List.flatMap_cons, readBytes_utf8EncodeChar, ih]

/-! ## Texts -/

theorem toList_loop_eq (bytes : ByteArray) (place : Nat) (found : List UInt8) :
    ByteArray.toList.loop bytes place found =
      found.reverse ++ bytes.data.toList.drop place := by
  fun_induction ByteArray.toList.loop bytes place found with
  | case1 place found isInside ih =>
      have isPlace : place < bytes.data.toList.length := by simpa using isInside
      rw [ih, List.drop_eq_getElem_cons isPlace]
      simp [ByteArray.get!, isInside]
  | case2 place found isPast =>
      have isDone : bytes.data.toList.length ≤ place := by
        simpa using Nat.le_of_not_lt isPast
      rw [List.drop_eq_nil_of_le isDone, List.append_nil]

theorem toList_eq_data (bytes : ByteArray) :
    bytes.toList = bytes.data.toList := by
  rw [ByteArray.toList, toList_loop_eq]
  rfl

theorem toList_toUTF8 (text : String) :
    text.toUTF8.toList = text.toList.flatMap String.utf8EncodeChar := by
  have toByteArray : text.toUTF8 =
      (text.toList.flatMap String.utf8EncodeChar).toByteArray := by
    conv => lhs; rw [← String.ofList_toList (s := text)]
    rfl
  rw [toByteArray, toList_eq_data, List.toList_data_toByteArray]

/-- The bytes of a text are read as this text. -/
theorem ofBytes_toUTF8 (text : String) : ofBytes text.toUTF8.toList = text := by
  rw [ofBytes, toList_toUTF8, readBytes_utf8Encode, String.ofList_toList]

end ClusterConsole.Text

namespace ClusterConsole.Raw

/-! ## Raw texts -/

theorem toBytes_ofBytes (bytes : List UInt8) :
    toBytes (ofBytes bytes) = bytes := by
  simp [toBytes, ofBytes, Function.comp_def, toNat_charOf]

/-- A text is the same after it was raw. -/
theorem toText_ofText (text : String) : toText (ofText text) = text := by
  rw [toText, ofText, toBytes_ofBytes, Text.ofBytes_toUTF8]

end ClusterConsole.Raw
