import ClusterConsole.Text.Lossy

/-!
# Raw texts

A raw text holds any bytes: each of its characters is the one with the number of
a byte.  A shell counts, cuts and compares bytes, so all its texts are raw; a
text becomes raw on its way in, and raw texts become texts again on their way
out.
-/

namespace ClusterConsole.Raw

def charOf (byte : UInt8) : Char := Char.ofNat byte.toNat

def ofBytes (bytes : List UInt8) : String :=
  String.ofList (bytes.map charOf)

def toBytes (raw : String) : List UInt8 :=
  raw.toList.map fun char => UInt8.ofNat char.toNat

/-- A text as a raw one. -/
def ofText (text : String) : String :=
  ofBytes text.toUTF8.toList

/-- A raw text as a text; bytes that are no character are replaced. -/
def toText (raw : String) : String :=
  Text.ofBytes (toBytes raw)

/-- The number of a byte and of its character are the same. -/
theorem toNat_charOf (byte : UInt8) : (charOf byte).toNat = byte.toNat := by
  have small : byte.toNat < 256 := byte.toNat_lt
  rw [charOf, Char.ofNat, dif_pos (Or.inl (by omega))]
  rfl

end ClusterConsole.Raw
