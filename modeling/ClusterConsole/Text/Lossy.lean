/-!
# Reading bytes as text

Bytes that need not be UTF-8 can still be read.  Each longest run of bytes that
begins a character and does not complete it counts as one replacement character,
and so does each byte that cannot begin one.
-/

namespace ClusterConsole.Text

/-- What is read in place of bytes that are no character. -/
def replacement : Char := '\uFFFD'

/-- A character that has begun: the bits so far, the number of bytes that are
missing, and the bounds for the next one. -/
structure Begun where
  bits : Nat
  missing : Nat
  low : Nat
  high : Nat
deriving DecidableEq, Repr

/-- What a byte begins. -/
inductive Lead where
  | whole (char : Char)
  | begun (begun : Begun)
  | nothing
deriving DecidableEq, Repr

/-- What a byte begins.  The bounds keep out long forms, surrogates and numbers
beyond the last character. -/
def lead (byte : Nat) : Lead :=
  if byte < 0x80 then .whole (Char.ofNat byte)
  else if byte < 0xC2 then .nothing
  else if byte < 0xE0 then .begun ⟨byte - 0xC0, 1, 0x80, 0xBF⟩
  else if byte = 0xE0 then .begun ⟨0, 2, 0xA0, 0xBF⟩
  else if byte = 0xED then .begun ⟨0xD, 2, 0x80, 0x9F⟩
  else if byte < 0xF0 then .begun ⟨byte - 0xE0, 2, 0x80, 0xBF⟩
  else if byte = 0xF0 then .begun ⟨0, 3, 0x90, 0xBF⟩
  else if byte < 0xF4 then .begun ⟨byte - 0xF0, 3, 0x80, 0xBF⟩
  else if byte = 0xF4 then .begun ⟨4, 3, 0x80, 0x8F⟩
  else .nothing

/-- What is read from a byte that may begin a character, and what then has
begun. -/
def readLead (byte : Nat) : List Char × Option Begun :=
  match lead byte with
  | .whole char => ([char], none)
  | .begun begun => ([], some begun)
  | .nothing => ([replacement], none)

/-- What is read from a byte, and what then has begun. -/
def readByte (begun? : Option Begun) (byte : Nat) : List Char × Option Begun :=
  match begun? with
  | none => readLead byte
  | some begun =>
    if begun.low ≤ byte ∧ byte ≤ begun.high then
      let bits := begun.bits * 64 + (byte - 0x80)
      if begun.missing = 1 then ([Char.ofNat bits], none)
      else ([], some ⟨bits, begun.missing - 1, 0x80, 0xBF⟩)
    else
      let (chars, begun?) := readLead byte
      (replacement :: chars, begun?)

/-- The characters that bytes stand for, after what has begun. -/
def readBytes : Option Begun → List UInt8 → List Char
  | none, [] => []
  | some _, [] => [replacement]
  | begun?, byte :: rest =>
    let (chars, begun?) := readByte begun? byte.toNat
    chars ++ readBytes begun? rest

def ofBytes (bytes : List UInt8) : String :=
  String.ofList (readBytes none bytes)

end ClusterConsole.Text
