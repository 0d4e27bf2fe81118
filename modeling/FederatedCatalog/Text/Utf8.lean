/-!
# UTF-8

Reading bytes as text. Bytes that are no UTF-8 are refused with the place of the first fault: the
number of bytes before it, which all read well, and the length of the faulty sequence, or no length
when the bytes merely end inside a character.
-/

namespace FederatedCatalog.Text.Utf8

/-- Where and how bytes stop being UTF-8. -/
structure Fault where
  /-- How many bytes before the fault read well. -/
  index : Nat
  /-- The length of the faulty sequence; none when the bytes end inside a character. -/
  length : Option Nat
  deriving Repr, DecidableEq, Inhabited

/-- The text of a fault. -/
def Fault.text (fault : Fault) : String :=
  match fault.length with
  | some n => "invalid utf-8 sequence of " ++ toString n ++ " bytes from index " ++
      toString fault.index
  | none => "incomplete utf-8 byte sequence from index " ++ toString fault.index

/-- The bytes that may follow the first byte of a character, as inclusive bounds, in order. Nothing
when the byte begins no character. -/
def continuations? (lead : UInt8) : Option (List (UInt8 × UInt8)) :=
  let tail : UInt8 × UInt8 := (0x80, 0xBF)
  if lead < 0x80 then some []
  else if 0xC2 ≤ lead && lead ≤ 0xDF then some [tail]
  else if lead == 0xE0 then some [(0xA0, 0xBF), tail]
  else if lead == 0xED then some [(0x80, 0x9F), tail]
  else if 0xE1 ≤ lead && lead ≤ 0xEF then some [tail, tail]
  else if lead == 0xF0 then some [(0x90, 0xBF), tail, tail]
  else if 0xF1 ≤ lead && lead ≤ 0xF3 then some [tail, tail, tail]
  else if lead == 0xF4 then some [(0x80, 0x8F), tail, tail]
  else none

/-- Check the bytes after a first byte at `start`. Either the character is complete, with the number
of its bytes, or the fault is given; `seen` counts the bytes of the character that read well. -/
def checkTail (bytes : ByteArray) (start seen : Nat) : List (UInt8 × UInt8) → Except Fault Nat
  | [] => .ok seen
  | (low, high) :: rest =>
    match bytes[start + seen]? with
    | none => .error ⟨start, none⟩
    | some b =>
      if low ≤ b && b ≤ high then checkTail bytes start (seen + 1) rest
      else .error ⟨start, some seen⟩

/-- The first fault at or after `index`, if there is one. The first argument bounds the number of
characters. -/
def faultFrom? (bytes : ByteArray) : Nat → Nat → Option Fault
  | 0, _ => none
  | bound + 1, index =>
    match bytes[index]? with
    | none => none
    | some lead =>
      match continuations? lead with
      | none => some ⟨index, some 1⟩
      | some tail =>
        match checkTail bytes index 1 tail with
        | .error fault => some fault
        | .ok n => faultFrom? bytes bound (index + n)

/-- The place where bytes stop being UTF-8. -/
def fault (bytes : ByteArray) : Fault :=
  (faultFrom? bytes bytes.size 0).getD ⟨bytes.size, none⟩

/-- Read bytes as text. -/
def decode (bytes : ByteArray) : Except Fault String :=
  match String.fromUTF8? bytes with
  | some text => .ok text
  | none => .error (fault bytes)

/-- The bytes of a text read back as the text. -/
theorem decode_toByteArray (s : String) : decode s.toByteArray = .ok s := by
  simp only [decode, String.fromUTF8?, s.isValidUTF8, ↓reduceDIte]
  rfl

end FederatedCatalog.Text.Utf8
