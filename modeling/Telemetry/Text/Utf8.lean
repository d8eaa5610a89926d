/-! Texts as bytes: the UTF-8 form of a text, and the text that bytes spell, if they spell one. -/

namespace Telemetry
namespace Text

/-- The bytes of a text. -/
def encode (s : String) : List UInt8 := s.toUTF8.data.toList

/-- The text with these bytes. -/
def decode? (bytes : List UInt8) : Option String := String.fromUTF8? ⟨bytes.toArray⟩

/-- The longest text that at most `n` of the first bytes spell, with the number of its bytes. -/
def decodeUpTo (bytes : List UInt8) : Nat → String × Nat
  | 0 => ("", 0)
  | n + 1 =>
    match decode? (bytes.take (n + 1)) with
    | some s => (s, n + 1)
    | none => decodeUpTo bytes n

/-- The longest text that the bytes begin with, with the number of its bytes. -/
def decodePrefix (bytes : List UInt8) : String × Nat := decodeUpTo bytes bytes.length

/-- The number of bytes of some characters. -/
def byteLength (cs : List Char) : Nat := cs.foldl (fun n c => n + c.utf8Size) 0

theorem decode?_encode (s : String) : decode? (encode s) = some s := by
  have h : s.toUTF8.IsValidUTF8 := s.isValidUTF8
  rw [decode?, encode, Array.toArray_toList, String.fromUTF8?, dif_pos h]
  rfl

end Text
end Telemetry
