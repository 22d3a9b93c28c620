import Runbook.Text.Utf8
/-!
# Texts of bytes

The programs of a sandbox work on bytes, whatever these stand for. A text of bytes is a text in
which each character stands for the byte of the same number; so texts of bytes can be taken apart
like any text, and their order is the order of their bytes. Names of files inside a sandbox,
arguments of programs and variables of a shell are texts of bytes.
-/

set_option autoImplicit false

namespace Runbook.Sandbox.ByteText

/-- The characters that stand for bytes. -/
def chars (bytes : Bytes) : List Char := bytes.map fun byte => Char.ofNat byte.toNat

/-- The bytes that characters stand for. -/
def bytesOfChars (text : List Char) : Bytes := text.map fun c => UInt8.ofNat c.toNat

/-- The text of some bytes. -/
def ofBytes (bytes : Bytes) : String := String.ofList (chars bytes)

/-- The bytes that a text of bytes stands for. -/
def toBytes (text : String) : Bytes := bytesOfChars text.toList

/-- A text as the text of its bytes. -/
def ofText (text : String) : String := ofBytes (Text.encode text)

/-- The text that a text of bytes stands for. -/
def toText (text : String) : String := Text.decodeLossy (toBytes text)

/-- Bytes are the bytes of their characters. -/
theorem bytesOfChars_chars (bytes : Bytes) : bytesOfChars (chars bytes) = bytes := by
  induction bytes with
  | nil => rfl
  | cons byte bytes ih =>
    have valid : byte.toNat.isValidChar := by
      have := byte.toNat_lt
      simp only [Nat.isValidChar]
      omega
    have head : (Char.ofNat byte.toNat).toNat = byte.toNat := by
      unfold Char.ofNat
      rw [dif_pos valid]
      rfl
    simp only [chars, bytesOfChars, List.map_cons] at ih ⊢
    rw [ih, head, UInt8.ofNat_toNat]

end Runbook.Sandbox.ByteText
