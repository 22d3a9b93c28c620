/-!
# UTF-8

The bytes of a text and the text of bytes. `decode?` refuses bytes that are not UTF-8; `decodeLossy`
never does: each longest start of a character that is not completed, and each byte that starts none,
becomes a replacement character.
-/

set_option autoImplicit false

namespace Runbook

/-- Bytes. -/
abbrev Bytes := List UInt8

namespace Text

/-- The bytes of characters. -/
def encodeChars (text : List Char) : Bytes := text.flatMap String.utf8EncodeChar

/-- The bytes of a text. -/
def encode (text : String) : Bytes := encodeChars text.toList

/-- What the first byte of a character says: its own share of the code point and the bounds of
each byte that has to follow. -/
def leadByte? (byte : Nat) : Option (Nat × List (Nat × Nat)) :=
  let rest : Nat × Nat := (0x80, 0xbf)
  if byte < 0x80 then some (byte, [])
  else if byte < 0xc2 then none
  else if byte < 0xe0 then some (byte - 0xc0, [rest])
  else if byte = 0xe0 then some (0, [(0xa0, 0xbf), rest])
  else if byte = 0xed then some (13, [(0x80, 0x9f), rest])
  else if byte < 0xf0 then some (byte - 0xe0, [rest, rest])
  else if byte = 0xf0 then some (0, [(0x90, 0xbf), rest, rest])
  else if byte < 0xf4 then some (byte - 0xf0, [rest, rest, rest])
  else if byte = 0xf4 then some (4, [(0x80, 0x8f), rest, rest])
  else none

/-- Takes the further bytes of a character: its code point, if they are all there, and the bytes
after those that fit. -/
def takeRest : Nat → List (Nat × Nat) → Bytes → Option Nat × Bytes
  | point, [], bytes => (some point, bytes)
  | _, _ :: _, [] => (none, [])
  | point, (least, greatest) :: bounds, byte :: bytes =>
    if least ≤ byte.toNat && byte.toNat ≤ greatest then
      takeRest (64 * point + (byte.toNat - 0x80)) bounds bytes
    else (none, byte :: bytes)

theorem length_takeRest_le (point : Nat) (bounds : List (Nat × Nat)) (bytes : Bytes) :
    (takeRest point bounds bytes).2.length ≤ bytes.length := by
  induction bytes generalizing point bounds with
  | nil => cases bounds <;> simp [takeRest]
  | cons byte bytes ih =>
    cases bounds with
    | nil => simp [takeRest]
    | cons bound bounds =>
      rw [takeRest]
      split
      · exact Nat.le_trans (ih _ _) (by simp)
      · simp

/-- The character that some bytes start with, none if they start with no whole one, and the bytes
after it or after what cannot be one. -/
def decodeStep (byte : UInt8) (bytes : Bytes) : Option Char × Bytes :=
  match leadByte? byte.toNat with
  | none => (none, bytes)
  | some (point, bounds) =>
    let (point, rest) := takeRest point bounds bytes
    (point.map Char.ofNat, rest)

theorem length_decodeStep_le (byte : UInt8) (bytes : Bytes) :
    (decodeStep byte bytes).2.length ≤ bytes.length := by
  unfold decodeStep
  split
  · simp
  · exact length_takeRest_le _ _ _

/-- The characters of bytes, none for each place where there is no whole one. -/
def decodeAll : Bytes → List (Option Char)
  | [] => []
  | byte :: bytes =>
    (decodeStep byte bytes).1 :: decodeAll (decodeStep byte bytes).2
termination_by bytes => bytes.length
decreasing_by
  have := length_decodeStep_le byte bytes
  simp only [List.length_cons]
  omega

/-- The character that stands for what is no character. -/
def replacement : Char := '\ufffd'

/-- The text of bytes, whatever they are. -/
def decodeLossy (bytes : Bytes) : String :=
  String.ofList ((decodeAll bytes).map fun c => c.getD replacement)

/-- The text of bytes that are UTF-8. -/
def decode? (bytes : Bytes) : Option String :=
  ((decodeAll bytes).mapM id).map String.ofList

end Text

end Runbook
