import Runbook.Text.Utf8
/-!
# Reading back the bytes of a text

The bytes of a text are read as the text (`decodeLossy_encode`), so nothing is lost when a text is
handed on as bytes. The first byte of a character says how many follow and within which bounds; what
has to be shown is that the bytes of the character keep to these (`decodeStep_utf8EncodeChar`).
-/

set_option autoImplicit false

namespace Runbook.Text

/-- A further byte that keeps to its bounds. -/
theorem takeRest_cons {point least greatest value : Nat} {bounds : List (Nat × Nat)} {bytes : Bytes}
    (hsmall : value < 256) (hleast : least ≤ value) (hgreatest : value ≤ greatest) :
    takeRest point ((least, greatest) :: bounds) (UInt8.ofNat value :: bytes) =
      takeRest (64 * point + (value - 0x80)) bounds bytes := by
  have hvalue : (UInt8.ofNat value).toNat = value := by
    rw [UInt8.toNat_ofNat']
    omega
  rw [takeRest, hvalue, if_pos]
  rw [Bool.and_eq_true, decide_eq_true_iff, decide_eq_true_iff]
  exact ⟨hleast, hgreatest⟩

/-- A first byte, whose further bytes are taken. -/
theorem decodeStep_eq {first point code : Nat} {bounds : List (Nat × Nat)} {bytes rest : Bytes}
    (hsmall : first < 256) (hlead : leadByte? first = some (point, bounds))
    (hrest : takeRest point bounds bytes = (some code, rest)) :
    decodeStep (UInt8.ofNat first) bytes = (some (Char.ofNat code), rest) := by
  have hfirst : (UInt8.ofNat first).toNat = first := by
    rw [UInt8.toNat_ofNat']
    omega
  rw [decodeStep, hfirst, hlead]
  dsimp only
  rw [hrest]
  rfl

/-- The first byte of three. -/
theorem leadByte?_three {value : Nat} (hleast : 0x800 ≤ value) (hgreatest : value ≤ 0xffff)
    (hvalid : value < 0xd800 ∨ 0xdfff < value) :
    ∃ least greatest, leadByte? (value / 4096 % 16 + 224) =
        some (value / 4096 % 16, [(least, greatest), (0x80, 0xbf)]) ∧
      least ≤ value / 64 % 64 + 128 ∧ value / 64 % 64 + 128 ≤ greatest := by
  unfold leadByte?
  rw [if_neg (by omega), if_neg (by omega), if_neg (by omega)]
  by_cases hfirst : value / 4096 % 16 + 224 = 0xe0
  · rw [if_pos hfirst]
    refine ⟨0xa0, 0xbf, ?_, by omega, by omega⟩
    rw [show value / 4096 % 16 = 0 by omega]
  · rw [if_neg hfirst]
    by_cases hsurrogates : value / 4096 % 16 + 224 = 0xed
    · rw [if_pos hsurrogates]
      refine ⟨0x80, 0x9f, ?_, by omega, by omega⟩
      rw [show value / 4096 % 16 = 13 by omega]
    · rw [if_neg hsurrogates, if_pos (by omega), Nat.add_sub_cancel]
      exact ⟨0x80, 0xbf, rfl, by omega, by omega⟩

/-- The first byte of four. -/
theorem leadByte?_four {value : Nat} (hleast : 0x10000 ≤ value) (hgreatest : value ≤ 0x10ffff) :
    ∃ least greatest, leadByte? (value / 262144 % 8 + 240) =
        some (value / 262144 % 8, [(least, greatest), (0x80, 0xbf), (0x80, 0xbf)]) ∧
      least ≤ value / 4096 % 64 + 128 ∧ value / 4096 % 64 + 128 ≤ greatest := by
  unfold leadByte?
  rw [if_neg (by omega), if_neg (by omega), if_neg (by omega), if_neg (by omega), if_neg (by omega),
    if_neg (by omega)]
  by_cases hfirst : value / 262144 % 8 + 240 = 0xf0
  · rw [if_pos hfirst]
    refine ⟨0x90, 0xbf, ?_, by omega, by omega⟩
    rw [show value / 262144 % 8 = 0 by omega]
  · rw [if_neg hfirst]
    by_cases hlast : value / 262144 % 8 + 240 < 0xf4
    · rw [if_pos hlast, Nat.add_sub_cancel]
      exact ⟨0x80, 0xbf, rfl, by omega, by omega⟩
    · rw [if_neg hlast, if_pos (by omega)]
      refine ⟨0x80, 0x8f, ?_, by omega, by omega⟩
      rw [show value / 262144 % 8 = 4 by omega]

/-- The bytes of a character are read as the character. -/
theorem decodeStep_utf8EncodeChar (c : Char) (more : Bytes) :
    ∃ first rest, String.utf8EncodeChar c = first :: rest ∧
      decodeStep first (rest ++ more) = (some c, more) := by
  have hvalid : c.toNat < 0xd800 ∨ (0xdfff < c.toNat ∧ c.toNat < 0x110000) := c.valid
  have hself : Char.ofNat c.toNat = c := Char.ofNat_toNat c
  have hvalue : c.val.toNat = c.toNat := rfl
  generalize c.toNat = value at hvalid hself hvalue
  subst hself
  simp only [String.utf8EncodeChar, hvalue]
  by_cases hone : value ≤ 127
  · rw [if_pos hone]
    refine ⟨_, _, rfl, decodeStep_eq (by omega) (if_pos (by omega)) rfl⟩
  rw [if_neg hone]
  by_cases htwo : value ≤ 2047
  · rw [if_pos htwo]
    refine ⟨_, _, rfl, ?_⟩
    have hlead : leadByte? (value / 64 % 32 + 192) = some (value / 64 % 32, [(0x80, 0xbf)]) := by
      unfold leadByte?
      rw [if_neg (by omega), if_neg (by omega), if_pos (by omega), Nat.add_sub_cancel]
    refine decodeStep_eq (by omega) hlead ?_
    rw [List.singleton_append, takeRest_cons (by omega) (by omega) (by omega), takeRest]
    rw [show 64 * (value / 64 % 32) + (value % 64 + 128 - 128) = value by omega]
  rw [if_neg htwo]
  by_cases hthree : value ≤ 65535
  · rw [if_pos hthree]
    refine ⟨_, _, rfl, ?_⟩
    obtain ⟨least, greatest, hlead, hleast, hgreatest⟩ :=
      leadByte?_three (by omega) hthree (hvalid.imp_right And.left)
    refine decodeStep_eq (by omega) hlead ?_
    rw [List.cons_append, List.singleton_append, takeRest_cons (by omega) hleast hgreatest,
      takeRest_cons (by omega) (by omega) (by omega), takeRest]
    rw [show 64 * (64 * (value / 4096 % 16) + (value / 64 % 64 + 128 - 128)) +
      (value % 64 + 128 - 128) = value by omega]
  · rw [if_neg hthree]
    refine ⟨_, _, rfl, ?_⟩
    obtain ⟨least, greatest, hlead, hleast, hgreatest⟩ :=
      @leadByte?_four value (by omega) (by omega)
    refine decodeStep_eq (by omega) hlead ?_
    rw [List.cons_append, List.cons_append, List.singleton_append,
      takeRest_cons (by omega) hleast hgreatest, takeRest_cons (by omega) (by omega) (by omega),
      takeRest_cons (by omega) (by omega) (by omega), takeRest]
    rw [show 64 * (64 * (64 * (value / 262144 % 8) + (value / 4096 % 64 + 128 - 128)) +
      (value / 64 % 64 + 128 - 128)) + (value % 64 + 128 - 128) = value by omega]

theorem decodeAll_encodeChars (text : List Char) :
    decodeAll (encodeChars text) = text.map some := by
  induction text with
  | nil => rw [encodeChars, List.flatMap_nil, decodeAll, List.map_nil]
  | cons c text ih =>
    obtain ⟨first, rest, hbytes, hstep⟩ := decodeStep_utf8EncodeChar c (encodeChars text)
    have hencode : encodeChars (c :: text) = first :: (rest ++ encodeChars text) := by
      rw [encodeChars, List.flatMap_cons, hbytes]
      rfl
    rw [hencode, decodeAll, hstep, ih, List.map_cons]

/-- The bytes of a text are read as the text. -/
theorem decodeLossy_encode (text : String) : decodeLossy (encode text) = text := by
  rw [decodeLossy, encode, decodeAll_encodeChars, List.map_map]
  have hid : (fun c : Option Char => c.getD replacement) ∘ some = id := rfl
  rw [hid, List.map_id, String.ofList_toList]

end Runbook.Text
