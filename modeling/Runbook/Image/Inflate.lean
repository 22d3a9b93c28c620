import Runbook.Text.Utf8
/-!
# Compressed data

Reads data in the zlib format: a header of two bytes, blocks of compressed data and a checksum of
four bytes. A block is stored, or it codes literals, lengths and distances with prefix codes that
are fixed or that the block gives itself. Every prefix code but that of distances has to be
complete; a distance code may also be empty or have one word.

`inflate?` gives the data, and `none` when anything is malformed or missing. What the checksum says
is not compared, and bytes after it count for nothing.
-/

set_option autoImplicit false

namespace Runbook.Image

/-- Bits, the lowest bit of each byte first. -/
abbrev Bits := List Bool

/-- The bits of a byte. -/
def bitsOfByte (byte : UInt8) : Bits := (List.range 8).map byte.toNat.testBit

/-- The bits of bytes. -/
def bitsOf (bytes : Bytes) : Bits := bytes.flatMap bitsOfByte

/-- The number that bits stand for, the lowest first. -/
def numberOf (bits : Bits) : Nat := bits.foldr (fun bit n => 2 * n + bit.toNat) 0

/-- A number of some bits and the bits after it. -/
def takeNumber? (count : Nat) (bits : Bits) : Option (Nat × Bits) :=
  let taken := bits.take count
  if taken.length = count then some (numberOf taken, bits.drop count) else none

/-! ### Prefix codes -/

/-- A prefix code whose words of one length are consecutive: how many words there are of each
length from one on, and the symbols in the order of their words. -/
structure PrefixCode where
  counts : List Nat
  symbols : List Nat

namespace PrefixCode

/-- The greatest length of a word. -/
def maxLength : Nat := 15

/-- The code with words of given lengths for the symbols from zero on. A length of zero gives a
symbol no word. -/
def ofLengths (lengths : List Nat) : PrefixCode where
  counts := (List.range maxLength).map fun n => lengths.count (n + 1)
  symbols := (List.range maxLength).flatMap fun n =>
    (lengths.zipIdx.filter fun entry => entry.1 == n + 1).map Prod.snd

/-- The share of the words of one length that is left over, in words of the greatest length;
`none` when there are too many words. -/
def unused? (code : PrefixCode) : Option Nat :=
  code.counts.foldl
    (fun left count => left.bind fun left =>
      if 2 * left < count then none else some (2 * left - count))
    (some 1)

/-- Whether every sequence of bits starts with a word. -/
def isComplete (code : PrefixCode) : Bool := code.unused? == some 0

/-- Whether the code can be one of distances: complete, empty, or a single word of one bit. -/
def isDistanceCode (code : PrefixCode) : Bool :=
  code.isComplete || code.symbols.isEmpty ||
    (code.symbols.length == 1 && code.counts.head? == some 1)

/-- Looks for the word that the bits start with, given the value of the bits read so far, the
first word of the next length and the number of shorter words. -/
def decodeFrom? (symbols : List Nat) : List Nat → Nat → Nat → Nat → Bits → Option (Nat × Bits)
  | [], _, _, _, _ => none
  | _, _, _, _, [] => none
  | count :: counts, value, first, shorter, bit :: bits =>
    let value := value + bit.toNat
    if value < first + count then (symbols[shorter + (value - first)]?).map fun s => (s, bits)
    else decodeFrom? symbols counts (2 * value) (2 * (first + count)) (shorter + count) bits

/-- The symbol whose word the bits start with, and the bits after it. -/
def decode? (code : PrefixCode) (bits : Bits) : Option (Nat × Bits) :=
  decodeFrom? code.symbols code.counts 0 0 0 bits

end PrefixCode

/-! ### Blocks -/

/-- The least length and the number of further bits of each length symbol. -/
def lengthTable : List (Nat × Nat) := [
  (3, 0), (4, 0), (5, 0), (6, 0), (7, 0), (8, 0), (9, 0), (10, 0), (11, 1), (13, 1), (15, 1),
  (17, 1), (19, 2), (23, 2), (27, 2), (31, 2), (35, 3), (43, 3), (51, 3), (59, 3), (67, 4),
  (83, 4), (99, 4), (115, 4), (131, 5), (163, 5), (195, 5), (227, 5), (258, 0)]

/-- The least distance and the number of further bits of each distance symbol. -/
def distanceTable : List (Nat × Nat) := [
  (1, 0), (2, 0), (3, 0), (4, 0), (5, 1), (7, 1), (9, 2), (13, 2), (17, 3), (25, 3), (33, 4),
  (49, 4), (65, 5), (97, 5), (129, 6), (193, 6), (257, 7), (385, 7), (513, 8), (769, 8),
  (1025, 9), (1537, 9), (2049, 10), (3073, 10), (4097, 11), (6145, 11), (8193, 12), (12289, 12),
  (16385, 13), (24577, 13)]

/-- The value of a symbol with a table, after its further bits. -/
def extended? (table : List (Nat × Nat)) (symbol : Nat) (bits : Bits) : Option (Nat × Bits) := do
  let (least, count) ← table[symbol]?
  let (more, bits) ← takeNumber? count bits
  return (least + more, bits)

/-- Copies a number of bytes from a distance back, one after the other. -/
def copyBack : Nat → Nat → Array UInt8 → Array UInt8
  | 0, _, output => output
  | count + 1, distance, output =>
    copyBack count distance (output.push (output.getD (output.size - distance) 0))

/-- The symbol that ends a block. -/
def endOfBlock : Nat := 256

/-- Reads the symbols of a block up to its end. -/
def readSymbols? (literals distances : PrefixCode) :
    Nat → Bits → Array UInt8 → Option (Bits × Array UInt8)
  | 0, _, _ => none
  | fuel + 1, bits, output => do
    let (symbol, bits) ← literals.decode? bits
    if symbol < endOfBlock then
      readSymbols? literals distances fuel bits (output.push (UInt8.ofNat symbol))
    else if symbol = endOfBlock then return (bits, output)
    else
      let (length, bits) ← extended? lengthTable (symbol - endOfBlock - 1) bits
      let (symbol, bits) ← distances.decode? bits
      let (distance, bits) ← extended? distanceTable symbol bits
      if distance > output.size then none
      else readSymbols? literals distances fuel bits (copyBack length distance output)

/-- The lengths of the words of the fixed code of literals and lengths. -/
def fixedLengths : List Nat :=
  List.replicate 144 8 ++ List.replicate 112 9 ++ List.replicate 24 7 ++ List.replicate 8 8

/-- The order in which a block gives the lengths of the code for lengths. -/
def lengthOrder : List Nat := [16, 17, 18, 0, 8, 7, 9, 6, 10, 5, 11, 4, 12, 3, 13, 2, 14, 1, 15]

/-- Takes a count of numbers of three bits. -/
def takeLengths? : Nat → Bits → Option (List Nat × Bits)
  | 0, bits => some ([], bits)
  | count + 1, bits => do
    let (length, bits) ← takeNumber? 3 bits
    let (lengths, bits) ← takeLengths? count bits
    return (length :: lengths, bits)

/-- Reads lengths of words until there are as many as wanted. They are given from the last. -/
def readLengths? (code : PrefixCode) (wanted : Nat) :
    Nat → List Nat → Bits → Option (List Nat × Bits)
  | 0, _, _ => none
  | fuel + 1, lengths, bits =>
    if lengths.length > wanted then none
    else if lengths.length = wanted then some (lengths.reverse, bits)
    else do
      let (symbol, bits) ← code.decode? bits
      if symbol < 16 then readLengths? code wanted fuel (symbol :: lengths) bits
      else if symbol = 16 then
        let last ← lengths.head?
        let (count, bits) ← takeNumber? 2 bits
        readLengths? code wanted fuel (List.replicate (count + 3) last ++ lengths) bits
      else
        let (least, width) := if symbol = 17 then (3, 3) else (11, 7)
        let (count, bits) ← takeNumber? width bits
        readLengths? code wanted fuel (List.replicate (count + least) 0 ++ lengths) bits

/-- The codes of literals and of distances that a block gives. -/
def readCodes? (bits : Bits) : Option (PrefixCode × PrefixCode × Bits) := do
  let (literalCount, bits) ← takeNumber? 5 bits
  let (distanceCount, bits) ← takeNumber? 5 bits
  let (lengthCount, bits) ← takeNumber? 4 bits
  let literalCount := literalCount + 257
  let distanceCount := distanceCount + 1
  if literalCount > 286 || distanceCount > 30 then none
  let (given, bits) ← takeLengths? (lengthCount + 4) bits
  let lengthCode := PrefixCode.ofLengths
    ((List.range 19).map fun symbol => ((lengthOrder.zip given).lookup symbol).getD 0)
  if !lengthCode.isComplete then none
  let wanted := literalCount + distanceCount
  let (lengths, bits) ← readLengths? lengthCode wanted (wanted + 1) [] bits
  let literals := PrefixCode.ofLengths (lengths.take literalCount)
  let distances := PrefixCode.ofLengths (lengths.drop literalCount)
  if lengths[endOfBlock]?.getD 0 = 0 || !literals.isComplete || !distances.isDistanceCode then none
  return (literals, distances, bits)

/-- Takes bytes from bits that start at a byte. -/
def takeBytes? : Nat → Bits → Array UInt8 → Option (Bits × Array UInt8)
  | 0, bits, output => some (bits, output)
  | count + 1, bits, output => do
    let (byte, bits) ← takeNumber? 8 bits
    takeBytes? count bits (output.push (UInt8.ofNat byte))

/-- Reads a stored block from its length on. -/
def readStored? (bits : Bits) (output : Array UInt8) : Option (Bits × Array UInt8) := do
  let bits := bits.drop (bits.length % 8)
  let (length, bits) ← takeNumber? 16 bits
  let (complement, bits) ← takeNumber? 16 bits
  if length + complement ≠ 0xffff then none
  takeBytes? length bits output

/-- Reads a block with the codes that it gives. -/
def readCoded? (bits : Bits) (output : Array UInt8) : Option (Bits × Array UInt8) := do
  let (literals, distances, bits) ← readCodes? bits
  readSymbols? literals distances (bits.length + 1) bits output

/-- Reads a block of a kind. -/
def readBlock? (kind : Nat) (bits : Bits) (output : Array UInt8) : Option (Bits × Array UInt8) :=
  match kind with
  | 0 => readStored? bits output
  | 1 =>
    readSymbols? (.ofLengths fixedLengths) (.ofLengths (List.replicate 32 5)) (bits.length + 1)
      bits output
  | 2 => readCoded? bits output
  | _ => none

/-- Reads blocks up to the last one. -/
def readBlocks? : Nat → Bits → Array UInt8 → Option (Bits × Array UInt8)
  | 0, _, _ => none
  | fuel + 1, bits, output => do
    let (last, bits) ← takeNumber? 1 bits
    let (kind, bits) ← takeNumber? 2 bits
    let (bits, output) ← readBlock? kind bits output
    if last = 1 then return (bits, output) else readBlocks? fuel bits output

/-- Whether two bytes are the header of compressed data without a dictionary. -/
def isHeader (first second : UInt8) : Bool :=
  first.toNat % 16 == 8 && first.toNat / 16 ≤ 7 && second.toNat / 32 % 2 == 0 &&
    (256 * first.toNat + second.toNat) % 31 == 0

/-- The data that bytes are compressed from. -/
def inflate? (bytes : Bytes) : Option (Array UInt8) :=
  match bytes with
  | first :: second :: rest =>
    if isHeader first second then do
      let bits := bitsOf rest
      let (bits, output) ← readBlocks? (bits.length + 1) bits #[]
      if bits.length / 8 ≥ 4 then return output else none
    else none
  | _ => none

end Runbook.Image
