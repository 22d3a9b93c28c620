import Runbook.Image.Inflate
/-!
# PNG images

Reads a PNG image in full to tell whether it is one: the signature, the header, every chunk up to
the end of the image data with its checksum, and the rows of the image. `size?` gives its size in
pixels, and `none` for data that is malformed, incomplete or too large.

An ancillary chunk that is damaged is passed over. What stands after the image data counts for
nothing once another chunk has begun.

Scope. Animations count as still images.
-/

set_option autoImplicit false

namespace Runbook.Image

/-! ### Checksums -/

/-- One step of the checksum of a chunk for one bit. -/
def checksumBit (remainder : Nat) : Nat :=
  if remainder % 2 = 1 then (remainder / 2) ^^^ 0xedb88320 else remainder / 2

/-- The remainder of a checksum after one more byte. -/
def checksumByte (remainder : Nat) (byte : UInt8) : Nat :=
  (List.range 8).foldl (fun r _ => checksumBit r) (remainder ^^^ byte.toNat)

/-- The checksum of bytes: the cyclic redundancy check of 32 bits. -/
def checksum (bytes : Bytes) : Nat :=
  (bytes.foldl checksumByte 0xffffffff) ^^^ 0xffffffff

/-! ### Chunks -/

/-- The number that bytes stand for, the highest first. -/
def bigEndian (bytes : Bytes) : Nat := bytes.foldl (fun n byte => 256 * n + byte.toNat) 0

/-- The bytes of an ASCII word. -/
def asciiBytes (word : String) : Bytes := word.toList.map fun c => UInt8.ofNat c.toNat

/-- A chunk: its type, its data and whether its checksum is right. -/
structure Chunk where
  kind : Bytes
  data : Bytes
  intact : Bool

/-- The type of the chunk that comes next. -/
def nextKind? (bytes : Bytes) : Option Bytes :=
  if bytes.length < 8 then none else some ((bytes.drop 4).take 4)

/-- The chunk that comes next and the bytes after it. -/
def chunk? (bytes : Bytes) : Option (Chunk × Bytes) :=
  let length := bigEndian (bytes.take 4)
  if bytes.length < 12 + length then none
  else
    let kind := (bytes.drop 4).take 4
    let data := (bytes.drop 8).take length
    let sum := (bytes.drop (8 + length)).take 4
    some (⟨kind, data, checksum (kind ++ data) == bigEndian sum⟩, bytes.drop (12 + length))

/-- Whether a chunk may be passed over by a reader that does not know it. -/
def isAncillary (kind : Bytes) : Bool := (kind.head?.map fun b => b.toNat / 32 % 2) == some 1

/-! ### Header -/

/-- How the samples of a pixel make its colour. -/
inductive ColorType where
  | gray
  | rgb
  | indexed
  | grayAlpha
  | rgba
deriving DecidableEq, Repr

namespace ColorType

/-- The colour type with a number. -/
def ofNumber? : Nat → Option ColorType
  | 0 => some gray
  | 2 => some rgb
  | 3 => some indexed
  | 4 => some grayAlpha
  | 6 => some rgba
  | _ => none

/-- The number of samples of a pixel. -/
def samples : ColorType → Nat
  | gray => 1
  | rgb => 3
  | indexed => 1
  | grayAlpha => 2
  | rgba => 4

/-- The numbers of bits that a sample may have. -/
def depths : ColorType → List Nat
  | gray => [1, 2, 4, 8, 16]
  | indexed => [1, 2, 4, 8]
  | _ => [8, 16]

/-- The number of samples of a pixel once palette and transparency are resolved. -/
def resolvedSamples (type : ColorType) (transparent : Bool) : Nat :=
  match type with
  | gray => if transparent then 2 else 1
  | grayAlpha => 2
  | rgba => 4
  | _ => if transparent then 4 else 3

end ColorType

/-- The header of an image. -/
structure Header where
  width : Nat
  height : Nat
  depth : Nat
  color : ColorType
  interlaced : Bool

/-- The header that the data of its chunk gives. -/
def header? (data : Bytes) : Option Header :=
  match data.drop 8 with
  | [depth, color, compression, filter, interlace] => do
    let width := bigEndian (data.take 4)
    let height := bigEndian ((data.drop 4).take 4)
    let color ← ColorType.ofNumber? color.toNat
    if width = 0 || height = 0 || !color.depths.contains depth.toNat || compression ≠ 0 ||
        filter ≠ 0 || interlace > 1 then none
    return ⟨width, height, depth.toNat, color, interlace == 1⟩
  | _ => none

/-- The greatest number of bytes that an image may take once it is decoded. -/
def maxDecoded : Nat := 512 * 1024 * 1024

/-- The number of bytes that an image takes once it is decoded. -/
def Header.decodedSize (header : Header) (transparent : Bool) : Nat :=
  header.width * header.height * header.color.resolvedSamples transparent *
    (if header.depth = 16 then 2 else 1)

/-! ### Rows -/

/-- The number of places in a dimension of some length that a pass covers, from a start on in
steps. -/
def passLength (length start step : Nat) : Nat := (length - start + step - 1) / step

/-- The passes of an interlaced image: the start and the step across and down. -/
def passes : List (Nat × Nat × Nat × Nat) := [
  (0, 8, 0, 8), (4, 8, 0, 8), (0, 4, 4, 8), (2, 4, 0, 4), (0, 2, 2, 4), (1, 2, 0, 2), (0, 1, 1, 2)]

/-- The widths and heights of the parts that the image data gives one after the other. -/
def Header.parts (header : Header) : List (Nat × Nat) :=
  if header.interlaced then
    (passes.map fun (x, dx, y, dy) =>
      (passLength header.width x dx, passLength header.height y dy)).filter fun part =>
        part.1 ≠ 0 && part.2 ≠ 0
  else [(header.width, header.height)]

/-- The number of bytes of a row, its filter apart. -/
def Header.rowLength (header : Header) (width : Nat) : Nat :=
  (width * header.color.samples * header.depth + 7) / 8

/-- The greatest number of a filter. -/
def maxFilter : Nat := 4

/-- Passes over a number of rows from a place in the data on, each of which starts with the number
of a filter; the place after them. -/
def passRows? (data : Array UInt8) (rowLength : Nat) : Nat → Nat → Option Nat
  | 0, place => some place
  | rows + 1, place =>
    match data[place]? with
    | none => none
    | some filter =>
      if filter.toNat > maxFilter || data.size < place + 1 + rowLength then none
      else passRows? data rowLength rows (place + 1 + rowLength)

/-- Whether the data holds all rows of an image. -/
def Header.hasRows (header : Header) (data : Array UInt8) : Bool :=
  (header.parts.foldl
    (fun place part => place.bind (passRows? data (header.rowLength part.1) part.2))
    (some 0)).isSome

/-! ### Images -/

/-- The bytes that every image starts with. -/
def signature : Bytes := [0x89, 0x50, 0x4e, 0x47, 0x0d, 0x0a, 0x1a, 0x0a]

/-- What stands before the image data besides the header. -/
structure Prelude where
  palette : Bool
  transparent : Bool

/-- Notes a chunk before the image data: `none` for one that makes the image unreadable. -/
def Prelude.note? (header : Header) (prelude : Prelude) (chunk : Chunk) : Option Prelude :=
  if chunk.kind = asciiBytes "PLTE" then
    if chunk.intact && !prelude.palette then some { prelude with palette := true } else none
  else if isAncillary chunk.kind then
    let least := match header.color with
      | .gray => 2
      | .rgb => 6
      | _ => 0
    let readable := match header.color with
      | .gray | .rgb => chunk.data.length ≥ least
      | .indexed => prelude.palette
      | _ => false
    if chunk.kind = asciiBytes "tRNS" && chunk.intact && readable then
      some { prelude with transparent := true }
    else some prelude
  else none

/-- Reads the chunks before the image data. -/
def readPrelude? (header : Header) : Nat → Prelude → Bytes → Option (Prelude × Bytes)
  | 0, _, _ => none
  | fuel + 1, prelude, bytes => do
    if (← nextKind? bytes) = asciiBytes "IDAT" then return (prelude, bytes)
    else
      let (chunk, rest) ← chunk? bytes
      readPrelude? header fuel (← prelude.note? header chunk) rest

/-- The image data of the chunks that follow each other, up to the start of another chunk. -/
def readData? : Nat → Bytes → Option Bytes
  | 0, _ => none
  | fuel + 1, bytes => do
    if (← nextKind? bytes) = asciiBytes "IDAT" then
      let (chunk, rest) ← chunk? bytes
      if chunk.intact then return chunk.data ++ (← readData? fuel rest) else none
    else return []

/-- The width and the height of a PNG image. -/
def size? (bytes : Bytes) : Option (Nat × Nat) := do
  if bytes.take 8 ≠ signature then none
  let (first, rest) ← chunk? (bytes.drop 8)
  if first.kind ≠ asciiBytes "IHDR" || !first.intact then none
  let header ← header? first.data
  let (prelude, rest) ← readPrelude? header (rest.length + 1) ⟨false, false⟩ rest
  if header.color = .indexed && !prelude.palette then none
  if header.decodedSize prelude.transparent > maxDecoded then none
  let data ← inflate? (← readData? (rest.length + 1) rest)
  if header.hasRows data then return (header.width, header.height) else none

end Runbook.Image
