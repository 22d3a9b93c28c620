import Runbook.Block.Refusal
import Runbook.Screenshot.Program
/-!
# Screenshot blocks

A screenshot block has a script as its body and takes a picture of the whole page, when no height
is given, or of a part of it. Lengths are whole numbers of at most 32 bits, and so are the sums of
an offset and an extent, so the part lies inside the viewport.
-/

set_option autoImplicit false

namespace Runbook.Block

open Arguments Runbook.Screenshot

/-- A screenshot block. -/
structure Picture where
  filename : String
  alt : String
  width : Nat
  /-- Zero for the whole page. -/
  height : Nat
  x : Nat
  y : Nat
  /-- Whether a unit of length is two pixels. -/
  retina : Bool
  steps : List Step
deriving DecidableEq, Repr

namespace Picture

/-- The fields of a screenshot block. -/
def schema : Schema := [
  .required "filename" .text,
  .required "alt" .text,
  .withDefault "width" .number "1024",
  .withDefault "height" .number "0",
  .withDefault "x" .number "0",
  .withDefault "y" .number "0",
  .withDefault "retina" .flag "false"]

/-- The extension of pictures, with its full stop. -/
def extension : List Char := ['.', 'p', 'n', 'g']

/-- The stem of the file name of a picture, if it has the extension. -/
def stem? (filename : String) : Option (List Char) :=
  let name := filename.toList
  let stem := name.take (name.length - extension.length)
  if stem ++ extension = name then some stem else none

/-- The greatest length. -/
def maxLength : Nat := 0xffffffff

/-- Checks that the sum of an offset and an extent is a length. -/
def checkSum (offsetField extentField : String) (offset extent : Nat) : Except Refusal Unit :=
  if offset + extent ≤ maxLength then .ok ()
  else .error (.overflow offsetField extentField offset extent)

/-- The whole number in a field. -/
def wholeField (given : Arguments) (field : String) (default : Nat) : Except Refusal Nat :=
  ((given.whole? field).mapError Refusal.arguments).map fun n => n.getD default

/-- The block with some arguments and a body. -/
def parse (arguments body : String) : Except Refusal Picture := do
  let given ← (Arguments.parse schema arguments).mapError .arguments
  let filename ← (plainName "filename" ((given.text? "filename").getD "")).mapError .field
  if ((stem? filename).getD []).isEmpty then throw (.pictureName filename)
  let width ← wholeField given "width" 1024
  if width = 0 then throw .noWidth
  let height ← wholeField given "height" 0
  let x ← wholeField given "x" 0
  let y ← wholeField given "y" 0
  if height = 0 ∧ (x ≠ 0 ∨ y ≠ 0) then throw (.fullPageOffsets x y)
  checkSum "x" "width" x width
  checkSum "y" "height" y height
  let steps ← (compile body).mapError .script
  return {
    filename
    alt := (given.text? "alt").getD ""
    width, height, x, y
    retina := given.flag "retina"
    steps }

/-- The name of the file that is written. -/
def outputName (picture : Picture) : String :=
  if picture.retina then
    String.ofList ((stem? picture.filename).getD picture.filename.toList ++ "@2x".toList ++
        extension)
  else picture.filename

/-- The height of the viewport for the whole page. -/
def fullPageHeight : Nat := 800

/-- The viewport of the browser. -/
def viewport (picture : Picture) : Viewport where
  width := min (picture.x + picture.width) maxLength
  height :=
    if picture.height = 0 then fullPageHeight else min (picture.y + picture.height) maxLength
  scale := if picture.retina then 2 else 1

/-- The part of the page that is shown. -/
def capture (picture : Picture) : Capture :=
  if picture.height = 0 then .fullPage
  else .clip picture.x picture.y picture.width picture.height

/-- The program for the browser. -/
def browserProgram (picture : Picture) : String :=
  program picture.steps picture.viewport picture.capture

end Picture

end Runbook.Block
