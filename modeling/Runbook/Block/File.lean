import Runbook.Block.Refusal
/-!
# File blocks

A block that creates a file has its content as the body and its path as a field. A block that
patches a file has the patch as its body; the path is a field or else the file that the patch
names. Both paths stay inside the directory of the block.
-/

set_option autoImplicit false

namespace Runbook.Block

open Arguments

/-- A block that writes a file. -/
structure CreateFile where
  path : String
  /-- The directory, below that of the document. -/
  cwd : Option String
  /-- The language in which the content is shown. -/
  lang : String
  hidden : Bool
  content : String
deriving DecidableEq, Repr

namespace CreateFile

/-- The fields of a block that writes a file. -/
def schema : Schema := [
  .required "path" .text,
  .optional "cwd" .text,
  .optional "lang" .text,
  .withDefault "hidden" .flag "false"]

/-- The block with some arguments and a body. -/
def parse (arguments body : String) : Except Refusal CreateFile := do
  let given ← (Arguments.parse schema arguments).mapError .arguments
  let path ← (insidePath "path" ((given.text? "path").getD "")).mapError .field
  return {
    path
    cwd := given.text? "cwd"
    lang := (given.text? "lang").getD (Document.languageOfPath path)
    hidden := given.flag "hidden"
    content := body }

end CreateFile

/-- A block that patches a file. -/
structure PatchFile where
  path : String
  /-- The directory, below that of the document. -/
  cwd : Option String
  hidden : Bool
  patch : Patch
  /-- The text of the patch. -/
  body : String
deriving DecidableEq, Repr

namespace PatchFile

/-- The fields of a block that patches a file. -/
def schema : Schema := [
  .optional "path" .text,
  .optional "cwd" .text,
  .withDefault "hidden" .flag "false"]

/-- The block with some arguments and a body. -/
def parse (arguments body : String) : Except Refusal PatchFile := do
  let given ← (Arguments.parse schema arguments).mapError .arguments
  let patch ← (Patch.parse body).mapError .patch
  match (given.text? "path").or patch.target with
  | none => throw .patchTarget
  | some path =>
    let path ← (insidePath "path" path).mapError .field
    return { path, cwd := given.text? "cwd", hidden := given.flag "hidden", patch, body }

end PatchFile

end Runbook.Block
