import Runbook.Block.Refusal
/-!
# Checkpoint blocks

A checkpoint block keeps a copy of the working directory under a name. Entries with an excluded
name are left out at any depth.
-/

set_option autoImplicit false

namespace Runbook.Block

open Arguments Text

/-- A checkpoint block. -/
structure Checkpoint where
  name : String
  /-- The names of entries that are left out. -/
  exclude : List String
deriving DecidableEq, Repr

namespace Checkpoint

/-- The fields of a checkpoint block. -/
def schema : Schema := [
  .required "name" .text,
  .withDefault "exclude" .text ".git,node_modules,target"]

/-- The names between the commas of a list. -/
def names (list : String) : List String :=
  ((splitAt ',' list.toList).map fun name => trim (String.ofList name)).filter fun name =>
    !name.isEmpty

/-- The block with some arguments. -/
def parse (arguments : String) : Except Refusal Checkpoint := do
  let given ← (Arguments.parse schema arguments).mapError .arguments
  let name ← (plainName "name" ((given.text? "name").getD "")).mapError .field
  return { name, exclude := names ((given.text? "exclude").getD "") }

end Checkpoint

end Runbook.Block
