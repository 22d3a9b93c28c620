import Runbook.Block.File
import Runbook.Session.Basic
/-!
# Running file blocks

A file is written to a temporary file beside it, which then takes its place in one step. So the
path holds either what it held before or the whole new content, and a temporary file is removed
whenever a later step fails.
-/

set_option autoImplicit false

namespace Runbook.Session

open Block Document Machine Work

/-- The permission bits of a new file. -/
def defaultMode : Nat := 0o644

/-- Gives a temporary file its permission bits and moves it to its place. -/
def publish (temp target : String) (mode : Option Nat) : Work Unit :=
  onStop (ask (.discardFile temp)) do
    orFail (← ask (.setMode temp (mode.getD defaultMode))) (Failure.atPath temp)
    orFail (← ask (.rename temp target)) (Failure.atPath target)

/-- Writes the content of a temporary file so that it stays. -/
def fill (temp : String) (content : Bytes) : Work Unit :=
  onStop (ask (.discardFile temp)) do
    orFail (← ask (.writeTemp temp content)) (Failure.atPath temp)
    orFail (← ask (.flush temp)) (Failure.atPath temp)
    orFail (← ask (.sync temp)) (Failure.atPath temp)

/-- Writes a file in one step. -/
def writeAtomic (target : String) (content : Bytes) (mode : Option Nat) : Work Unit := do
  let directory := (Path.parent? target).getD "."
  let temp ← orFail (← ask (.makeTempFile directory "")) (Failure.atPath directory)
  fill temp content
  publish temp target mode

/-- Makes the directory that a path is in. -/
def makeParent (target : String) : Work Unit := do
  match Path.parent? target with
  | none => return
  | some parent => orFail (← ask (.makeDirectories parent)) (Failure.atPath parent)

/-- The permission bits of a file, none if it does not exist. -/
def modeOf (target : String) : Work (Option Nat) := do
  match ← ask (.mode target) with
  | .ok mode => return some mode
  | .error _ => return none

/-- Runs a block that writes a file. It shows the content unless it is hidden. -/
def runCreateFile (block : CreateFile) : Work (Option Node) := do
  let target := Path.join (← blockDirectory block.cwd) block.path
  makeParent target
  let mode ← modeOf target
  writeAtomic target (Text.encode block.content) mode
  return if block.hidden then none
    else some ((Node.code block.lang block.content).withData "file" block.path)

/-- The content of a file to patch and its permission bits. A missing file is empty for a patch
that makes it. -/
def readTarget (block : PatchFile) (target : String) : Work (String × Option Nat) := do
  match ← ask (.readText target) with
  | .ok content => return (content, ← modeOf target)
  | .error error =>
    if error ≠ .notFound then fail (.atPath target error)
    else if block.patch.createsFile then
      makeParent target
      return ("", none)
    else fail (.unmet (.noFile block.path))

/-- Runs a block that patches a file. It shows the patch unless it is hidden. -/
def runPatchFile (block : PatchFile) : Work (Option Node) := do
  let target := Path.join (← blockDirectory block.cwd) block.path
  let (content, mode) ← readTarget block target
  match block.patch.apply content with
  | .error mismatch => fail (.unmet (.mismatch block.path mismatch))
  | .ok patched =>
    writeAtomic target (Text.encode patched) mode
    return if block.hidden then none
      else some ((Node.code "diff" block.body).withData "file" block.path)

end Runbook.Session
