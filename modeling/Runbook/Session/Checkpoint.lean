import Runbook.Block.Checkpoint
import Runbook.Session.Basic
/-!
# Running checkpoint blocks

A checkpoint copies the working directory to a new directory beside its place and moves the copy
there, over an older one. Entries with an excluded name are left out with all that is in them, and
so is whatever leads below the directory of assets; links are copied and not followed.
-/

set_option autoImplicit false

namespace Runbook.Session

open Block Document Machine Work

/-- The greatest depth to which a directory is walked through. -/
def maxWalkDepth : Nat := 4096

/-- The error number for a path that is too long. -/
def tooLongCode : Nat := 36

/-- What fails at a step of a walk. -/
def walkFailure (path : String) (error : IoError) : Failure := .io path (.walk (.io path error))

/-- Whether an entry is left out of a copy, with what is in it. -/
def isLeftOut (exclude : List String) (skip path name : String) : Work Bool := do
  if name ∈ exclude then return true
  else
    match ← ask (.canonical path) with
    | .ok place => return Path.isBelow place skip
    | .error _ => return false

/-- Copies one entry that is no directory: the number of files copied. -/
def copyEntry (source target : String) (kind : EntryKind) : Work Nat := do
  if kind = .link then
    let content ← orFail (← ask (.readLink source)) (Failure.atPath source)
    orFail (← ask (.makeLink content target)) (Failure.atPath target)
    return 0
  else
    orFail (← ask (.copyFile source target)) (Failure.atPath source)
    return 1

/-- Copies entries of a directory one after the other, given how to copy a directory: the number of
files copied. -/
def copyEntries (exclude : List String) (skip source target : String)
    (copyDirectory : String → String → Work Nat) : List (String × EntryKind) → Work Nat
  | [] => return 0
  | (name, kind) :: rest => do
    let entry := Path.join source name
    let copy := Path.join target name
    let copied ←
      if ← isLeftOut exclude skip entry name then pure 0
      else if kind = .directory then do
        orFail (← ask (.makeDirectories copy)) (Failure.atPath copy)
        copyDirectory entry copy
      else copyEntry entry copy kind
    let more ← copyEntries exclude skip source target copyDirectory rest
    return copied + more

/-- Copies what is in a directory: the number of files copied. -/
def copyDirectory (exclude : List String) (skip : String) : Nat → String → String → Work Nat
  | 0, source, _ => fail (walkFailure source (.os tooLongCode))
  | depth + 1, source, target => do
    let entries ← orFail (← ask (.entries source)) (walkFailure source)
    copyEntries exclude skip source target (copyDirectory exclude skip depth) entries

/-- Copies a tree: the number of files copied. Its root may be a link to a directory. -/
def copyTree (source target : String) (exclude : List String) (skip : String) : Work Nat := do
  let found ← orFail (← ask (.entryKind source false)) (walkFailure source)
  let kind ←
    if found = .link then orFail (← ask (.entryKind source true)) (walkFailure source)
    else pure found
  if kind = .directory then copyDirectory exclude skip maxWalkDepth source target
  else return 0

/-- Copies the working directory to a staging directory and moves the copy to its place. -/
def fillCheckpoint (block : Checkpoint) (parent staging : String) : Work Unit := do
  let options := (← get).options
  let skip ← orFail (← ask (.canonical options.assetsRoot)) (Failure.atPath options.assetsRoot)
  let _ ← copyTree options.workdir staging block.exclude skip
  let target := Path.join parent block.name
  if ← leadsSomewhere target then
    orFail (← ask (.removeTree target)) (Failure.atPath target)
  orFail (← ask (.rename staging target)) (Failure.atPath target)

/-- Runs a checkpoint block. It shows nothing. -/
def runCheckpoint (block : Checkpoint) : Work (Option Node) := do
  let basename ← basename
  if !(← recordCheckpoint block.name) then fail (.unmet (.checkpointTaken block.name))
  let options := (← get).options
  let parent := Path.join (Path.join options.assetsRoot "checkpoints") basename
  orFail (← ask (.makeDirectories parent)) fun error => .missing (.directory parent error)
  let staging ← orFail (← ask (.makeTempDirectory parent)) (Failure.atPath parent)
  onStop (ask (.discardTree staging)) (fillCheckpoint block parent staging)
  return none

end Runbook.Session
