import Runbook.Block.Failure
import Runbook.Machine.Act
import Runbook.Path.Basic
import Runbook.Session.Checkpoint
/-!
# Trees of chapters

A `DocsTree` is what stands in the directory of chapters, links followed: files with their text,
directories with their entries in the order of the names, and what cannot be entered. `readTree`
reads one from the machine. It only looks, so a tree can be judged after it has been read as a
whole.

A link to a directory that it is in is not followed again; the tree has a failure in its place.
-/

set_option autoImplicit false

namespace Runbook.Build

open Block Machine Session

/-- What stands in the directory of chapters. -/
inductive DocsTree where
  /-- The source of a chapter. -/
  | chapter (name : String) (source : Except IoError String)
  | directory (name : String) (entries : List DocsTree)
  /-- Something that is no chapter. -/
  | other (name : String)
  /-- Something that cannot be looked at. -/
  | failed (cause : WalkError)

/-- Whether a file with a name is a chapter. -/
def isChapterName (name : String) : Bool := Path.extension? name = some "md"

/-- A directory that is being read: its path, and the path without links that leads there. -/
structure Ancestor where
  path : String
  place : String
deriving DecidableEq, Repr

/-- Reads a file. -/
def readChapter (path name : String) : Act DocsTree := do
  if isChapterName name then return .chapter name (← Act.request (.readText path))
  else return .other name

/-- Reads what a link points to, given how to read a directory. -/
def readLinked (ancestors : List Ancestor) (enter : String → String → Act DocsTree)
    (path name : String) : Act DocsTree := do
  match ← Act.request (.entryKind path true) with
  | .error error => return .failed (.io path error)
  | .ok .file => readChapter path name
  | .ok .directory =>
    match ← Act.request (.canonical path) with
    | .error error => return .failed (.io path error)
    | .ok place =>
      match ancestors.find? fun ancestor => ancestor.place = place with
      | some ancestor => return .failed (.loop path ancestor.path)
      | none => enter path name
  | .ok _ => return .other name

/-- Reads entries of a directory one after the other, given how to read a directory. -/
def readEntries (ancestors : List Ancestor) (enter : String → String → Act DocsTree)
    (directory : String) : List (String × EntryKind) → Act (List DocsTree)
  | [] => return []
  | (name, kind) :: rest => do
    let path := Path.join directory name
    let first ← match kind with
      | .file => readChapter path name
      | .directory => enter path name
      | .link => readLinked ancestors enter path name
      | .special => pure (.other name)
    let more ← readEntries ancestors enter directory rest
    return first :: more

/-- Entries in the order of their names. -/
def inOrder (entries : List (String × EntryKind)) : List (String × EntryKind) :=
  entries.mergeSort fun a b => !(b.1 < a.1)

/-- Reads a directory, within a bound on the depth. -/
def readDirectory : Nat → List Ancestor → String → String → Act DocsTree
  | 0, _, path, _ => return .failed (.io path (.os tooLongCode))
  | depth + 1, ancestors, path, name => do
    match ← Act.request (.entries path), ← Act.request (.canonical path) with
    | .error error, _ => return .failed (.io path error)
    | _, .error error => return .failed (.io path error)
    | .ok entries, .ok place =>
      let inner := ⟨path, place⟩ :: ancestors
      return .directory name
        (← readEntries inner (readDirectory depth inner) path (inOrder entries))

/-- Reads the tree of chapters in a directory. -/
def readTree (path : String) : Act DocsTree := readDirectory maxWalkDepth [] path ""

/-! ### Findings -/

/-- What is found on the way through a tree: the source of a chapter and its path below the top,
or something that cannot be looked at. -/
inductive Finding where
  | chapter (path : String) (source : Except IoError String)
  | failed (cause : WalkError)

mutual

/-- What is found in a tree that stands in a directory, one thing after the other. -/
def DocsTree.findings (above : String) : DocsTree → List Finding
  | .chapter name source => [.chapter (Path.join above name) source]
  | .directory name entries => findingsOf (Path.join above name) entries
  | .other _ => []
  | .failed cause => [.failed cause]

/-- What is found in trees that stand in a directory. -/
def findingsOf (above : String) : List DocsTree → List Finding
  | [] => []
  | tree :: trees => tree.findings above ++ findingsOf above trees

end

end Runbook.Build
