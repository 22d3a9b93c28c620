import Runbook.Text.Line
import Runbook.Text.Quoted
/-!
# Patches

A patch changes one file: a list of hunks, each of which names a place in the old file and gives
the lines that stand there, those to remove and those to add. A file is taken as its lines, and
whether its last line ends in a newline is kept apart from them.

`Patch.apply` is strict. A hunk applies only at the place that it names, and each line of its old
side has to be in the file as it stands: there is no search for another place and no tolerance.
-/

set_option autoImplicit false

namespace Runbook

open Text

/-- A line of a hunk. -/
inductive HunkLine where
  /-- A line that stays. -/
  | context (text : String)
  /-- A line of the old file alone. -/
  | removed (text : String)
  /-- A line of the new file alone. -/
  | added (text : String)
deriving DecidableEq, Repr

namespace HunkLine

/-- The text of a line. -/
def text : HunkLine → String
  | context text => text
  | removed text => text
  | added text => text

/-- Whether a line belongs to the old file. -/
def inOld : HunkLine → Bool
  | added _ => false
  | _ => true

/-- Whether a line belongs to the new file. -/
def inNew : HunkLine → Bool
  | removed _ => false
  | _ => true

end HunkLine

/-- A hunk: where it starts and how many lines it has on the old and on the new side, and its
lines. -/
structure Hunk where
  oldStart : Nat
  oldLength : Nat
  newStart : Nat
  newLength : Nat
  lines : List HunkLine
deriving DecidableEq, Repr

namespace Hunk

/-- The number of lines on the old side. -/
def oldCount (hunk : Hunk) : Nat := hunk.lines.countP HunkLine.inOld

/-- The number of lines on the new side. -/
def newCount (hunk : Hunk) : Nat := hunk.lines.countP HunkLine.inNew

/-- The number of lines that are still to come on the old side. -/
def missingOld (hunk : Hunk) : Nat := hunk.oldLength - hunk.oldCount

/-- The number of lines that are still to come on the new side. -/
def missingNew (hunk : Hunk) : Nat := hunk.newLength - hunk.newCount

/-- Whether lines are still to come. -/
def isOpen (hunk : Hunk) : Bool := hunk.missingOld > 0 || hunk.missingNew > 0

/-- The number of lines of the old file before the hunk. A hunk with no old lines names the line
that it follows. -/
def before (hunk : Hunk) : Nat :=
  if hunk.oldLength = 0 then hunk.oldStart else hunk.oldStart - 1

end Hunk

/-- A patch for one file. -/
structure Patch where
  /-- The file that the patch names for its new side. -/
  target : Option String
  hunks : List Hunk
  /-- The new file does not end in a newline. -/
  newUnterminated : Bool
  /-- The old file does not end in a newline. -/
  oldUnterminated : Bool
deriving DecidableEq, Repr

/-- Why a hunk does not apply. Hunks are counted from one. -/
inductive Mismatch where
  /-- The hunk starts before the end of the hunk before it or after the end of the file. -/
  | place (hunk start lineCount patched : Nat)
  /-- A line of the old side is not in the file; nothing is found at the end of the file. -/
  | line (hunk line : Nat) (expected : String) (found : Option String)
deriving DecidableEq, Repr

namespace Mismatch

/-- The number of the hunk. -/
def hunk : Mismatch → Nat
  | place hunk _ _ _ => hunk
  | line hunk _ _ _ => hunk

/-- The line of the file at which the hunk does not apply. -/
def lineNumber : Mismatch → Nat
  | place _ start _ _ => start
  | line _ number _ _ => number

/-- What the hunk expects there. -/
def expected : Mismatch → String
  | place _ start _ _ => "hunk starting at line " ++ toString start
  | line _ _ expected _ => expected

/-- What there is instead. -/
def found : Mismatch → Option String
  | place _ _ lineCount patched =>
    some ("file of " ++ toString lineCount ++ " lines with " ++ toString patched ++
      " already patched")
  | line _ _ _ found => found

/-- The wording of a mismatch. -/
def message (mismatch : Mismatch) : String :=
  "hunk " ++ toString mismatch.hunk ++ " does not apply at line " ++
    toString mismatch.lineNumber ++ ": expected " ++ quoted mismatch.expected ++ ", found " ++
    match mismatch.found with
    | some found => quoted found
    | none => "end of file"

end Mismatch

namespace Patch

/-- Whether every hunk only makes sense for a file that is empty or missing. -/
def createsFile (patch : Patch) : Bool :=
  patch.hunks.all fun hunk => hunk.oldStart = 0 && hunk.oldLength = 0

/-! ### Files as lines -/

/-- The lines of a file, without the newline that ends the last one. An empty file has none. -/
def fileLines (content : String) : List String :=
  if content.isEmpty then []
  else
    let text := content.toList
    let text := if text.getLast? = some '\n' then text.dropLast else text
    (splitAt '\n' text).map String.ofList

/-- Whether the last line of a file, if it has one, ends in a newline. -/
def isTerminated (content : String) : Bool :=
  content.isEmpty || content.toList.getLast? = some '\n'

/-- The file that has some lines, with a newline at its end or not. -/
def fileOfLines (lines : List String) (terminated : Bool) : String :=
  let text := joinWith ['\n'] (lines.map String.toList)
  String.ofList (if terminated && !lines.isEmpty then text ++ ['\n'] else text)

/-! ### Applying -/

/-- Puts the lines of a hunk over the lines of the file that follow its start: the lines of the
new side, the lines of the file after the hunk and the number of the next line. -/
def applyLines (hunk : Nat) :
    List HunkLine → Nat → List String → Except Mismatch (List String × List String × Nat)
  | [], position, rest => .ok ([], rest, position)
  | .added text :: lines, position, rest => do
    let (out, rest, next) ← applyLines hunk lines position rest
    return (text :: out, rest, next)
  | .context text :: lines, position, rest =>
    match rest with
    | [] => .error (.line hunk (position + 1) text none)
    | found :: rest =>
      if found = text then do
        let (out, rest, next) ← applyLines hunk lines (position + 1) rest
        return (text :: out, rest, next)
      else .error (.line hunk (position + 1) text (some found))
  | .removed text :: lines, position, rest =>
    match rest with
    | [] => .error (.line hunk (position + 1) text none)
    | found :: rest =>
      if found = text then applyLines hunk lines (position + 1) rest
      else .error (.line hunk (position + 1) text (some found))

/-- Applies hunks to the lines of a file from a place on. The hunks are numbered from `number`,
and `patched` lines of the file stand before that place. -/
def applyHunks (lineCount : Nat) :
    List Hunk → Nat → Nat → List String → Except Mismatch (List String)
  | [], _, _, rest => .ok rest
  | hunk :: hunks, number, patched, rest =>
    if hunk.before < patched || lineCount < hunk.before then
      .error (.place number hunk.oldStart lineCount patched)
    else do
      let skipped := hunk.before - patched
      let (out, after, next) ← applyLines number hunk.lines hunk.before (rest.drop skipped)
      let tail ← applyHunks lineCount hunks (number + 1) next after
      return rest.take skipped ++ out ++ tail

/-- The file after the patch. A marker on the old side means that a hunk reached the end of the
file, and then only the new side decides on the last newline. -/
def apply (patch : Patch) (content : String) : Except Mismatch String := do
  let lines := fileLines content
  let out ← applyHunks lines.length patch.hunks 1 0 lines
  let terminated := !patch.newUnterminated && (patch.oldUnterminated || isTerminated content)
  return fileOfLines out terminated

end Patch

end Runbook
