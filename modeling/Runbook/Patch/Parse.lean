import Runbook.Patch.Basic
import Runbook.Text.Blank
import Runbook.Text.Digit
/-!
# Reading patches

A patch is read line by line. A header opens a hunk and says how many lines it has on each side;
the lines that follow belong to the hunk until both numbers are reached. A line that starts with a
backslash says that the line before it, on the sides that have it, is the last of its file and not
terminated. Outside hunks only blank lines stand, and before the first one also the lines that
name the files.

`PatchError` says what can be wrong, with the number of the line where it is.
-/

set_option autoImplicit false

namespace Runbook.Patch

open Text

/-- Why a text is not a patch. Lines and hunks are counted from one. -/
inductive PatchError where
  /-- A hunk has fewer lines than its header declares. -/
  | truncated (hunk missingOld missingNew : Nat)
  /-- A number of a header does not fit a machine word. -/
  | number (line : Nat)
  /-- A hunk has old lines but starts before the first line. -/
  | startsAtZero (line : Nat)
  /-- A line stands outside every hunk. -/
  | outside (line : Nat) (text : String)
  /-- A line of a hunk has none of the three markers. -/
  | unmarked (line : Nat) (text : String)
  /-- A hunk has more lines on one side than its header declares. -/
  | surplus (line hunk : Nat)
  /-- There is no hunk. -/
  | empty
deriving DecidableEq, Repr

/-- The wording of an error. -/
def PatchError.message : PatchError → String
  | truncated hunk old new =>
    "hunk " ++ toString hunk ++ " is truncated: " ++ toString old ++ " old and " ++ toString new ++
      " new line(s) missing"
  | number line => "line " ++ toString line ++ ": hunk header number out of range"
  | startsAtZero line =>
    "line " ++ toString line ++ ": hunk removes lines but starts at line 0"
  | outside line text =>
    "line " ++ toString line ++ ": unexpected text outside a hunk: " ++ quoted text
  | unmarked line text =>
    "line " ++ toString line ++ ": hunk lines must start with ' ', '-' or '+': " ++ quoted text
  | surplus line hunk =>
    "line " ++ toString line ++ ": hunk " ++ toString hunk ++
      " has more lines than its header declares"
  | empty => "patch has no hunks"

/-! ### Headers -/

/-- The text after an opening, if it starts with it. -/
def strip? : List Char → List Char → Option (List Char)
  | [], text => some text
  | _ :: _, [] => none
  | o :: opening, c :: text => if o = c then strip? opening text else none

/-- The digits that come next, at least one, and the text after them. -/
def digits? (text : List Char) : Option (List Char × List Char) :=
  let digits := text.takeWhile isDecimalDigit
  if digits.isEmpty then none else some (digits, text.drop digits.length)

/-- The digits for one side of a hunk: its start and its length, if that is given, and the text
after them. -/
def side? (text : List Char) : Option (List Char × Option (List Char) × List Char) := do
  let (start, rest) ← digits? text
  match rest with
  | ',' :: rest =>
    let (length, rest) ← digits? rest
    return (start, some length, rest)
  | _ => return (start, none, rest)

/-- The digits of the header of a hunk. -/
structure Header where
  oldStart : List Char
  oldLength : Option (List Char)
  newStart : List Char
  newLength : Option (List Char)

/-- The header that a line is. Anything may follow its closing marks. -/
def header? (line : List Char) : Option Header := do
  let (oldStart, oldLength, rest) ← side? (← strip? "@@ -".toList line)
  let (newStart, newLength, rest) ← side? (← strip? " +".toList rest)
  let _ ← strip? " @@".toList rest
  return ⟨oldStart, oldLength, newStart, newLength⟩

/-- The greatest number that a header may hold. -/
def maxNumber : Nat := 0xffffffffffffffff

/-- The number that digits stand for: only ASCII digits make one, and only up to a limit. -/
def number? (digits : List Char) : Option Nat :=
  if digits.all Char.isDigit then
    let n := digits.foldl (fun n d => 10 * n + (d.toNat - '0'.toNat)) 0
    if n ≤ maxNumber then some n else none
  else none

/-- The hunk that a header opens. A length that is left out is one. -/
def Header.hunk? (header : Header) : Option Hunk := do
  let oldStart ← number? header.oldStart
  let oldLength ← number? (header.oldLength.getD ['1'])
  let newStart ← number? header.newStart
  let newLength ← number? (header.newLength.getD ['1'])
  return ⟨oldStart, oldLength, newStart, newLength, []⟩

/-- The file that a header line names: no file for an empty name and for the null device, else the
name up to a tab without the mark of its side. -/
def headerPath (text : List Char) : Option String :=
  let name := (trim (String.ofList (text.takeWhile (· != '\t')))).toList
  if name.isEmpty || name = "/dev/null".toList then none
  else some (String.ofList ((strip? "b/".toList name).getD name))

/-! ### Lines -/

/-- The lines that may stand before the first hunk. -/
def isPreamble (line : List Char) : Bool :=
  ["--- ", "diff ", "index "].any fun opening => (strip? opening.toList line).isSome

/-- The line of a hunk that a text line is. Blank context may have lost its marker. -/
def hunkLine? : List Char → Option HunkLine
  | [] => some (.context "")
  | ' ' :: text => some (.context (String.ofList text))
  | '-' :: text => some (.removed (String.ofList text))
  | '+' :: text => some (.added (String.ofList text))
  | _ => none

/-- What has been read of a patch, the last hunk apart from those before it. -/
structure Reading where
  target : Option String
  earlier : List Hunk
  last : Option Hunk
  newUnterminated : Bool
  oldUnterminated : Bool

namespace Reading

/-- Nothing has been read. -/
def empty : Reading := ⟨none, [], none, false, false⟩

/-- The hunks that have been read. -/
def hunks (reading : Reading) : List Hunk := reading.earlier ++ reading.last.toList

/-- The error of a last hunk that is not complete. -/
def truncation? (reading : Reading) : Option PatchError :=
  match reading.last with
  | none => none
  | some hunk =>
    if hunk.isOpen then
      some (.truncated reading.hunks.length hunk.missingOld hunk.missingNew)
    else none

/-- Opens the hunk of a header. -/
def openHunk (reading : Reading) (number : Nat) (header : Header) : Except PatchError Reading :=
  match reading.truncation? with
  | some e => .error e
  | none =>
    match header.hunk? with
    | none => .error (.number number)
    | some hunk =>
      if hunk.oldLength > 0 && hunk.oldStart = 0 then .error (.startsAtZero number)
      else .ok { reading with earlier := reading.hunks, last := some hunk }

/-- Notes that the last line that was read is not terminated. -/
def noteUnterminated (reading : Reading) : Reading :=
  match reading.last.bind fun hunk => hunk.lines.getLast? with
  | none => reading
  | some line => { reading with
      newUnterminated := reading.newUnterminated || line.inNew
      oldUnterminated := reading.oldUnterminated || line.inOld }

/-- Reads a line outside every hunk. -/
def readOutside (reading : Reading) (number : Nat) (line : List Char) :
    Except PatchError Reading :=
  let blank := line.all isBlank
  if reading.last.isSome then
    if blank then .ok reading else .error (.outside number (String.ofList line))
  else
    match strip? "+++ ".toList line with
    | some name => .ok { reading with target := headerPath name }
    | none =>
      if isPreamble line || blank then .ok reading
      else .error (.outside number (String.ofList line))

/-- Reads a line of a hunk that is not complete. -/
def readInside (reading : Reading) (hunk : Hunk) (number : Nat) (line : List Char) :
    Except PatchError Reading :=
  match hunkLine? line with
  | none => .error (.unmarked number (String.ofList line))
  | some entry =>
    if (entry.inOld && hunk.missingOld = 0) || (entry.inNew && hunk.missingNew = 0) then
      .error (.surplus number reading.hunks.length)
    else .ok { reading with last := some { hunk with lines := hunk.lines ++ [entry] } }

/-- Reads a line. -/
def readLine (reading : Reading) (number : Nat) (line : List Char) : Except PatchError Reading :=
  match header? line with
  | some header => reading.openHunk number header
  | none =>
    if line.head? = some '\\' then .ok reading.noteUnterminated
    else
      match reading.last with
      | some hunk =>
        if hunk.isOpen then reading.readInside hunk number line
        else reading.readOutside number line
      | none => reading.readOutside number line

/-- Reads lines, the first of which has a number. -/
def readLines (reading : Reading) : Nat → List (List Char) → Except PatchError Reading
  | _, [] => .ok reading
  | number, line :: lines =>
    match reading.readLine number line with
    | .error e => .error e
    | .ok reading => reading.readLines (number + 1) lines

/-- The patch that has been read, at the end of the text. -/
def finish (reading : Reading) : Except PatchError Patch :=
  match reading.truncation? with
  | some e => .error e
  | none =>
    if reading.hunks.isEmpty then .error .empty
    else .ok ⟨reading.target, reading.hunks, reading.newUnterminated, reading.oldUnterminated⟩

end Reading

/-- Reads a patch. -/
def parse (text : String) : Except PatchError Patch :=
  match Reading.empty.readLines 1 (contentLines text.toList) with
  | .error e => .error e
  | .ok reading => reading.finish

end Runbook.Patch
