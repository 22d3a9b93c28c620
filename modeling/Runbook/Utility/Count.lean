import Runbook.Utility.Basic
/-!
# Counting

`wc` counts the lines, words and bytes of files.
-/

set_option autoImplicit false

namespace Runbook.Utility

open Sandbox

/-! ### Words -/

/-- The numbers of lines, words and bytes of a text. -/
structure Counts where
  lines : Nat
  words : Nat
  bytes : Nat
deriving DecidableEq, Repr

/-- Whether a character parts words. -/
def isSpace (c : Char) : Bool := c ∈ [' ', '\t', '\n', '\x0b', '\x0c', '\r']

/-- The words of a text. -/
def wordsOf (text : String) : List String :=
  let pieces := text.toList.splitBy fun a b => isSpace a = isSpace b
  (pieces.filter fun piece => !piece.any isSpace).map String.ofList

/-- Counts a text. -/
def countsOf (text : String) : Counts :=
  ⟨text.toList.count '\n', (wordsOf text).length, text.length⟩

/-- A number filled up on its left. -/
def padLeft (width : Nat) (text : String) : String :=
  String.ofList (List.replicate (width - text.length) ' ') ++ text

/-- Runs `wc`. -/
def wc (arguments : List String) (_ : List (String × String)) : Run Nat :=
  withGiven "wc" { plain := "clLmw", long := [("lines", 'l'), ("words", 'w'), ("bytes", 'c'),
      ("chars", 'm')] } arguments fun given => do
  let wanted := [given.has 'l', given.has 'w', given.has 'c' || given.has 'm']
  let wanted := if wanted.any id then wanted else [true, true, true]
  let select (counts : Counts) : List Nat :=
    ([counts.lines, counts.words, counts.bytes].zip wanted).filterMap fun (n, on) =>
      if on then some n else none
  let mut rows : List (Counts × String) := []
  let mut status := 0
  for path in if given.others.isEmpty then ["-"] else given.others do
    match ← textOf? "wc" path with
    | some text =>
      rows := rows ++ [(countsOf text, if given.others.isEmpty then "" else " " ++ path)]
    | none => status := 1
  let total := rows.foldl (fun sum row =>
      ⟨sum.lines + row.1.lines, sum.words + row.1.words, sum.bytes + row.1.bytes⟩)
    (⟨0, 0, 0⟩ : Counts)
  if given.others.length > 1 then rows := rows ++ [(total, " total")]
  let width := if (wanted.filter id).length = 1 && given.others.length ≤ 1 then 1
    else if given.others.isEmpty || "-" ∈ given.others then 7
    else (toString total.bytes).length
  for (counts, name) in rows do
    let numbers := (select counts).map fun n => padLeft width (toString n)
    Run.print 1 (line (" ".intercalate numbers ++ name))
  return status

end Runbook.Utility
