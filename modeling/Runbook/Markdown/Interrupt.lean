import Runbook.Markdown.BlockStart
import Runbook.Markdown.Container
import Runbook.Markdown.Html
/-!
# What ends a paragraph

A line after the first of a paragraph continues it unless it starts a block that may interrupt
one. `interruptsText` lists the blocks that may interrupt any text, and `interrupts` adds tables,
which need a header line that starts with a pipe and a delimiter row with as many columns.

The labels of links and footnotes are read here too, because one that goes over a line end must
not be interrupted: `labelEnd?` gives the text after the closing bracket.
-/

set_option autoImplicit false

namespace Runbook.Markdown

/-- The greatest length of a label, of which only escapes, long blanks and characters beyond ASCII
count. -/
def maxLabelLength : Nat := 1000

/-- The number of bytes of a character in UTF-8, if it is beyond ASCII. -/
def wideBytes (c : Char) : Nat := if c.toNat < 128 then 0 else c.utf8Size

/-- Reads a run of blanks in a label, which may go over one line end if a handler accepts the text
after it: the length of the run, whether it is more than one space, and the text after it. -/
def labelBlanks? (newline : List Char → Option (List Char)) :
    Nat → Nat → Bool → List Char → Option (Nat × List Char)
  | 0, _, _, _ => none
  | fuel + 1, length, broke, text =>
    match text with
    | [] => some (length, [])
    | c :: rest =>
      if c == '\n' || c == '\r' then
        if broke then none
        else do
          let afterEnd ← lineEnd? (c :: rest)
          let next ← newline afterEnd
          labelBlanks? newline fuel (length + ((c :: rest).length - next.length)) true next
      else if isInlineBlank c then labelBlanks? newline fuel (length + 1) broke rest
      else some (length, c :: rest)

/-- Reads a label up to its closing bracket: the text after the bracket. The label must hold a
character that is neither blank nor escaped. -/
def readLabel? (newline : List Char → Option (List Char)) :
    Nat → Nat → Bool → List Char → Option (List Char)
  | 0, _, _, _ => none
  | fuel + 1, length, hasText, text =>
    if length ≥ maxLabelLength then none
    else
      match text with
      | [] => none
      | '[' :: _ => none
      | ']' :: rest => if hasText then some rest else none
      | '\\' :: _ :: rest => readLabel? newline fuel (length + 2) hasText rest
      | ['\\'] => none
      | c :: rest =>
        if isAsciiBlank c then
          (labelBlanks? newline (text.length + 1) 0 false (c :: rest)).bind fun (count, next) =>
            readLabel? newline fuel (length + count) hasText next
        else readLabel? newline fuel (length + wideBytes c) true rest

/-- The text after a label, whose opening bracket has been read. -/
def labelEnd? (newline : List Char → Option (List Char)) (text : List Char) :
    Option (List Char) :=
  readLabel? newline (text.length + 1) 0 false text

/-- The text after the marker of a footnote definition, whose label stays on its line. -/
def footnoteMarker? (text : List Char) : Option (List Char) := do
  let label ← after? ['[', '^'] text
  let rest ← labelEnd? (fun _ => none) label
  after? [':'] rest

/-- Whether a block starts here that may interrupt a paragraph or a table. -/
def interruptsText (sameContainer : Bool) (text : List Char) : Bool :=
  atLineEnd text || (thematicBreak? text).isSome || startsHeading text ||
    (openingFence? text).isSome || text.head? == some '>' ||
    listItemInterrupts sameContainer text ||
    (match text with
      | '<' :: rest => (Html.closingOf? rest).isSome || Html.startsBlockElement rest
      | _ => false) ||
    (footnoteMarker? text).isSome

/-- Whether a table starts here that may interrupt a paragraph. -/
def tableInterrupts (spine : Spine) (text : List Char) : Bool :=
  text.head? == some '|' &&
    match afterLine? text with
    | none => false
    | some below =>
      match continueAll? spine below with
      | none => false
      | some cursor =>
        match delimiterRow? cursor.rest, headerColumns? text with
        | some (columns, _), some header => columns == header
        | _, _ => false

/-- Whether a block starts here that may interrupt a paragraph. -/
def interrupts (spine : Spine) (sameContainer : Bool) (text : List Char) : Bool :=
  interruptsText sameContainer text || tableInterrupts spine text

/-- The text of a line inside a paragraph, after what its containers take, unless the line ends
the paragraph. A line of an outer container may continue it. -/
def continueText? (spine : Spine) (text : List Char) : Option (List Char) :=
  let (count, cursor) := continueSpine spine (.ofText text)
  let same := count == spine.length
  if interrupts spine same cursor.rest || (same && (underline? cursor.rest).isSome) then none
  else some cursor.rest

end Runbook.Markdown
