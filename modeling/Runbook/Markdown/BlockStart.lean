import Runbook.Markdown.Line
/-!
# Starts of blocks

What the start of a line says about the block that begins there: a thematic break, a heading, the
underline of a heading, a fence, a list item, the delimiter row of a table. Each function looks at
a text that starts after the indentation of the line.
-/

set_option autoImplicit false

namespace Runbook.Markdown

/-! ### Breaks and headings -/

/-- The number of times that a character occurs on the rest of a line that otherwise holds only
blanks, and what follows the line; `none` when there is anything else. -/
def onlyOnLine? (mark : Char) : List Char → Option (Nat × List Char)
  | [] => some (0, [])
  | c :: rest =>
    if c == '\n' || c == '\r' then (lineEnd? (c :: rest)).map fun after => (0, after)
    else if c == mark then
      (onlyOnLine? mark rest).map fun (count, after) => (count + 1, after)
    else if c == ' ' || c == '\t' then onlyOnLine? mark rest
    else none

/-- The text after a thematic break: three or more equal marks and nothing else but blanks. -/
def thematicBreak? : List Char → Option (List Char)
  | [] => none
  | c :: rest =>
    if c == '*' || c == '-' || c == '_' then
      match onlyOnLine? c (c :: rest) with
      | some (count, after) => if count ≥ 3 then some after else none
      | none => none
    else none

/-- Whether a heading starts here: one to six number signs before a blank or the line's end. -/
def startsHeading (text : List Char) : Bool :=
  let level := runLength '#' text
  1 ≤ level && level ≤ 6 && (text.drop level).head?.all isAsciiBlank

/-- The text after the underline of a heading: equals signs or hyphens alone on the line. -/
def underline? : List Char → Option (List Char)
  | [] => none
  | c :: rest =>
    if c == '=' || c == '-' then blankLine? (rest.dropWhile (· == c)) else none

/-! ### Fences -/

/-- The opening of a fenced block: its character, its length and the text after it. A fence of
backticks has none in the rest of its line. -/
def openingFence? : List Char → Option (Char × Nat × List Char)
  | [] => none
  | c :: rest =>
    if c == '`' || c == '~' then
      let length := runLength c (c :: rest)
      let after := (c :: rest).drop length
      if length < 3 || (c == '`' && (thisLine after).contains '`') then none
      else some (c, length, after)
    else none

/-- The text after a closing fence: at least as many marks as opened the block, then only spaces.
The end of the text closes every fence. -/
def closingFence? (mark : Char) (length : Nat) (text : List Char) : Option (List Char) :=
  if text.isEmpty then some []
  else
    let count := runLength mark text
    let after := (text.drop count).dropWhile (· == ' ')
    if count ≥ length && atLineEnd after then some after else none

/-! ### List items -/

/-- The greatest number of digits in the marker of an ordered item. -/
def maxMarkerDigits : Nat := 9

/-- The marker of a list item: its character (the delimiter, for an ordered one), its number, the
width of the marker and the text after it. -/
def listMarker? : List Char → Option (Char × Nat × Nat × List Char)
  | [] => none
  | c :: rest =>
    if c == '-' || c == '+' || c == '*' then some (c, 0, 1, rest)
    else
      let digits := (c :: rest).takeWhile Char.isDigit
      let number := digits.foldl (fun n d => 10 * n + (d.toNat - '0'.toNat)) 0
      if digits.isEmpty || digits.length > maxMarkerDigits then none
      else
        match (c :: rest).drop digits.length with
        | delimiter :: after =>
          if delimiter == '.' || delimiter == ')' then
            some (delimiter, number, digits.length + 1, after)
          else none
        | [] => none

/-- The start of a list item: the character of its marker, the columns that its further lines are
indented by, and the place after the marker and its space. The marker stands after some columns
of indentation. -/
def LineCursor.listItem? (cursor : LineCursor) (outer : Nat) :
    Option (Char × Nat × LineCursor) := do
  let (marker, _, width, _) ← listMarker? cursor.rest
  if (thematicBreak? cursor.rest).isSome then none
  let afterMarker := cursor.advance width
  let (taken, next) := afterMarker.takeSpace 1
  if taken = 0 && !next.atEnd then none
  let indent := outer + width + 1
  if (blankLine? next.rest).isSome then return (marker, indent, next)
  let (more, inner) := next.takeSpace 4
  return if more < 4 then (marker, indent + more, inner) else (marker, indent, next)

/-- Whether the rest of a marker's line and the line after it are blank. -/
def startsEmptyItem (afterMarker : List Char) : Bool :=
  ((blankLine? afterMarker).bind blankLine?).isSome

/-- Whether a list item that starts here may interrupt a paragraph: always one of an outer
container, else only one that is not empty and, if it is ordered, has the number one. -/
def listItemInterrupts (sameContainer : Bool) (text : List Char) : Bool :=
  match listMarker? text with
  | none => false
  | some (marker, number, _, after) =>
    let spaced := after.head?.all fun c => c == ' ' || c == '\t' || c == '\n' || c == '\r'
    let ordered := marker == '.' || marker == ')'
    spaced && (!sameContainer || ((!ordered || number == 1) && !startsEmptyItem after))

/-- Whether the box of a task stands here after up to three columns, and the place after it. -/
def LineCursor.taskMarker? (cursor : LineCursor) : Option LineCursor := do
  let opened ← (cursor.takeSpace 3).2.char? '['
  let c ← opened.rest.head?
  if !(isInlineBlank c || c == 'x' || c == 'X') then none
  let closed ← (opened.advance 1).char? ']'
  if closed.rest.head?.any isInlineBlank then some closed else none

/-! ### Tables -/

/-- The state of reading a delimiter row: whether a column has just begun, whether a pipe and a
hyphen have been seen, whether the current column has a hyphen, and the number of columns. -/
structure DelimiterRow where
  startsColumn : Bool
  pipe : Bool
  hyphen : Bool
  columnHyphen : Bool
  columns : Nat

/-- Reads a delimiter row to the end of its line. -/
def readDelimiters? : DelimiterRow → List Char → Option (DelimiterRow × List Char)
  | row, [] => some (row, [])
  | row, c :: rest =>
    if c == '\n' || c == '\r' then (lineEnd? (c :: rest)).map fun after => (row, after)
    else if c == ' ' then readDelimiters? row rest
    else if c == ':' then readDelimiters? { row with startsColumn := false } rest
    else if c == '-' then
      readDelimiters? { row with startsColumn := false, hyphen := true, columnHyphen := true } rest
    else if c == '|' then
      if row.columnHyphen then
        readDelimiters? { row with
          startsColumn := true, pipe := true, columnHyphen := false, columns := row.columns + 1 }
          rest
      else none
    else none

/-- The delimiter row of a table: the number of its columns and the text after the row. -/
def delimiterRow? (text : List Char) : Option (Nat × List Char) := do
  let (spaces, cursor) := (LineCursor.ofText text).takeSpace 4
  if spaces > 3 || cursor.rest.isEmpty then none
  let body := (after? ['|'] cursor.rest).getD cursor.rest
  let (row, rest) ← readDelimiters? ⟨true, false, false, false, 0⟩ body
  if !row.pipe || !row.hyphen then none
  return (if row.startsColumn then row.columns else row.columns + 1, rest)

/-- The pipes of a line that no backslash precedes: their number and the text after the last. -/
def countPipes : Bool → List Char → Nat × Option (List Char)
  | _, [] => (0, none)
  | escaped, c :: rest =>
    if c == '\n' || c == '\r' then (0, none)
    else
      let (count, last) := countPipes (c == '\\') rest
      if c == '|' && !escaped then (count + 1, some (last.getD rest)) else (count, last)

/-- The number of columns of a header line: one more than its pipes, those at its two ends not
counted. `none` when it has no pipe or is the last line of the text. -/
def headerColumns? (line : List Char) : Option Nat :=
  match countPipes false line with
  | (_, none) => none
  | (pipes, some afterLast) =>
    let pipes := if (skipInlineBlanks line).head? == some '|' then pipes - 1 else pipes
    some (if (blankLine? afterLast).isSome then pipes else pipes + 1)

/-- The text after the line end of the line, `none` on the last line of the text. -/
def afterLine? (text : List Char) : Option (List Char) :=
  match text.dropWhile fun c => c != '\n' && c != '\r' with
  | [] => none
  | rest => lineEnd? rest

end Runbook.Markdown
