import Runbook.Markdown.Definition
import Runbook.Markdown.Info
import Runbook.Markdown.Outline
/-!
# Fenced blocks of a text

Finds the fenced code blocks of a Markdown text, in order. The text is read block by block; of
each block only its extent matters, and of a fenced block also its info string and its body. A
block is given by what is left of the text at its opening fence and after its end.

`Block.afterParagraph` and its neighbours give the text after each kind of block. A paragraph, a
heading and a table are followed to their last line, not into it.

Scope. Tables, footnote definitions and task lists count as blocks; math and metadata do not.
-/

set_option autoImplicit false

namespace Runbook.Markdown

/-- A fenced block: how many characters of the text are left at its opening fence and how many
after its end, with its info string and its body. -/
structure Fence where
  remaining : Nat
  remainingAfter : Nat
  info : List Char
  body : List Char
deriving DecidableEq, Repr

namespace Block

/-! ### Blocks whose text is not looked into -/

/-- The text after an indented block whose current line has been read. -/
def afterIndented (spine : Spine) : Nat → Bool → List Char → Bool × List Char
  | 0, lastBlank, text => (lastBlank, text)
  | fuel + 1, lastBlank, text =>
    if text.isEmpty then (lastBlank, [])
    else
      match continueAll? spine text with
      | none => (lastBlank, text)
      | some cursor =>
        let (columns, next) := cursor.takeSpace 4
        if columns < 4 && !next.atEnd then (lastBlank, text)
        else afterIndented spine fuel next.atEnd (nextLine next.rest)

/-- The text after markup that runs to the line with a closing. -/
def afterClosing (spine : Spine) (closing : List Char) : Nat → List Char → List Char
  | 0, text => text
  | fuel + 1, text =>
    let below := nextLine text
    match continueAll? spine below with
    | none => below
    | some cursor =>
      if occursIn closing (thisLine text) || cursor.rest.isEmpty then below
      else afterClosing spine closing fuel cursor.rest

/-- The text after markup that runs to a blank line. -/
def afterMarkup (spine : Spine) : Nat → List Char → List Char
  | 0, text => text
  | fuel + 1, text =>
    let below := nextLine text
    match continueAll? spine below with
    | none => below
    | some cursor =>
      if cursor.atEnd || (blankLine? cursor.rest).isSome then below
      else afterMarkup spine fuel cursor.rest

/-- The text after the line end that comes next, of whatever kind. -/
def afterLine (text : List Char) : List Char := (afterLine? text).getD []

/-- The text after the rows of a table. -/
def afterRows (spine : Spine) : Nat → List Char → List Char
  | 0, text => text
  | fuel + 1, text =>
    match continueAll? spine text with
    | none => text
    | some cursor =>
      let row := cursor.skipSpace.rest
      if interruptsText true row then text else afterRows spine fuel (afterLine row)

/-- The text after the delimiter row of the table whose header starts here. -/
def afterTableHead? (spine : Spine) (text : List Char) : Option (List Char) := do
  let columns ← headerColumns? text
  let cursor ← continueAll? spine (← afterLine? text)
  let (delimiters, rest) ← delimiterRow? cursor.rest
  if delimiters = columns then some rest else none

/-- The text after a paragraph, whose first lines have been read. -/
def afterParagraphLines (spine : Spine) : Nat → List Char → List Char
  | 0, text => text
  | fuel + 1, text =>
    let below := afterLine text
    let (count, cursor) := continueSpine spine (.ofText below)
    let same := count == spine.length
    let (columns, next) := cursor.takeSpace 4
    match (if columns < 4 && same then underline? next.rest else none) with
    | some rest => rest
    | none =>
      if columns < 4 && interrupts spine same next.rest then below
      else
        let line := next.skipSpace
        if line.atEnd then below else afterParagraphLines spine fuel line.rest

/-- The text after the paragraph, or the table, that starts here. -/
def afterParagraph (spine : Spine) (text : List Char) : List Char :=
  match afterTableHead? spine text with
  | some rest => afterRows spine (text.length + 1) rest
  | none => afterParagraphLines spine (text.length + 1) text

/-! ### Fenced blocks -/

/-- A line of a body without the carriage return before its last character. -/
def withoutReturn (line : List Char) : List Char :=
  match line.reverse with
  | last :: '\r' :: rest => if last.toNat < 128 then (last :: rest).reverse else line
  | _ => line

/-- Reads the body of a fenced block: its text, what is left after the block, and what is left
after the line of its closing fence. -/
def readBody (spine : Spine) (mark : Char) (length indent : Nat) :
    Nat → List Char → List Char × Nat × List Char
  | 0, text => ([], text.length, text)
  | fuel + 1, text =>
    match continueAll? spine text with
    | none => ([], text.length, text)
    | some cursor =>
      let (_, start) := cursor.takeSpace indent
      let (columns, fence) := start.takeSpace (4 - indent)
      let closing := if columns < 4 - indent then closingFence? mark length fence.rest else none
      match closing with
      | some rest => ([], rest.length, (blankLine? rest).getD rest)
      | none =>
        let line := List.replicate start.owed ' ' ++ withoutReturn (thisLine start.rest)
        let (body, after, rest) := readBody spine mark length indent fuel (nextLine start.rest)
        (line ++ body, after, rest)

/-- The fenced block that starts here after some columns of indentation, and the text after it. -/
def readFence (spine : Spine) (mark : Char) (length indent : Nat) (text : List Char) :
    Fence × List Char :=
  let opening := text.drop length
  let (body, after, rest) :=
    readBody spine mark length indent (text.length + 1) (nextLine (skipInlineBlanks opening))
  (⟨text.length, after, infoOfLine (thisLine (skipInlineBlanks opening)), body⟩, rest)

/-! ### Any block -/

/-- The text after markup that makes a block. -/
def afterHtml? (spine : Spine) (text : List Char) : Option (List Char) := do
  let tag ← after? ['<'] text
  match Html.closingOf? tag with
  | some closing => return afterClosing spine closing.toList (text.length + 1) text
  | none =>
    if Html.startsBlockElement tag || Html.isLoneTag tag then
      return afterMarkup spine (text.length + 1) text
    else none

/-- The block that starts at a place inside its containers: the fence that it is, if it is one,
and the text after it. -/
def readLeaf (spine : Spine) (indent : Nat) (text : List Char) : Option Fence × List Char :=
  match afterHtml? spine text with
  | some rest => (none, rest)
  | none =>
    match thematicBreak? text with
    | some rest => (none, rest)
    | none =>
      if startsHeading text then (none, afterLine text)
      else
        match openingFence? text with
        | some (mark, length, _) =>
          let (fence, rest) := readFence spine mark length indent text
          (some fence, rest)
        | none =>
          match afterDefinition? spine text with
          | some rest => (none, (blankLine? rest).getD rest)
          | none => (none, afterParagraph spine text)

/-- Reads one block: what is open after it, the fence that it is, if it is one, and the text after
it. -/
def read (outline : Outline) (text : List Char) : Outline × Option Fence × List Char :=
  match outline.startLine text with
  | (outline, .bareItem rest) => (outline, none, rest)
  | (outline, .inside cursor) =>
    match blankLine? cursor.rest with
    | some rest => (outline.noteBlank, none, rest)
    | none =>
      let outline := outline.closeList
      let (indent, next) := cursor.takeSpace 4
      if indent = 4 then
        let (lastBlank, rest) :=
          afterIndented outline.spine (text.length + 1) false (nextLine next.rest)
        ({ outline with lastBlank := lastBlank }, none, rest)
      else
        let (fence, rest) := readLeaf outline.spine indent next.rest
        (outline, fence, rest)

end Block

/-- The fenced blocks of a text that is read from a block's start, for at most so many blocks. -/
def fencesFrom : Nat → Outline → List Char → List Fence
  | 0, _, _ => []
  | _, _, [] => []
  | fuel + 1, outline, c :: text =>
    let (outline, fence, rest) := Block.read outline (c :: text)
    fence.toList ++ fencesFrom fuel outline rest

/-- The fenced blocks of a text, in order. Each block takes at least one character. -/
def fences (text : List Char) : List Fence := fencesFrom (text.length + 1) .empty text

end Runbook.Markdown
