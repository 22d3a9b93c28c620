import Runbook.Markdown.Line
/-!
# Container blocks

The containers that are open around a place, outermost first, form its `Spine`. Each line has to
continue them: a quotation by its marker, a list item by its indentation, a footnote definition by
four columns; a list itself needs nothing. `continueSpine` counts how many containers a line
continues, from the outermost on, and gives the place after what they take.
-/

set_option autoImplicit false

namespace Runbook.Markdown

/-- A block that contains other blocks. -/
inductive Container where
  | quote
  /-- A list with the character of its markers; it is tight while no blank line parts its
  items. -/
  | list (marker : Char) (tight : Bool)
  /-- A list item whose further lines are indented by a number of columns. -/
  | item (indent : Nat)
  /-- The definition of a footnote. -/
  | footnote
deriving DecidableEq, Repr

/-- The open containers, outermost first. -/
abbrev Spine := List Container

/-- The place after columns of indentation, which a line that ends there may fall short of. -/
def LineCursor.indentation? (cursor : LineCursor) (wanted : Nat) : Option LineCursor :=
  let (taken, next) := cursor.takeSpace wanted
  if taken = wanted || next.atEnd then some next else none

/-- The place after the marker of a quotation and the space that belongs to it. -/
def LineCursor.quoteMarker? (cursor : LineCursor) : Option LineCursor :=
  (cursor.char? '>').map fun next => (next.takeSpace 1).2

/-- The place on a line after what a container takes, if the line continues it. -/
def Container.continue? : Container → LineCursor → Option LineCursor
  | .quote, cursor => (cursor.takeSpace 3).2.quoteMarker?
  | .list _ _, cursor => some cursor
  | .item indent, cursor => cursor.indentation? indent
  | .footnote, cursor => cursor.indentation? 4

/-- The number of containers that a line continues, and the place after what they take. -/
def continueSpine : Spine → LineCursor → Nat × LineCursor
  | [], cursor => (0, cursor)
  | container :: inner, cursor =>
    match container.continue? cursor with
    | none => (0, cursor)
    | some next =>
      let (count, last) := continueSpine inner next
      (count + 1, last)

/-- The place on a line after what all open containers take, if the line continues them all. -/
def continueAll? (spine : Spine) (text : List Char) : Option LineCursor :=
  let (count, cursor) := continueSpine spine (.ofText text)
  if count = spine.length then some cursor else none

end Runbook.Markdown
