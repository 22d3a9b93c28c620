import Runbook.Markdown.Interrupt
/-!
# The open blocks between two lines

What is remembered from one block to the next: the open containers, whether the last line was
blank, and whether the innermost item began with a blank line and has had nothing since. Such an
item stays empty when a blank line follows.

A list is closed by every block that is not an item of it (`closeList`), and an item goes on with
the list of the item before it when the two have the same marker (`startItem`).
-/

set_option autoImplicit false

namespace Runbook.Markdown

/-- What is open between two blocks. -/
structure Outline where
  spine : Spine
  lastBlank : Bool
  emptyItem : Bool
deriving DecidableEq, Repr

/-- A list that is no longer tight; other containers stay as they are. -/
def Container.loosen : Container → Container
  | .list marker _ => .list marker false
  | container => container

namespace Outline

/-- The outline at the start of a text. -/
def empty : Outline := ⟨[], false, false⟩

/-- The innermost container. -/
def innermost? (outline : Outline) : Option Container := outline.spine.getLast?

/-- Opens a container inside the others. -/
def push (outline : Outline) (container : Container) : Outline :=
  { outline with spine := outline.spine ++ [container] }

/-- Closes the innermost container. -/
def pop (outline : Outline) : Outline :=
  let closesTight := match outline.innermost? with
    | some (.list _ true) => true
    | _ => false
  { outline with
    spine := outline.spine.dropLast, emptyItem := outline.emptyItem && !closesTight }

/-- Closes a number of containers, the innermost first. -/
def close : Nat → Outline → Outline
  | 0, outline => outline
  | count + 1, outline => close count outline.pop

/-- Replaces the container at a depth, counted from the innermost. -/
def modify (outline : Outline) (depth : Nat) (f : Container → Container) : Outline :=
  if depth < outline.spine.length then
    { outline with spine := outline.spine.modify (outline.spine.length - 1 - depth) f }
  else outline

/-- Closes the innermost item if it stayed empty before a blank line. -/
def closeEmptyItem (outline : Outline) : Outline :=
  let closed := match outline.innermost? with
    | some (.item _) => if outline.emptyItem && outline.lastBlank then outline.pop else outline
    | _ => outline
  { closed with emptyItem := false }

/-- Closes the innermost list, because something follows that is no item of it. A blank line
before that makes the list around it loose. -/
def closeList (outline : Outline) : Outline :=
  let outline := outline.closeEmptyItem
  let outline := match outline.innermost? with
    | some (.list _ _) => outline.pop
    | _ => outline
  if outline.lastBlank then { outline.modify 1 Container.loosen with lastBlank := false }
  else outline

/-- Opens an item in the innermost list, or in a new list if the marker is another one. -/
def startItem (outline : Outline) (marker : Char) (indent : Nat) : Outline :=
  let outline := outline.closeEmptyItem
  let continues := match outline.innermost? with
    | some (.list existing _) => existing == marker
    | _ => false
  let outline :=
    if continues then
      if outline.lastBlank then { outline.modify 0 Container.loosen with lastBlank := false }
      else outline
    else
      let closed := if outline.spine.isEmpty then outline else outline.closeList
      { closed.push (.list marker true) with lastBlank := false }
  outline.push (.item indent)

/-- Opens the definition of a footnote, which closes the one right around it. -/
def startFootnote (outline : Outline) : Outline :=
  let outline := outline.closeList
  let outline := if outline.innermost? = some .footnote then outline.pop else outline
  outline.push .footnote

/-- Notes a blank line. One after the marker of an item leaves the item no further lines. -/
def noteBlank (outline : Outline) : Outline :=
  match outline.innermost? with
  | some .quote => outline
  | some (.item _) =>
    let outline := { outline with lastBlank := true }
    if outline.emptyItem then outline.modify 0 fun _ => .item 0 else outline
  | _ => { outline with lastBlank := true }

end Outline

/-- What the start of a line leads to once its containers are open. -/
inductive LineStart where
  /-- An item whose marker stands alone, with the text after its line. -/
  | bareItem (rest : List Char)
  /-- A place on the line inside the innermost container. -/
  | inside (cursor : LineCursor)

/-- Opens the containers that start on a line, one after the other. -/
def openContainers : Nat → Outline → LineCursor → Outline × LineStart
  | 0, outline, cursor => (outline, .inside cursor)
  | fuel + 1, outline, cursor =>
    let (columns, start) := cursor.takeSpace 4
    if columns ≥ 4 then (outline, .inside cursor)
    else
      match footnoteMarker? start.rest with
      | some rest =>
        openContainers fuel outline.startFootnote (.ofText (skipInlineBlanks rest))
      | none =>
        match start.listItem? columns with
        | some (marker, indent, next) =>
          let outline := outline.startItem marker indent
          match blankLine? next.rest with
          | some rest => ({ outline with emptyItem := true }, .bareItem rest)
          | none =>
            match next.taskMarker? with
            | none => openContainers fuel outline next
            | some boxed =>
              match blankLine? boxed.rest with
              | some rest => (outline, .bareItem rest)
              | none => openContainers fuel outline boxed
        | none =>
          match start.quoteMarker? with
          | some next => openContainers fuel (outline.closeList.push .quote) next
          | none => (outline, .inside cursor)

/-- The start of a line between two blocks: containers that it does not continue are closed, and
those that it starts are opened. -/
def Outline.startLine (outline : Outline) (text : List Char) : Outline × LineStart :=
  let (count, cursor) := continueSpine outline.spine (.ofText text)
  openContainers (text.length + 1) (outline.close (outline.spine.length - count)) cursor

end Runbook.Markdown
