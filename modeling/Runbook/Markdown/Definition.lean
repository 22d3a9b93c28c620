import Runbook.Markdown.Interrupt
/-!
# Link reference definitions

A label in brackets and a colon, a destination and an optional title, which may go over line ends
as long as nothing interrupts a paragraph there. `afterDefinition?` gives the text after such a
definition. A title that is on a line of its own and turns out to be none leaves the definition
without it.
-/

set_option autoImplicit false

namespace Runbook.Markdown

/-- The deepest nesting of parentheses in a destination without angle brackets. -/
def maxNesting : Nat := 2

/-- The text after a destination in angle brackets, from its second character on. -/
def afterPointed? : List Char → Option (List Char)
  | [] => none
  | '>' :: rest => some rest
  | '\n' :: _ => none
  | '\r' :: _ => none
  | '<' :: _ => none
  | ['\\'] => none
  | '\\' :: c :: rest =>
    if isPunctuation c then afterPointed? rest else afterPointed? (c :: rest)
  | _ :: rest => afterPointed? rest

/-- The text after a destination without angle brackets, inside some open parentheses. -/
def afterPlain? : Nat → List Char → Option (List Char)
  | nesting, [] => if nesting = 0 then some [] else none
  | nesting, '\\' :: c :: rest =>
    if isPunctuation c then afterPlain? nesting rest
    else if c.toNat ≤ 0x20 then (if nesting = 0 then some (c :: rest) else none)
    else afterPlain? nesting rest
  | nesting, c :: rest =>
    if c.toNat ≤ 0x20 then (if nesting = 0 then some (c :: rest) else none)
    else if c == '(' then
      if nesting ≥ maxNesting then none else afterPlain? (nesting + 1) rest
    else if c == ')' then
      if nesting = 0 then some (c :: rest) else afterPlain? (nesting - 1) rest
    else afterPlain? nesting rest

/-- The text after a destination, which is not empty unless it has angle brackets. -/
def afterDestination? : List Char → Option (List Char)
  | '<' :: rest => afterPointed? rest
  | text =>
    match afterPlain? 0 text with
    | some rest => if rest.length = text.length then none else some rest
    | none => none

/-- The place where a line inside a definition goes on, unless a block interrupts it. -/
def continueDefinition? (spine : Spine) (text : List Char) : Option LineCursor :=
  let (count, cursor) := continueSpine spine (.ofText text)
  let (taken, next) := cursor.takeSpace 4
  if taken < 4 && (interrupts spine (count == spine.length) next.rest ||
      (underline? next.rest).isSome) then none
  else some next

/-- The text after the blanks between the parts of a definition, which go over at most one line
end, and whether they go over one. -/
def afterGap? (spine : Spine) (text : List Char) : Option (List Char × Bool) := do
  let spaced := skipInlineBlanks text
  if !atLineEnd spaced then return (spaced, false)
  let next ← continueDefinition? spine (← lineEnd? spaced)
  let spaced := skipInlineBlanks next.rest
  if atLineEnd spaced then none else return (spaced, true)

/-- The text after the closing character of a title. -/
def afterTitleText? (spine : Spine) (closing : Char) : Nat → List Char → Option (List Char)
  | 0, _ => none
  | _, [] => none
  | fuel + 1, c :: rest =>
    if c == '(' && closing == ')' then none
    else if c == '\n' || c == '\r' then do
      let next ← continueDefinition? spine (← lineEnd? (c :: rest))
      let text := next.skipSpace.rest
      if (blankLine? text).isSome then none else afterTitleText? spine closing fuel text
    else if c == '\\' then
      match rest with
      | '\n' :: _ => afterTitleText? spine closing fuel rest
      | _ => afterTitleText? spine closing fuel (rest.drop 1)
    else if c == closing then some rest
    else afterTitleText? spine closing fuel rest

/-- The text after a title. -/
def afterTitle? (spine : Spine) (text : List Char) : Option (List Char) :=
  match text with
  | '"' :: rest => afterTitleText? spine '"' (rest.length + 1) rest
  | '\'' :: rest => afterTitleText? spine '\'' (rest.length + 1) rest
  | '(' :: rest => afterTitleText? spine ')' (rest.length + 1) rest
  | _ => none

/-- The text after a definition whose label and colon have been read. -/
def afterTarget? (spine : Spine) (text : List Char) : Option (List Char) := do
  let (text, _) ← afterGap? spine text
  let untitled ← afterDestination? text
  match afterGap? spine untitled with
  | none => return untitled
  | some (text, overLine) =>
    if !overLine && text.length = untitled.length then none
    match (afterTitle? spine text).bind blankLine? with
    | some rest => return rest
    | none => if overLine then return untitled else none

/-- The text after a link reference definition. -/
def afterDefinition? (spine : Spine) (text : List Char) : Option (List Char) := do
  let label ← after? ['['] text
  let rest ← labelEnd? (continueText? spine) label
  afterTarget? spine (← after? [':'] rest)

end Runbook.Markdown
