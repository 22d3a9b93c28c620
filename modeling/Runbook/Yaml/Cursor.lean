/-!
# Reading positions in YAML text

YAML has character classes of its own: blanks are space and tab alone, and a line ends at a
newline, a carriage return, or one of three Unicode line ends. A `Cursor` is the text that is
still to be read together with its place, of which the grammar needs the column, for indentation,
and the line and index, for the limits on implicit keys.

Scope. A text may hold only the characters of the YAML character set, `isPermitted`; the reader
of a whole text checks them first.
-/

set_option autoImplicit false

namespace Runbook.Yaml

/-- A space or a tab. -/
def isBlank (c : Char) : Bool := c == ' ' || c == '\t'

/-- A character that ends a line. -/
def isBreak (c : Char) : Bool :=
  c == '\n' || c == '\r' || c == '\u0085' || c == '\u2028' || c == '\u2029'

/-- A character of names: an ASCII letter or digit, an underscore or a hyphen. -/
def isNameChar (c : Char) : Bool := c.isAlphanum || c == '_' || c == '-'

/-- A character of the YAML character set. -/
def isPermitted (c : Char) : Bool :=
  let n := c.toNat
  n == 0x09 || n == 0x0a || n == 0x0d || (0x20 ≤ n && n ≤ 0x7e) || n == 0x85 ||
    (0xa0 ≤ n && n ≤ 0xd7ff) || (0xe000 ≤ n && n ≤ 0xfffd) || 0x10000 ≤ n

/-- The text still to be read and its place. -/
structure Cursor where
  rest : List Char
  line : Nat
  column : Nat
  index : Nat

namespace Cursor

/-- The start of a text. -/
def ofText (text : List Char) : Cursor := ⟨text, 0, 0, 0⟩

/-- The character at a distance ahead. -/
def ahead (c : Cursor) (distance : Nat) : Option Char := c.rest[distance]?

/-- Whether a given character comes next. -/
def sees (c : Cursor) (expected : Char) : Bool := c.rest.head? == some expected

/-- Whether a blank comes next. -/
def seesBlank (c : Cursor) : Bool := c.rest.head?.any isBlank

/-- Whether a line end comes next. -/
def seesBreak (c : Cursor) : Bool := c.rest.head?.any isBreak

/-- Whether the line ends here, by a line end or by the end of the text. -/
def seesLineEnd (c : Cursor) : Bool := c.rest.head?.all isBreak

/-- Whether a word would end at a distance ahead: at a blank, a line end or the end of the
text. -/
def wordEndsAt (c : Cursor) (distance : Nat) : Bool :=
  (c.ahead distance).all fun ch => isBlank ch || isBreak ch

/-- The place after some characters of the line. -/
def advance (c : Cursor) (count : Nat) : Cursor :=
  ⟨c.rest.drop count, c.line, c.column + count, c.index + count⟩

/-- The place after the characters of the line up to a given rest of the text. -/
def advanceTo (c : Cursor) (rest : List Char) : Cursor :=
  c.advance (c.rest.length - rest.length)

/-- The longest run of characters of a class, and the place after it. -/
def takeWhile (c : Cursor) (p : Char → Bool) : List Char × Cursor :=
  let run := c.rest.takeWhile p
  (run, c.advance run.length)

/-- The place after the longest run of characters of a class. -/
def skipWhile (c : Cursor) (p : Char → Bool) : Cursor := (c.takeWhile p).2

/-- The line end that comes next, as the text that stands for it, and the start of the next
line. Nothing is read where no line ends. -/
def readBreak (c : Cursor) : List Char × Cursor :=
  match c.rest with
  | '\r' :: '\n' :: rest => (['\n'], ⟨rest, c.line + 1, 0, c.index + 2⟩)
  | ch :: rest =>
    if isBreak ch then
      let text := if ch == '\u2028' || ch == '\u2029' then ch else '\n'
      ([text], ⟨rest, c.line + 1, 0, c.index + 1⟩)
    else ([], c)
  | [] => ([], c)

/-- The start of the next line, if the line ends here. -/
def skipBreak (c : Cursor) : Cursor := c.readBreak.2

/-- The end of the line, past a comment if one starts here. -/
def skipComment (c : Cursor) : Cursor :=
  if c.sees '#' then c.skipWhile fun ch => !isBreak ch else c

/-- Whether a line of three given characters, alone or before a blank, starts here. -/
def seesMarker (c : Cursor) (mark : Char) : Bool :=
  c.column == 0 && c.rest.take 3 == [mark, mark, mark] && c.wordEndsAt 3

/-- Whether a document starts or ends here. -/
def seesDocumentMarker (c : Cursor) : Bool := c.seesMarker '-' || c.seesMarker '.'

end Cursor

end Runbook.Yaml
