/-!
# Lines of Markdown

The start of a Markdown line is read as a number of columns of space rather than as characters: a
tab reaches to the next multiple of four columns, and a container may take only some of them. A
`LineCursor` is a place on a line with the columns of a tab that are still owed.

The functions on plain texts know the line ends of Markdown, which are a newline, a carriage
return and both together. `lineEnd?` and `blankLine?` give what follows the end of the line where
it ends here or after blanks. `nextLine` looks for newlines alone, which is how the lines of code
and of markup are cut.
-/

set_option autoImplicit false

namespace Runbook.Markdown

/-! ### Characters -/

/-- A blank inside a line: space, tab, line tabulation or form feed. -/
def isInlineBlank (c : Char) : Bool := c == ' ' || c == '\t' || c == '\x0b' || c == '\x0c'

/-- An ASCII blank or line end. -/
def isAsciiBlank (c : Char) : Bool := isInlineBlank c || c == '\n' || c == '\r'

/-- An ASCII punctuation character, which a backslash can escape. -/
def isPunctuation (c : Char) : Bool :=
  ('!' ≤ c && c ≤ '/') || (':' ≤ c && c ≤ '@') || ('[' ≤ c && c ≤ '`') || ('\x7b' ≤ c && c ≤ '~')

/-! ### Line ends -/

/-- The text after the line end that comes next; the end of the text is one. -/
def lineEnd? : List Char → Option (List Char)
  | [] => some []
  | '\n' :: rest => some rest
  | '\r' :: '\n' :: rest => some rest
  | '\r' :: rest => some rest
  | _ => none

/-- Whether the line ends here. -/
def atLineEnd (text : List Char) : Bool := (lineEnd? text).isSome

/-- The text without the blanks that come next on the line. -/
def skipInlineBlanks (text : List Char) : List Char := text.dropWhile isInlineBlank

/-- The text after the line, if only blanks are left on it. -/
def blankLine? (text : List Char) : Option (List Char) := lineEnd? (skipInlineBlanks text)

/-- The text after the next newline. -/
def nextLine : List Char → List Char
  | [] => []
  | c :: rest => if c == '\n' then rest else nextLine rest

/-- The text up to and with the next newline. -/
def thisLine : List Char → List Char
  | [] => []
  | c :: rest => if c == '\n' then [c] else c :: thisLine rest

/-- A text is its first line and the rest. -/
theorem thisLine_append_nextLine (text : List Char) : thisLine text ++ nextLine text = text := by
  induction text with
  | nil => rfl
  | cons c rest ih =>
    unfold thisLine nextLine
    split <;> simp [ih]

/-- The number of equal characters that come next. -/
def runLength (c : Char) (text : List Char) : Nat := (text.takeWhile (· == c)).length

/-- The text after an opening, if it comes next. -/
def after? : List Char → List Char → Option (List Char)
  | [], text => some text
  | _ :: _, [] => none
  | o :: opening, c :: text => if o = c then after? opening text else none

/-- Whether an opening comes next. -/
def startsWith (text opening : List Char) : Bool := (after? opening text).isSome

/-- Whether some text occurs in another. -/
def occursIn (needle : List Char) : List Char → Bool
  | [] => needle.isEmpty
  | c :: rest => startsWith (c :: rest) needle || occursIn needle rest

/-! ### Columns -/

/-- A place on a line: the text from there, the characters since the last tab, and the columns of
that tab that are not used up. -/
structure LineCursor where
  rest : List Char
  sinceTab : Nat
  owed : Nat
deriving DecidableEq, Repr

namespace LineCursor

/-- The start of a line. -/
def ofText (text : List Char) : LineCursor := ⟨text, 0, 0⟩

/-- Takes columns of space from the text: how many of a wanted number were there. -/
def takeFrom : List Char → Nat → Nat → Nat × LineCursor
  | ' ' :: rest, sinceTab, wanted =>
    if wanted = 0 then (0, ⟨' ' :: rest, sinceTab, 0⟩)
    else
      let (taken, cursor) := takeFrom rest (sinceTab + 1) (wanted - 1)
      (taken + 1, cursor)
  | '\t' :: rest, sinceTab, wanted =>
    if wanted = 0 then (0, ⟨'\t' :: rest, sinceTab, 0⟩)
    else
      let width := 4 - sinceTab % 4
      if wanted < width then (wanted, ⟨rest, 0, width - wanted⟩)
      else
        let (taken, cursor) := takeFrom rest 0 (wanted - width)
        (taken + width, cursor)
  | text, sinceTab, _ => (0, ⟨text, sinceTab, 0⟩)

/-- Takes up to a number of columns of space: how many there were, and the place after them. -/
def takeSpace (cursor : LineCursor) (wanted : Nat) : Nat × LineCursor :=
  if wanted ≤ cursor.owed then (wanted, { cursor with owed := cursor.owed - wanted })
  else
    let (taken, next) := takeFrom cursor.rest cursor.sinceTab (wanted - cursor.owed)
    (cursor.owed + taken, next)

/-- The place after a character, if it comes next. -/
def char? (cursor : LineCursor) (expected : Char) : Option LineCursor :=
  match cursor.rest with
  | c :: rest => if c = expected then some ⟨rest, cursor.sinceTab + 1, cursor.owed⟩ else none
  | [] => none

/-- The place after some characters. -/
def advance (cursor : LineCursor) (count : Nat) : LineCursor :=
  ⟨cursor.rest.drop count, cursor.sinceTab + count, cursor.owed⟩

/-- The place after all spaces and tabs. -/
def skipSpace (cursor : LineCursor) : LineCursor :=
  let run := cursor.rest.takeWhile fun c => c == ' ' || c == '\t'
  ⟨cursor.rest.drop run.length, cursor.sinceTab + run.length, 0⟩

/-- Whether the line ends here. -/
def atEnd (cursor : LineCursor) : Bool :=
  cursor.rest.head?.all fun c => c == '\n' || c == '\r'

end LineCursor

end Runbook.Markdown
