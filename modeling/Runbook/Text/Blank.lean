/-!
# Blank characters

The characters that count as blank in arguments, scripts and block bodies are those with the
Unicode property `White_Space`. The carriers of markup (Markdown lines, YAML) have narrower rules
of their own, which stand with those formats.

`trim` removes blanks at the ends of a text, and `words` cuts it at its blanks.

Scope. The table is the whole property: 25 code points in ten ranges, unchanged since Unicode 6.3.
-/

set_option autoImplicit false

namespace Runbook.Text

/-- The code point ranges of the Unicode property `White_Space`. -/
def blankRanges : List (Nat × Nat) :=
  [(0x09, 0x0d), (0x20, 0x20), (0x85, 0x85), (0xa0, 0xa0), (0x1680, 0x1680), (0x2000, 0x200a),
    (0x2028, 0x2029), (0x202f, 0x202f), (0x205f, 0x205f), (0x3000, 0x3000)]

/-- A character is blank when it has the Unicode property `White_Space`. -/
def isBlank (c : Char) : Bool :=
  blankRanges.any fun range => range.1 ≤ c.toNat && c.toNat ≤ range.2

/-- The text without its leading blanks. -/
def dropBlanks (text : List Char) : List Char :=
  text.dropWhile isBlank

/-- The text without its trailing blanks. -/
def dropTrailing (drop : Char → Bool) (text : List Char) : List Char :=
  (text.reverse.dropWhile drop).reverse

/-- The text without blanks at either end. -/
def trim (text : String) : String :=
  String.ofList (dropTrailing isBlank (dropBlanks text.toList))

/-- The first maximal run of characters that are not blank, empty if there is none. -/
def firstWord (text : List Char) : List Char :=
  (dropBlanks text).takeWhile fun c => !isBlank c

end Runbook.Text
