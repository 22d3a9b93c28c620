/-!
# Patterns of the shell

A pattern fits a text as a whole. A star fits any text, a question mark any character, and a list in
brackets one of its characters; what is quoted stands for itself.
-/

set_option autoImplicit false

namespace Runbook.Shell.Pattern

/-- A character of a pattern and whether it is quoted. -/
abbrev Mark := Char × Bool

/-- What one item of a list in brackets holds. -/
inductive Item where
  | range (first last : Char)
  /-- A class of characters by its name. -/
  | kind (name : String)
deriving DecidableEq, Repr

/-- A part of a pattern. -/
inductive Part where
  | one (c : Char)
  | any
  | many
  | among (negated : Bool) (items : List Item)
deriving DecidableEq, Repr

/-- Whether a character is in a class. -/
def inKind (name : String) (c : Char) : Bool :=
  match name with
  | "alpha" => c.isAlpha
  | "digit" => c.isDigit
  | "alnum" => c.isAlphanum
  | "upper" => c.isUpper
  | "lower" => c.isLower
  | "space" => c ∈ [' ', '\t', '\n', '\x0b', '\x0c', '\r']
  | "blank" => c = ' ' || c = '\t'
  | "punct" => '!' ≤ c && c ≤ '~' && !c.isAlphanum
  | "print" => ' ' ≤ c && c ≤ '~'
  | "graph" => '!' ≤ c && c ≤ '~'
  | "cntrl" => c < ' ' || c = '\x7f'
  | "xdigit" => c.isDigit || ('a' ≤ c && c ≤ 'f') || ('A' ≤ c && c ≤ 'F')
  | _ => false

/-- Whether an item holds a character. -/
def Item.holds (c : Char) : Item → Bool
  | range first last => first ≤ c && c ≤ last
  | kind name => inKind name c

/-- Whether a part other than a star fits a character. -/
def Part.accepts (c : Char) : Part → Bool
  | one d => c = d
  | any => true
  | many => false
  | among negated items => items.any (Item.holds c) != negated

/-- The text between the signs of a class, and what follows it. -/
def kindName? : List Mark → Option (String × List Mark)
  | (':', false) :: (']', false) :: rest => some ("", rest)
  | (c, _) :: rest => (kindName? rest).map fun (name, rest) => (c.toString ++ name, rest)
  | [] => none

/-- Reads the items of a list up to its closing bracket, with a bound on their number. -/
def items? : Nat → Bool → List Mark → Option (List Item × List Mark)
  | 0, _, _ => none
  | fuel + 1, first, marks =>
    match marks with
    | [] => none
    | (']', false) :: rest =>
      if first then (items? fuel false rest).map fun (items, rest) =>
          (.range ']' ']' :: items, rest)
      else some ([], rest)
    | ('[', false) :: (':', false) :: rest =>
      match kindName? rest with
      | some (name, rest) =>
        (items? fuel false rest).map fun (items, rest) => (.kind name :: items, rest)
      | none => (items? fuel false ((':', false) :: rest)).map fun (items, rest) =>
          (.range '[' '[' :: items, rest)
    | (c, _) :: ('-', false) :: (d, quoted) :: rest =>
      if d = ']' && !quoted then
        some ([.range c c, .range '-' '-'], rest)
      else (items? fuel false rest).map fun (items, rest) => (.range c d :: items, rest)
    | (c, _) :: rest =>
      (items? fuel false rest).map fun (items, rest) => (.range c c :: items, rest)

/-- Reads a list in brackets after the opening one. -/
def among? (marks : List Mark) : Option (Part × List Mark) :=
  match marks with
  | (c, false) :: rest =>
    if c = '!' || c = '^' then
      (items? (marks.length + 1) true rest).map fun (items, rest) => (.among true items, rest)
    else (items? (marks.length + 1) true marks).map fun (items, rest) => (.among false items, rest)
  | _ => (items? (marks.length + 1) true marks).map fun (items, rest) => (.among false items, rest)

/-- The parts of a pattern, with a bound on their number. -/
def partsFrom : Nat → List Mark → List Part
  | 0, _ => []
  | _ + 1, [] => []
  | fuel + 1, (c, quoted) :: rest =>
    if quoted then .one c :: partsFrom fuel rest
    else if c = '*' then .many :: partsFrom fuel rest
    else if c = '?' then .any :: partsFrom fuel rest
    else if c = '[' then
      match among? rest with
      | some (part, rest) => part :: partsFrom fuel rest
      | none => .one c :: partsFrom fuel rest
    else .one c :: partsFrom fuel rest

/-- The parts of a pattern. -/
def parts (marks : List Mark) : List Part := partsFrom marks.length marks

/-- The ends of a text, from the whole text on. -/
def ends : List Char → List (List Char)
  | [] => [[]]
  | c :: rest => (c :: rest) :: ends rest

/-- Whether parts fit a text. -/
def fits : List Part → List Char → Bool
  | [], text => text.isEmpty
  | .many :: rest, text => (ends text).any (fits rest)
  | part :: rest, c :: text => part.accepts c && fits rest text
  | _ :: _, [] => false

/-- Whether a pattern has signs that are no plain characters. -/
def isPattern (marks : List Mark) : Bool :=
  marks.any fun (c, quoted) => !quoted && c ∈ ['*', '?', '[']

/-- The text that is left when the shortest or longest start that fits is cut off. -/
def cutStart (longest : Bool) (pattern : List Part) (text : List Char) : List Char :=
  let lengths := List.range (text.length + 1)
  let ordered := if longest then lengths.reverse else lengths
  match ordered.find? fun n => fits pattern (text.take n) with
  | some n => text.drop n
  | none => text

/-- The text that is left when the shortest or longest end that fits is cut off. -/
def cutEnd (longest : Bool) (pattern : List Part) (text : List Char) : List Char :=
  let lengths := List.range (text.length + 1)
  let ordered := if longest then lengths else lengths.reverse
  match ordered.find? fun n => fits pattern (text.drop n) with
  | some n => text.take n
  | none => text

end Runbook.Shell.Pattern
