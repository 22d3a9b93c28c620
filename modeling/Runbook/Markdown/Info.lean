import Runbook.Markdown.Entity
import Runbook.Markdown.Line
/-!
# Info strings

The info string of a fenced block is the rest of its line without the blanks around it, with its
escapes resolved: a backslash before a punctuation character, a numeric character reference and a
named one. A carriage return inside it is left out.
-/

set_option autoImplicit false

namespace Runbook.Markdown

/-- The character that a numeric reference stands for; zero stands for the replacement
character. -/
def characterOf? (point : Nat) : Option Char :=
  if point = 0 then some '\ufffd'
  else if point.isValidChar then some (Char.ofNat point) else none

/-- A numeric reference from its digits on, of which only so many count: the character and the
text after the semicolon. -/
def numeric? (limit base : Nat) (isDigit : Char → Bool) (text : List Char) :
    Option (List Char × List Char) := do
  let digits := (text.take limit).takeWhile isDigit
  if digits.isEmpty then none
  let rest ← after? [';'] (text.drop digits.length)
  let point := digits.foldl (fun n c => base * n + (hexDigit? c).getD 0) 0
  let c ← characterOf? point
  return ([c], rest)

/-- The characters of the reference that starts after an ampersand, and the text after it. -/
def reference? : List Char → Option (List Char × List Char)
  | '#' :: 'x' :: rest => numeric? 6 16 (fun c => (hexDigit? c).isSome) rest
  | '#' :: 'X' :: rest => numeric? 6 16 (fun c => (hexDigit? c).isSome) rest
  | '#' :: rest => numeric? 7 10 Char.isDigit rest
  | text => do
    let name := text.takeWhile Char.isAlphanum
    let rest ← after? [';'] (text.drop name.length)
    let value ← entity? name
    return (value, rest)

/-- Resolves the escapes of a text, at most as many as there is fuel. -/
def resolve : Nat → List Char → List Char
  | 0, _ => []
  | _, [] => []
  | fuel + 1, '\\' :: c :: rest =>
    if isPunctuation c then c :: resolve fuel rest else '\\' :: resolve fuel (c :: rest)
  | fuel + 1, '&' :: rest =>
    match reference? rest with
    | some (value, after) => value ++ resolve fuel after
    | none => '&' :: resolve fuel rest
  | fuel + 1, '\r' :: rest => resolve fuel rest
  | fuel + 1, c :: rest => c :: resolve fuel rest

/-- A text with its escapes and character references resolved. -/
def unescape (text : List Char) : List Char := resolve text.length text

/-- The info string that the rest of the line of an opening fence holds. -/
def infoOfLine (line : List Char) : List Char :=
  unescape (((skipInlineBlanks line).reverse.dropWhile isAsciiBlank).reverse)

end Runbook.Markdown
