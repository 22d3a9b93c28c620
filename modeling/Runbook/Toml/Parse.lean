import Runbook.Toml.Scalar
/-!
# Reading TOML

Reads a TOML document into the entries of its outermost table. `parse?` gives nothing when the
document is malformed or defines something twice. Values nest to a limited depth.
-/

set_option autoImplicit false

namespace Runbook.Toml

/-! ### Keys -/

/-- A character of a key without quotes. -/
def isKeyChar (c : Char) : Bool := c.isAlphanum || c == '_' || c == '-'

/-- A key that is not dotted, and the text after it. Strings over several lines are no keys. -/
def simpleKey? (text : List Char) : Option (String × List Char) :=
  match text with
  | '"' :: rest => (basic? (rest.length + 1) rest).map fun (key, rest) => (String.ofList key, rest)
  | '\'' :: rest => (verbatim? rest).map fun (key, rest) => (String.ofList key, rest)
  | _ =>
    let key := text.takeWhile isKeyChar
    if key.isEmpty then none else some (String.ofList key, text.drop key.length)

/-- A key with the parts between its full stops, and the text after it and the blanks around. -/
def key? : Nat → List Char → Option (List String × List Char)
  | 0, _ => none
  | fuel + 1, text => do
    let (key, rest) ← simpleKey? (skipBlanks text)
    match skipBlanks rest with
    | '.' :: rest =>
      let (keys, rest) ← key? fuel rest
      return (key :: keys, rest)
    | rest => return ([key], rest)

/-- The text after a comment, if one comes next, up to the end of its line. -/
def comment? (text : List Char) : Option (List Char) :=
  match text with
  | '#' :: rest => some (rest.dropWhile isPlain)
  | _ => some text

/-! ### Values -/

/-- The text after blanks, newlines and comments. -/
def skipTrivia : Nat → List Char → List Char
  | 0, text => text
  | fuel + 1, text =>
    let text := skipBlanks text
    match newline? ((comment? text).getD text) with
    | some rest => skipTrivia fuel rest
    | none => text

/-- The items of an array after its opening bracket, given how to read a value. -/
def arrayItems? (value? : List Char → Option (Item × List Char)) :
    Nat → List Char → Option (List Item × List Char)
  | 0, _ => none
  | fuel + 1, text =>
    match skipTrivia (text.length + 1) text with
    | ']' :: rest => some ([], rest)
    | text => do
      let (item, rest) ← value? text
      match skipTrivia (rest.length + 1) rest with
      | ',' :: rest =>
        let (items, rest) ← arrayItems? value? fuel rest
        return (item :: items, rest)
      | ']' :: rest => return ([item], rest)
      | _ => none

/-- A key and a value, and the text after them. -/
def pair? (value? : List Char → Option (Item × List Char)) (text : List Char) :
    Option (List String × Item × List Char) := do
  let (keys, rest) ← key? (text.length + 1) text
  let rest ← after? ['='] rest
  let (item, rest) ← value? (skipBlanks rest)
  return (keys, item, rest)

/-- The entries of a table that is a value, which has at least one more. -/
def inlineEntries? (value? : List Char → Option (Item × List Char)) :
    Nat → Entries → List Char → Option (Entries × List Char)
  | 0, _, _ => none
  | fuel + 1, entries, text => do
    let (keys, item, rest) ← pair? value? text
    let entries ← insert? item true keys entries
    match skipBlanks rest with
    | ',' :: rest => inlineEntries? value? fuel entries rest
    | '\x7d' :: rest => return (entries, rest)
    | _ => none

/-- The value that comes next, of at most some depth. -/
def value? : Nat → List Char → Option (Item × List Char)
  | 0, _ => none
  | depth + 1, text =>
    match text with
    | '[' :: rest =>
      if depth = 0 then none
      else (arrayItems? (value? depth) (rest.length + 1) rest).map fun (items, rest) =>
        (.array items, rest)
    | '\x7b' :: rest =>
      if depth = 0 then none
      else
        match skipBlanks rest with
        | '\x7d' :: rest => some (.table .inline [], rest)
        | rest =>
          (inlineEntries? (value? depth) (rest.length + 1) [] rest).map fun (entries, rest) =>
            (.table .inline entries, rest)
    | _ =>
      if text.head?.any fun c => c == '"' || c == '\'' then
        (string? text).map fun (value, rest) => (.text (String.ofList value), rest)
      else
        let token := token text
        (tokenItem? token).map fun item => (item, text.drop token.length)

/-- The depth to which values may nest. -/
def maxDepth : Nat := 80

/-! ### Documents -/

/-- The text after the rest of a line that holds nothing but a comment. -/
def lineEnd? (text : List Char) : Option (List Char) := do
  let rest ← comment? (skipBlanks text)
  if rest.isEmpty then return [] else newline? rest

/-- Opens the table or adds the table of a header. -/
def openHeader? (double : Bool) (path : List String) (entries : Entries) : Option Entries := do
  let key ← path.getLast?
  modifyAt (if double then addTable? key else defineTable? key) path.dropLast entries

/-- A header after its opening bracket: whether its brackets are double, the path and the text
after the header. -/
def header? (text : List Char) : Option (Bool × List String × List Char) := do
  let double := text.head? == some '['
  let path := if double then text.drop 1 else text
  let (keys, rest) ← key? (path.length + 1) path
  let rest ← after? (if double then [']', ']'] else [']']) rest
  return (double, keys, rest)

/-- Reads lines into the table with a path, given all entries so far. -/
def readLines? : Nat → List String → Entries → List Char → Option Entries
  | 0, _, _, _ => none
  | fuel + 1, path, entries, text =>
    match skipBlanks text with
    | [] => some entries
    | '[' :: rest => do
      let (double, path, rest) ← header? rest
      let entries ← openHeader? double path entries
      readLines? fuel path entries (← lineEnd? rest)
    | c :: rest =>
      if c == '#' || c == '\n' || c == '\r' then do
        readLines? fuel path entries (← lineEnd? (c :: rest))
      else do
        let (keys, item, rest) ← pair? (value? maxDepth) (c :: rest)
        let entries ← modifyAt (insert? item true keys) path entries
        readLines? fuel path entries (← lineEnd? rest)

/-- The entries of a document. A byte order mark at its start counts for nothing. -/
def parse? (source : String) : Option Entries :=
  let text := source.toList
  let text := (after? ['\ufeff'] text).getD text
  readLines? (text.length + 1) [] [] text

end Runbook.Toml
