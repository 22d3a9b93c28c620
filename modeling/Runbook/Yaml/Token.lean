import Runbook.Yaml.Scalar
/-!
# YAML tokens

A YAML text as a sequence of tokens. Indentation is made explicit: a block collection opens with
a token of its own when its first entry stands further right than the enclosing one, and closes
with `blockEnd` when a line stands further left. A key without an indicator is recognised only at
the colon after it, so the token that announces it is inserted before tokens that were already
read; `ImplicitKey` remembers where.

`tokenize?` gives the tokens of a whole text, or nothing when the text is not YAML.

Scope. The markers of the start and end of the stream have no tokens; they are the ends of the
list.
-/

set_option autoImplicit false

namespace Runbook.Yaml

/-- How a scalar is written. -/
inductive ScalarStyle where
  | plain
  | singleQuoted
  | doubleQuoted
  | literal
  | folded
deriving DecidableEq, Repr

/-- A token of a YAML text. -/
inductive Token where
  | versionDirective (major minor : Nat)
  | tagDirective (handle stem : String)
  | documentStart
  | documentEnd
  | blockSequenceStart
  | blockMappingStart
  | blockEnd
  | flowSequenceStart
  | flowSequenceEnd
  | flowMappingStart
  | flowMappingEnd
  | blockEntry
  | flowEntry
  | key
  | value
  | alias (name : String)
  | anchor (name : String)
  | tag (handle suffix : String)
  | scalar (text : String) (style : ScalarStyle)
deriving DecidableEq, Repr

/-- A token that may turn out to be a key: the number of tokens before it and its place. A
required one must be a key, because it starts a line of a block mapping. -/
structure ImplicitKey where
  required : Bool
  number : Nat
  line : Nat
  column : Nat
  index : Nat

/-- The state of reading tokens. -/
structure Scanner where
  cursor : Cursor
  tokens : Array Token
  /-- The column of the innermost block collection, `-1` outside all of them. -/
  indent : Int
  /-- The columns of the enclosing block collections, innermost first. -/
  outerIndents : List Int
  /-- Whether an implicit key may start here. -/
  keyAllowed : Bool
  /-- The possible key of each open bracket, innermost first; the last is outside all brackets. -/
  possibleKeys : List (Option ImplicitKey)

namespace Scanner

/-- The start of a text. -/
def ofText (text : List Char) : Scanner := ⟨.ofText text, #[], -1, [], true, [none]⟩

/-- Whether the place is inside brackets. -/
def inFlow (s : Scanner) : Bool := s.possibleKeys.length > 1

/-- The possible key of the innermost bracket. -/
def possibleKey (s : Scanner) : Option ImplicitKey := s.possibleKeys.head?.join

/-- Replaces the possible key of the innermost bracket. -/
def setPossibleKey (s : Scanner) (key : Option ImplicitKey) : Scanner :=
  { s with possibleKeys := key :: s.possibleKeys.tail }

/-- Adds a token. -/
def push (s : Scanner) (token : Token) : Scanner := { s with tokens := s.tokens.push token }

/-- Moves past some characters of the line. -/
def advance (s : Scanner) (count : Nat) : Scanner := { s with cursor := s.cursor.advance count }

/-- Inserts a token before those read since a number of tokens. -/
def insert (s : Scanner) (number : Nat) (token : Token) : Scanner :=
  let list := s.tokens.toList
  { s with tokens := (list.take number ++ token :: list.drop number).toArray }

/-- Closes the block collections that are indented further than a column. -/
def closeTo (column : Int) (s : Scanner) : Scanner :=
  let rec close : Int → List Int → Array Token → Int × List Int × Array Token
    | indent, [], tokens => (indent, [], tokens)
    | indent, outer :: outers, tokens =>
      if indent > column then close outer outers (tokens.push .blockEnd)
      else (indent, outer :: outers, tokens)
  if s.inFlow then s
  else
    let (indent, outerIndents, tokens) := close s.indent s.outerIndents s.tokens
    { s with indent, outerIndents, tokens }

/-- Opens a block collection at a column, if that is further right than the innermost one. Its
token is inserted before those read since a number of tokens. -/
def openAt (s : Scanner) (column : Int) (number : Nat) (token : Token) : Scanner :=
  if s.inFlow || column ≤ s.indent then s
  else { s.insert number token with indent := column, outerIndents := s.indent :: s.outerIndents }

/-- Gives up the possible key here, which must not be a required one. -/
def dropKey? (s : Scanner) : Option Scanner :=
  match s.possibleKey with
  | some key => if key.required then none else some (s.setPossibleKey none)
  | none => some s

/-- Notes that an implicit key may start here. -/
def noteKey? (s : Scanner) : Option Scanner :=
  if s.keyAllowed then do
    let c := s.cursor
    let required := !s.inFlow && s.indent == (c.column : Int)
    let s ← s.dropKey?
    return s.setPossibleKey (some ⟨required, s.tokens.size, c.line, c.column, c.index⟩)
  else some s

/-- The greatest distance in characters between the start of an implicit key and its colon. -/
def keyLimit : Nat := 1024

/-- Gives up the possible keys that ended with their line or are too long. -/
def dropStaleKeys? (s : Scanner) : Option Scanner := do
  let isStale (key : ImplicitKey) : Bool :=
    key.line < s.cursor.line || key.index + keyLimit < s.cursor.index
  let keys ← s.possibleKeys.mapM fun entry =>
    match entry with
    | some key =>
      if isStale key then if key.required then none else some none
      else some (some key)
    | none => some none
  return { s with possibleKeys := keys }

/-- Moves to the start of the next token, past blanks, comments and line ends. -/
def skipToToken (s : Scanner) : Scanner :=
  let rec skip : Nat → Scanner → Scanner
    | 0, s => s
    | fuel + 1, s =>
      let isSkipped (ch : Char) : Bool := ch == ' ' || (ch == '\t' && (s.inFlow || !s.keyAllowed))
      let c := (s.cursor.skipWhile isSkipped).skipComment
      if c.seesBreak then
        skip fuel { s with cursor := c.skipBreak, keyAllowed := s.keyAllowed || !s.inFlow }
      else { s with cursor := c }
  let s :=
    if s.cursor.index == 0 && s.cursor.sees '\uFEFF' then s.advance 1 else s
  skip (s.cursor.rest.length + 1) s

/-! ### Directives, tags and names -/

/-- The rest of a directive line: a comment may follow. -/
def endDirective? (c : Cursor) : Option Cursor :=
  let c := (c.skipWhile isBlank).skipComment
  if c.seesLineEnd then some c.skipBreak else none

/-- A number of at most nine digits. -/
def readVersionNumber? (c : Cursor) : Option (Nat × Cursor) :=
  let (digits, next) := c.takeWhile Char.isDigit
  if digits.isEmpty || digits.length > 9 then none
  else some (digits.foldl (fun n d => 10 * n + (d.toNat - '0'.toNat)) 0, next)

/-- The handle of a tag: an exclamation mark, name characters and perhaps a second mark. In a
directive the second mark may be missing only where the handle is the mark alone. -/
def readTagHandle? (inDirective : Bool) (c : Cursor) : Option (List Char × Cursor) :=
  if !c.sees '!' then none
  else
    let (name, next) := (c.advance 1).takeWhile isNameChar
    if next.sees '!' then some ('!' :: name ++ ['!'], next.advance 1)
    else if inDirective && !name.isEmpty then none
    else some ('!' :: name, next)

/-- The byte written by a percent sign and two hexadecimal digits. -/
def percentByte? : List Char → Option (Nat × List Char)
  | '%' :: a :: b :: rest => (hexValue? [a, b]).map fun n => (n, rest)
  | _ => none

/-- The character written by percent-encoded UTF-8 bytes. -/
def percentChar? (text : List Char) : Option (Char × List Char) := do
  let (first, rest) ← percentByte? text
  let (width, start) ←
    if first < 0x80 then some (0, first)
    else if 0xc0 ≤ first && first < 0xe0 then some (1, first - 0xc0)
    else if 0xe0 ≤ first && first < 0xf0 then some (2, first - 0xe0)
    else if 0xf0 ≤ first && first < 0xf8 then some (3, first - 0xf0)
    else none
  let rec more : Nat → Nat → List Char → Option (Nat × List Char)
    | 0, value, text => some (value, text)
    | count + 1, value, text => do
      let (byte, rest) ← percentByte? text
      if 0x80 ≤ byte && byte < 0xc0 then more count (64 * value + (byte - 0x80)) rest else none
  let (value, rest) ← more width start rest
  if h : value.isValidChar then return (.ofNatAux value h, rest) else none

/-- A character that may stand in a tag. -/
def isTagChar (verbatim : Bool) (c : Char) : Bool :=
  isNameChar c || ";/?:@&=+$.%!~*'()".toList.contains c || (verbatim && ",[]".toList.contains c)

/-- The characters of a tag, percent encoding resolved. -/
def readTagText? (verbatim : Bool) : Nat → List Char → Option (List Char × List Char)
  | 0, _ => none
  | _ + 1, [] => some ([], [])
  | fuel + 1, c :: rest =>
    if c == '%' then do
      let (ch, rest) ← percentChar? (c :: rest)
      let (text, after) ← readTagText? verbatim fuel rest
      return (ch :: text, after)
    else if isTagChar verbatim c then do
      let (text, after) ← readTagText? verbatim fuel rest
      return (c :: text, after)
    else some ([], c :: rest)

/-- The characters of a tag from here, and the place after them. -/
def readTagFrom? (verbatim : Bool) (c : Cursor) : Option (List Char × Cursor) :=
  (readTagText? verbatim (c.rest.length + 1) c.rest).map fun (text, after) =>
    (text, c.advanceTo after)

/-- The directive whose percent sign comes next, and the start of the line after it. -/
def readDirective? (c : Cursor) : Option (Token × Cursor) := do
  let (name, c) := (c.advance 1).takeWhile isNameChar
  if name.isEmpty || !c.wordEndsAt 0 then none
  let c := c.skipWhile isBlank
  match String.ofList name with
  | "YAML" =>
    let (major, c) ← readVersionNumber? c
    if !c.sees '.' then none
    let (minor, c) ← readVersionNumber? (c.advance 1)
    return (.versionDirective major minor, ← endDirective? c)
  | "TAG" =>
    let (handle, c) ← readTagHandle? true c
    if !c.seesBlank then none
    let (stem, c) ← readTagFrom? true (c.skipWhile isBlank)
    if stem.isEmpty || !c.wordEndsAt 0 then none
    return (.tagDirective (String.ofList handle) (String.ofList stem), ← endDirective? c)
  | _ => none

/-- The tag whose exclamation mark comes next. -/
def readTag? (inFlow : Bool) (c : Cursor) : Option (Token × Cursor) := do
  let (token, c) ←
    if c.ahead 1 == some '<' then do
      let (suffix, c) ← readTagFrom? true (c.advance 2)
      if suffix.isEmpty || !c.sees '>' then none
      some (Token.tag "" (String.ofList suffix), c.advance 1)
    else do
      let (handle, c) ← readTagHandle? false c
      let (suffix, c) ← readTagFrom? false c
      if handle.length > 1 && handle.getLast? == some '!' then
        if suffix.isEmpty then none
        some (Token.tag (String.ofList handle) (String.ofList suffix), c)
      else
        let suffix := handle.drop 1 ++ suffix
        if suffix.isEmpty then some (Token.tag "" "!", c)
        else some (Token.tag "!" (String.ofList suffix), c)
  if (inFlow && c.sees ',') || c.wordEndsAt 0 then return (token, c) else none

/-- The name of an anchor or alias whose indicator comes next. -/
def readName? (c : Cursor) : Option (String × Cursor) :=
  let (name, next) := (c.advance 1).takeWhile isNameChar
  let ends := next.wordEndsAt 0 || next.rest.head?.any fun ch => "?:,]\x7d%@`".toList.contains ch
  if name.isEmpty || !ends then none else some (String.ofList name, next)

/-! ### One token -/

/-- Reads a directive or a document marker, before which all block collections end. -/
def fetchMarker? (s : Scanner) (read : Cursor → Option (Token × Cursor)) : Option Scanner := do
  let s ← (s.closeTo (-1)).dropKey?
  let (token, cursor) ← read s.cursor
  return { s.push token with cursor, keyAllowed := false }

/-- Reads an opening bracket. -/
def fetchOpening? (s : Scanner) (token : Token) : Option Scanner := do
  let s ← s.noteKey?
  return { (s.push token).advance 1 with
    possibleKeys := none :: s.possibleKeys, keyAllowed := true }

/-- Reads a closing bracket. -/
def fetchClosing? (s : Scanner) (token : Token) : Option Scanner := do
  let s ← s.dropKey?
  let possibleKeys := if s.inFlow then s.possibleKeys.tail else s.possibleKeys
  return { (s.push token).advance 1 with possibleKeys, keyAllowed := false }

/-- Reads a comma between entries in brackets. -/
def fetchComma? (s : Scanner) : Option Scanner := do
  let s ← s.dropKey?
  return { (s.push .flowEntry).advance 1 with keyAllowed := true }

/-- Reads the indicator of a block entry, which outside brackets may open a sequence. -/
def fetchItem? (s : Scanner) : Option Scanner := do
  if !s.inFlow && !s.keyAllowed then none
  let s := s.openAt s.cursor.column s.tokens.size .blockSequenceStart
  let s ← s.dropKey?
  return { (s.push .blockEntry).advance 1 with keyAllowed := true }

/-- Reads the indicator of a key, which outside brackets may open a mapping. -/
def fetchKey? (s : Scanner) : Option Scanner := do
  if !s.inFlow && !s.keyAllowed then none
  let s := s.openAt s.cursor.column s.tokens.size .blockMappingStart
  let s ← s.dropKey?
  return { (s.push .key).advance 1 with keyAllowed := !s.inFlow }

/-- Reads the indicator of a value. A possible key before it becomes a key. -/
def fetchValue? (s : Scanner) : Option Scanner :=
  match s.possibleKey with
  | some key =>
    let s := s.insert key.number .key
    let s := s.openAt key.column key.number .blockMappingStart
    some { ((s.setPossibleKey none).push .value).advance 1 with keyAllowed := false }
  | none =>
    if !s.inFlow && !s.keyAllowed then none
    else
      let s := s.openAt s.cursor.column s.tokens.size .blockMappingStart
      some { (s.push .value).advance 1 with keyAllowed := !s.inFlow }

/-- Reads a token that may be an implicit key or stand before one. -/
def fetchInline? (s : Scanner) (read : Cursor → Option (Token × Cursor)) : Option Scanner := do
  let s ← s.noteKey?
  let (token, cursor) ← read s.cursor
  return { s.push token with cursor, keyAllowed := false }

/-- Reads a literal or folded scalar. -/
def fetchBlockScalar? (s : Scanner) (style : ScalarStyle) : Option Scanner := do
  let s ← s.dropKey?
  let (text, cursor) ← readBlock? (style == .literal) s.indent s.cursor
  return { s.push (.scalar (String.ofList text) style) with cursor, keyAllowed := true }

/-- Reads a plain scalar. -/
def fetchPlain? (s : Scanner) : Option Scanner := do
  let s ← s.noteKey?
  let plain ← readPlain? s.inFlow (s.indent + 1) s.cursor
  return { s.push (.scalar (String.ofList plain.text) .plain) with
    cursor := plain.next, keyAllowed := plain.brokeLine }

/-- Whether a plain scalar may start here. -/
def startsPlain (s : Scanner) (c : Char) : Bool :=
  !"-?:,[]\x7b\x7d#&*!|>'\"%@`".toList.contains c ||
    (c == '-' && !(s.cursor.ahead 1).any isBlank) ||
    (!s.inFlow && (c == '?' || c == ':') && !s.cursor.wordEndsAt 1)

/-- Reads the token that starts here with a given character. -/
def fetchAt? (s : Scanner) (c : Char) : Option Scanner :=
  let cursor := s.cursor
  let endsWord := cursor.wordEndsAt 1
  let marker (token : Token) := s.fetchMarker? fun c => some (token, c.advance 3)
  let quoted (style : ScalarStyle) :=
    s.fetchInline? fun at_ => (readQuoted? c at_).map fun (text, next) =>
      (.scalar (String.ofList text) style, next)
  if cursor.column == 0 && c == '%' then s.fetchMarker? readDirective?
  else if cursor.seesMarker '-' then marker .documentStart
  else if cursor.seesMarker '.' then marker .documentEnd
  else if c == '[' then s.fetchOpening? .flowSequenceStart
  else if c == '\x7b' then s.fetchOpening? .flowMappingStart
  else if c == ']' then s.fetchClosing? .flowSequenceEnd
  else if c == '\x7d' then s.fetchClosing? .flowMappingEnd
  else if c == ',' then s.fetchComma?
  else if c == '-' && endsWord then s.fetchItem?
  else if c == '?' && (s.inFlow || endsWord) then s.fetchKey?
  else if c == ':' && (s.inFlow || endsWord) then s.fetchValue?
  else if c == '*' then
    s.fetchInline? fun at_ => (readName? at_).map fun (name, next) => (.alias name, next)
  else if c == '&' then
    s.fetchInline? fun at_ => (readName? at_).map fun (name, next) => (.anchor name, next)
  else if c == '!' then s.fetchInline? (readTag? s.inFlow)
  else if c == '|' && !s.inFlow then s.fetchBlockScalar? .literal
  else if c == '>' && !s.inFlow then s.fetchBlockScalar? .folded
  else if c == '\'' then quoted .singleQuoted
  else if c == '"' then quoted .doubleQuoted
  else if s.startsPlain c then s.fetchPlain?
  else none

/-- Closes everything that is open at the end of the text. -/
def finish? (s : Scanner) : Option Scanner := (s.closeTo (-1)).dropKey?

/-- Reads tokens up to the end of the text. -/
def run? : Nat → Scanner → Option Scanner
  | 0, _ => none
  | fuel + 1, s => do
    let s ← s.skipToToken.dropStaleKeys?
    let s := s.closeTo s.cursor.column
    match s.cursor.rest.head? with
    | none => s.finish?
    | some c => run? fuel (← s.fetchAt? c)

end Scanner

/-- The tokens of a text, `none` when it is not YAML. -/
def tokenize? (text : List Char) : Option (List Token) :=
  if text.all isPermitted then
    ((Scanner.ofText text).run? (text.length + 2)).map fun s => s.tokens.toList
  else none

end Runbook.Yaml
