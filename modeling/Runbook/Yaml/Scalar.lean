import Runbook.Yaml.Cursor
/-!
# YAML scalars

The text of a scalar in its five styles: plain, single-quoted, double-quoted, literal and folded.
In the first three the blanks and line ends between two runs of characters form a `Gap`, which
stands for itself when it has no line end and is folded otherwise: one line end becomes a space,
and of several the first is dropped.

`readPlain?`, `readQuoted?` and `readBlock?` read one scalar each and give its text and the place
after it; they refuse a text that breaks off or indents with a tab where spaces must stand.

Scope. Only the texts of scalars are of interest, so a refusal carries no reason.
-/

set_option autoImplicit false

namespace Runbook.Yaml

/-- Blanks and line ends between two runs of a scalar. -/
structure Gap where
  /-- Whether a line ended in the gap. -/
  brokeLine : Bool
  /-- The blanks before any line end. -/
  blanks : List Char
  /-- The first line end. -/
  firstBreak : List Char
  /-- The line ends after the first. -/
  moreBreaks : List Char

namespace Gap

/-- No gap. -/
def empty : Gap := ⟨false, [], [], []⟩

/-- The text that a gap stands for. -/
def fold (gap : Gap) : List Char :=
  if !gap.brokeLine then gap.blanks
  else if gap.firstBreak == ['\n'] then
    if gap.moreBreaks.isEmpty then [' '] else gap.moreBreaks
  else gap.firstBreak ++ gap.moreBreaks

/-- Extends a gap by all blanks and line ends that follow. In a line of its own a tab is refused
before a given column. -/
def extend? (indent : Int) : Nat → Gap → Cursor → Option (Gap × Cursor)
  | 0, _, _ => none
  | fuel + 1, gap, c =>
    if c.seesBlank then
      if gap.brokeLine then
        if c.sees '\t' && (c.column : Int) < indent then none
        else extend? indent fuel gap (c.advance 1)
      else extend? indent fuel { gap with blanks := gap.blanks ++ c.rest.take 1 } (c.advance 1)
    else if c.seesBreak then
      let (text, next) := c.readBreak
      if gap.brokeLine then
        extend? indent fuel { gap with moreBreaks := gap.moreBreaks ++ text } next
      else extend? indent fuel ⟨true, [], text, gap.moreBreaks⟩ next
    else some (gap, c)

/-- The gap that starts here and the place after it. -/
def read? (indent : Int) (start : Gap) (c : Cursor) : Option (Gap × Cursor) :=
  extend? indent (c.rest.length + 1) start c

end Gap

/-! ### Plain scalars -/

/-- The characters that are indicators inside brackets. -/
def flowIndicators : List Char := [',', '[', ']', '{', '}']

/-- The run of a plain scalar that starts a text, and the text after it: up to a blank, a line
end, a colon that ends a word and, inside brackets, one of their indicators. -/
def plainRun? (inFlow : Bool) : List Char → Option (List Char × List Char)
  | [] => some ([], [])
  | c :: rest =>
    if isBlank c || isBreak c then some ([], c :: rest)
    else if c == ':' && inFlow && rest.head?.any (fun d => d == '?' || flowIndicators.contains d)
    then none
    else if c == ':' && rest.head?.all (fun d => isBlank d || isBreak d) then some ([], c :: rest)
    else if inFlow && flowIndicators.contains c then some ([], c :: rest)
    else (plainRun? inFlow rest).map fun (run, after) => (c :: run, after)

/-- What reading a plain scalar gives: its text, whether a line ended after it, and the place. -/
structure Plain where
  text : List Char
  brokeLine : Bool
  next : Cursor

/-- Reads on in a plain scalar after the text and the gap read so far. -/
def continuePlain? (inFlow : Bool) (indent : Int) :
    Nat → List Char → Gap → Cursor → Option Plain
  | 0, _, _, _ => none
  | fuel + 1, text, gap, c => do
    if c.seesDocumentMarker || c.sees '#' then return ⟨text, gap.brokeLine, c⟩
    let (run, after) ← plainRun? inFlow c.rest
    let text := if run.isEmpty then text else text ++ gap.fold ++ run
    let gap := if run.isEmpty then gap else .empty
    let c := c.advanceTo after
    if !(c.seesBlank || c.seesBreak) then return ⟨text, gap.brokeLine, c⟩
    let (gap, c) ← Gap.read? indent gap c
    if !inFlow && (c.column : Int) < indent then return ⟨text, gap.brokeLine, c⟩
    continuePlain? inFlow indent fuel text gap c

/-- The plain scalar that starts here. Outside brackets its further lines must reach the given
column. -/
def readPlain? (inFlow : Bool) (indent : Int) (c : Cursor) : Option Plain :=
  continuePlain? inFlow indent (c.rest.length + 1) [] .empty c

/-! ### Quoted scalars -/

/-- The value of hexadecimal digits, `none` if another character is among them. -/
def hexValue? (digits : List Char) : Option Nat :=
  digits.foldlM (fun value d =>
    if d.isDigit then some (16 * value + (d.toNat - '0'.toNat))
    else if 'a' ≤ d && d ≤ 'f' then some (16 * value + (d.toNat - 'a'.toNat + 10))
    else if 'A' ≤ d && d ≤ 'F' then some (16 * value + (d.toNat - 'A'.toNat + 10))
    else none) 0

/-- The character with a hexadecimal code. -/
def hexChar? (digits : List Char) : Option Char :=
  (hexValue? digits).bind fun n => if h : n.isValidChar then some (.ofNatAux n h) else none

/-- The character that a letter stands for after a backslash. -/
def escapeLetter? : Char → Option Char
  | '0' => some '\x00'
  | 'a' => some '\x07'
  | 'b' => some '\x08'
  | 't' => some '\t'
  | '\t' => some '\t'
  | 'n' => some '\n'
  | 'v' => some '\x0b'
  | 'f' => some '\x0c'
  | 'r' => some '\r'
  | 'e' => some '\x1b'
  | ' ' => some ' '
  | '"' => some '"'
  | '/' => some '/'
  | '\\' => some '\\'
  | 'N' => some '\u0085'
  | '_' => some '\u00a0'
  | 'L' => some '\u2028'
  | 'P' => some '\u2029'
  | _ => none

/-- The run of a single-quoted scalar that starts a text, and the text after it: up to a blank, a
line end or the closing quote. A doubled quote stands for one. -/
def singleRun : List Char → List Char × List Char
  | '\'' :: '\'' :: rest => let (run, after) := singleRun rest; ('\'' :: run, after)
  | [] => ([], [])
  | c :: rest =>
    if c == '\'' || isBlank c || isBreak c then ([], c :: rest)
    else let (run, after) := singleRun rest; (c :: run, after)

/-- The run of a double-quoted scalar that starts a text, and the text after it: up to a blank, a
line end, an escaped line end or the closing quote. -/
def doubleRun? : List Char → Option (List Char × List Char)
  | '\\' :: 'x' :: a :: b :: rest => do
    let c ← hexChar? [a, b]
    let (run, after) ← doubleRun? rest
    return (c :: run, after)
  | '\\' :: 'u' :: a :: b :: c :: d :: rest => do
    let ch ← hexChar? [a, b, c, d]
    let (run, after) ← doubleRun? rest
    return (ch :: run, after)
  | '\\' :: 'U' :: a :: b :: c :: d :: e :: f :: g :: h :: rest => do
    let ch ← hexChar? [a, b, c, d, e, f, g, h]
    let (run, after) ← doubleRun? rest
    return (ch :: run, after)
  | '\\' :: letter :: rest =>
    if isBreak letter then some ([], '\\' :: letter :: rest)
    else do
      let c ← escapeLetter? letter
      let (run, after) ← doubleRun? rest
      return (c :: run, after)
  | ['\\'] => none
  | [] => some ([], [])
  | c :: rest =>
    if c == '"' || isBlank c || isBreak c then some ([], c :: rest)
    else do
      let (run, after) ← doubleRun? rest
      return (c :: run, after)

/-- Reads on in a quoted scalar after the text read so far. -/
def continueQuoted? (quote : Char) : Nat → List Char → Cursor → Option (List Char × Cursor)
  | 0, _, _ => none
  | fuel + 1, text, c => do
    if c.seesDocumentMarker || c.rest.isEmpty then none
    let (run, after) ← if quote == '\'' then some (singleRun c.rest) else doubleRun? c.rest
    let text := text ++ run
    let c := c.advanceTo after
    if c.sees quote then return (text, c.advance 1)
    let escapedBreak := c.sees '\\'
    let start : Gap := if escapedBreak then ⟨true, [], [], []⟩ else .empty
    let c := if escapedBreak then (c.advance 1).skipBreak else c
    let (gap, c) ← Gap.read? 0 start c
    continueQuoted? quote fuel (text ++ gap.fold) c

/-- The quoted scalar whose opening quote comes next. -/
def readQuoted? (quote : Char) (c : Cursor) : Option (List Char × Cursor) :=
  continueQuoted? quote (c.rest.length + 1) [] (c.advance 1)

/-! ### Block scalars -/

/-- What happens to the line ends at the end of a block scalar. -/
inductive Chomping where
  /-- All are dropped. -/
  | strip
  /-- One is kept. -/
  | clip
  /-- All are kept. -/
  | keep
deriving DecidableEq

/-- The indicators of a block scalar after its opening character: how its end is treated and by
how much it is indented, if that is given. -/
def readIndicators? (c : Cursor) : Option (Chomping × Option Nat × Cursor) :=
  let chomping? : Option Char → Option Chomping
    | some '+' => some .keep
    | some '-' => some .strip
    | _ => none
  let digit? : Option Char → Option Nat
    | some d => if d.isDigit then some (d.toNat - '0'.toNat) else none
    | none => none
  match chomping? (c.ahead 0), digit? (c.ahead 0) with
  | some chomping, _ =>
    match digit? (c.ahead 1) with
    | some 0 => none
    | some n => some (chomping, some n, c.advance 2)
    | none => some (chomping, none, c.advance 1)
  | none, some 0 => none
  | none, some n =>
    match chomping? (c.ahead 1) with
    | some chomping => some (chomping, some n, c.advance 2)
    | none => some (.clip, some n, c.advance 1)
  | none, none => some (.clip, none, c)

/-- Reads the indentation of lines and whole empty lines: the line ends of those lines, the
greatest column reached and the place after them. A tab in the indentation is refused. -/
def readIndentation? (indent : Option Nat) :
    Nat → List Char → Nat → Cursor → Option (List Char × Nat × Cursor)
  | 0, _, _, _ => none
  | fuel + 1, breaks, widest, c =>
    let spaces := (c.rest.takeWhile (· == ' ')).length
    let wanted := match indent with
      | none => spaces
      | some n => min spaces (n - c.column)
    let c := c.advance wanted
    let widest := max widest c.column
    let inIndentation := indent.all fun n => c.column < n
    if inIndentation && c.sees '\t' then none
    else if c.seesBreak then
      let (text, next) := c.readBreak
      readIndentation? indent fuel (breaks ++ text) widest next
    else some (breaks, widest, c)

/-- Reads the lines of a block scalar: the text so far, the line end after its last line and the
line ends of the empty lines after that. -/
def readBlockLines? (literal : Bool) (indent : Nat) :
    Nat → List Char → List Char → List Char → Bool → Cursor →
      Option (List Char × List Char × List Char × Cursor)
  | 0, _, _, _, _, _ => none
  | fuel + 1, text, lastBreak, emptyLines, wasBlank, c =>
    if c.column != indent || c.rest.isEmpty then some (text, lastBreak, emptyLines, c)
    else do
      let startsBlank := c.seesBlank
      let joined :=
        if !literal && lastBreak == ['\n'] && !wasBlank && !startsBlank then
          if emptyLines.isEmpty then [' '] else []
        else lastBreak
      let (line, c) := c.takeWhile fun ch => !isBreak ch
      let (lineEnd, c) := c.readBreak
      let (breaks, _, c) ← readIndentation? (some indent) (c.rest.length + 1) [] 0 c
      readBlockLines? literal indent fuel (text ++ joined ++ emptyLines ++ line) lineEnd breaks
        startsBlank c

/-- The literal or folded scalar whose opening character comes next, inside a collection that is
indented to a given column. -/
def readBlock? (literal : Bool) (parentIndent : Int) (c : Cursor) :
    Option (List Char × Cursor) := do
  let (chomping, increment, c) ← readIndicators? (c.advance 1)
  let c := (c.skipWhile isBlank).skipComment
  if !c.seesLineEnd then none
  let c := c.skipBreak
  let given := increment.map fun n => (max parentIndent 0).toNat + n
  let (breaks, widest, c) ← readIndentation? given (c.rest.length + 1) [] 0 c
  let indent := given.getD (max (max widest (parentIndent + 1).toNat) 1)
  let (text, lastBreak, emptyLines, c) ←
    readBlockLines? literal indent (c.rest.length + 1) [] [] breaks false c
  let ending := match chomping with
    | .strip => []
    | .clip => lastBreak
    | .keep => lastBreak ++ emptyLines
  return (text ++ ending, c)

end Runbook.Yaml
