import Runbook.Number.Decimal
import Runbook.Toml.Item
/-!
# TOML scalars

Reads the values of TOML that hold no other values: strings in their four forms, numbers, truth
values and moments of time. Each function takes the text from the value on and gives the text after
it, or nothing when the value is malformed.

Of a real number and of a moment only their validity matters.
-/

set_option autoImplicit false

namespace Runbook.Toml

/-! ### Characters -/

/-- A space or a tab. -/
def isBlank (c : Char) : Bool := c == ' ' || c == '\t'

/-- A character that comments and strings may hold: no control character but the tab. -/
def isPlain (c : Char) : Bool := c == '\t' || (c.toNat ≥ 0x20 && c.toNat != 0x7f)

/-- The text without the blanks that come next. -/
def skipBlanks (text : List Char) : List Char := text.dropWhile isBlank

/-- The text after a newline, if one comes next. -/
def newline? : List Char → Option (List Char)
  | '\n' :: rest => some rest
  | '\r' :: '\n' :: rest => some rest
  | _ => none

/-- The text after an opening, if it comes next. -/
def after? : List Char → List Char → Option (List Char)
  | [], text => some text
  | _ :: _, [] => none
  | o :: opening, c :: text => if o = c then after? opening text else none

/-! ### Strings -/

/-- The value of a digit in base 16. -/
def hexValue? (c : Char) : Option Nat :=
  if c.isDigit then some (c.toNat - '0'.toNat)
  else if 'a' ≤ c && c ≤ 'f' then some (c.toNat - 'a'.toNat + 10)
  else if 'A' ≤ c && c ≤ 'F' then some (c.toNat - 'A'.toNat + 10)
  else none

/-- The character whose code point is given by a number of digits, and the text after them. -/
def codePoint? (count : Nat) (text : List Char) : Option (Char × List Char) := do
  let digits := text.take count
  if digits.length < count then none
  let values ← digits.mapM hexValue?
  let point := values.foldl (fun n d => 16 * n + d) 0
  if point.isValidChar then return (Char.ofNat point, text.drop count) else none

/-- The character of the escape after a backslash, and the text after it. -/
def escape? : List Char → Option (Char × List Char)
  | 'b' :: rest => some ('\x08', rest)
  | 't' :: rest => some ('\t', rest)
  | 'n' :: rest => some ('\n', rest)
  | 'f' :: rest => some ('\x0c', rest)
  | 'r' :: rest => some ('\r', rest)
  | '"' :: rest => some ('"', rest)
  | '\\' :: rest => some ('\\', rest)
  | 'u' :: rest => codePoint? 4 rest
  | 'U' :: rest => codePoint? 8 rest
  | _ => none

/-- The rest of a string on one line that knows escapes. -/
def basic? : Nat → List Char → Option (List Char × List Char)
  | 0, _ => none
  | fuel + 1, text =>
    match text with
    | '"' :: rest => some ([], rest)
    | '\\' :: rest => do
      let (c, rest) ← escape? rest
      let (more, rest) ← basic? fuel rest
      return (c :: more, rest)
    | c :: rest =>
      if isPlain c then (basic? fuel rest).map fun (more, rest) => (c :: more, rest) else none
    | [] => none

/-- The rest of a string on one line that takes everything as it stands. -/
def verbatim? : List Char → Option (List Char × List Char)
  | [] => none
  | '\'' :: rest => some ([], rest)
  | c :: rest =>
    if isPlain c then (verbatim? rest).map fun (more, rest) => (c :: more, rest) else none

/-- The text after blanks and newlines. -/
def skipSpace : Nat → List Char → List Char
  | 0, text => text
  | fuel + 1, text =>
    match newline? (skipBlanks text) with
    | some rest => skipSpace fuel rest
    | none => skipBlanks text

/-- The number of quotes at the end of a string over several lines that belong to its text, and
the text after the string. Three quotes end the string, and up to two may stand before them. -/
def closing? (quote : Char) (text : List Char) : Option (List Char × List Char) :=
  let run := (text.takeWhile (· == quote)).length
  if run < 3 then none
  else
    let inner := min (run - 3) 2
    some (List.replicate inner quote, text.drop (inner + 3))

/-- The rest of a string over several lines. A backslash at the end of a line joins the next line
to it without the space between them. -/
def multiline? (quote : Char) : Nat → List Char → Option (List Char × List Char)
  | 0, _ => none
  | fuel + 1, text =>
    match closing? quote text with
    | some done => some done
    | none =>
      match newline? text with
      | some rest => (multiline? quote fuel rest).map fun (more, rest) => ('\n' :: more, rest)
      | none =>
        match text with
        | [] => none
        | c :: rest =>
          if c == '\\' && quote == '"' then
            match newline? (skipBlanks rest) with
            | some rest => multiline? quote fuel (skipSpace (rest.length + 1) rest)
            | none => do
              let (c, rest) ← escape? rest
              let (more, rest) ← multiline? quote fuel rest
              return (c :: more, rest)
          else if isPlain c then
            (multiline? quote fuel rest).map fun (more, rest) => (c :: more, rest)
          else none

/-- A string over several lines after its opening quotes. A newline right after them is left
out. -/
def multilineBody? (quote : Char) (text : List Char) : Option (List Char × List Char) :=
  let body := (newline? text).getD text
  multiline? quote (body.length + 1) body

/-- The string that comes next, if one does. -/
def string? (text : List Char) : Option (List Char × List Char) :=
  match text with
  | '"' :: '"' :: '"' :: rest => multilineBody? '"' rest
  | '\'' :: '\'' :: '\'' :: rest => multilineBody? '\'' rest
  | '"' :: rest => basic? (rest.length + 1) rest
  | '\'' :: rest => verbatim? rest
  | _ => none

/-! ### Numbers -/

/-- A run of digits, where underscores may stand between two digits: the digits and the text after
them. -/
def digitRun? (isDigit : Char → Bool) : List Char → Option (List Char × List Char)
  | [] => none
  | c :: '_' :: rest =>
    if isDigit c then
      match digitRun? isDigit rest with
      | some (digits, after) => some (c :: digits, after)
      | none => some ([c], '_' :: rest)
    else none
  | c :: rest =>
    if isDigit c then
      match digitRun? isDigit rest with
      | some (digits, after) => some (c :: digits, after)
      | none => some ([c], rest)
    else none

/-- The number that digits stand for in a base. -/
def digitsIn (base : Nat) (digits : List Char) : Nat :=
  digits.foldl (fun n c => base * n + (hexValue? c).getD 0) 0

/-- The digits of a whole number in a base with a mark of its own. -/
def marked? (mark : List Char) (base : Nat) (isDigit : Char → Bool) (token : List Char) :
    Option Int := do
  let digits ← after? mark token
  let (digits, rest) ← digitRun? isDigit digits
  if rest.isEmpty then return Int.ofNat (digitsIn base digits) else none

/-- The digits of a decimal number before its point, which start with a zero only if that is all,
and the text after them. -/
def wholeDigits? (text : List Char) : Option (List Char × List Char) :=
  match digitRun? Char.isDigit text with
  | some ('0' :: _ :: _, _) => none
  | result => result

/-- The sign and the text after it. -/
def sign (token : List Char) : Bool × List Char :=
  match token with
  | '-' :: rest => (true, rest)
  | '+' :: rest => (false, rest)
  | _ => (false, token)

/-- The whole number that a token is. -/
def integer? (token : List Char) : Option Int :=
  let marked := (marked? "0x".toList 16 (fun c => (hexValue? c).isSome) token).or <|
    (marked? "0o".toList 8 (fun c => '0' ≤ c && c ≤ '7') token).or <|
      marked? "0b".toList 2 (fun c => c == '0' || c == '1') token
  let value := marked.or <| do
    let (negative, digits) := sign token
    let (digits, rest) ← wholeDigits? digits
    if rest.isEmpty then
      let n := Int.ofNat (digitsIn 10 digits)
      return if negative then -n else n
    else none
  value.filter fun n => -0x8000000000000000 ≤ n && n < 0x8000000000000000

/-- The digits of the fraction of a real number, and the text after it. -/
def fraction? : List Char → Option (List Char × List Char)
  | '.' :: rest => (digitRun? Char.isDigit rest).map fun (digits, rest) => ('.' :: digits, rest)
  | text => some ([], text)

/-- The exponent of a real number, and the text after it. -/
def exponent? : List Char → Option (List Char × List Char)
  | c :: rest =>
    if c == 'e' || c == 'E' then do
      let (negative, digits) := sign rest
      let (digits, rest) ← digitRun? Char.isDigit digits
      return ('e' :: (if negative then ['-'] else []) ++ digits, rest)
    else some ([], c :: rest)
  | [] => some ([], [])

/-- Whether a token is a real number, which must not be too large. -/
def isReal (token : List Char) : Bool :=
  let (_, unsigned) := sign token
  if unsigned = "inf".toList || unsigned = "nan".toList then true
  else
    match wholeDigits? unsigned with
    | none => false
    | some (whole, rest) =>
      match fraction? rest with
      | none => false
      | some (fraction, rest) =>
        match exponent? rest with
        | none => false
        | some (exponent, rest) =>
          rest.isEmpty && !(fraction.isEmpty && exponent.isEmpty) &&
            (Number.Decimal.read? (whole ++ fraction ++ exponent)).isSome

/-! ### Moments -/

/-- A number of a fixed count of digits within bounds, and the text after it. -/
def field? (count least greatest : Nat) (text : List Char) : Option (Nat × List Char) :=
  let digits := text.take count
  let n := digitsIn 10 digits
  if digits.length = count && digits.all Char.isDigit && least ≤ n && n ≤ greatest then
    some (n, text.drop count)
  else none

/-- The number of days of a month. -/
def daysOfMonth (year month : Nat) : Nat :=
  if month = 2 then
    if year % 4 = 0 && (year % 100 ≠ 0 || year % 400 = 0) then 29 else 28
  else if month ∈ [4, 6, 9, 11] then 30 else 31

/-- The text after a date. -/
def date? (text : List Char) : Option (List Char) := do
  let (year, rest) ← field? 4 0 9999 text
  let (month, rest) ← field? 2 1 12 (← after? ['-'] rest)
  let (_, rest) ← field? 2 1 (daysOfMonth year month) (← after? ['-'] rest)
  return rest

/-- The text after a time of day. -/
def time? (text : List Char) : Option (List Char) := do
  let (_, rest) ← field? 2 0 23 text
  let (_, rest) ← field? 2 0 59 (← after? [':'] rest)
  let (_, rest) ← field? 2 0 60 (← after? [':'] rest)
  match rest with
  | '.' :: more =>
    let digits := more.takeWhile Char.isDigit
    if digits.isEmpty then none else return more.drop digits.length
  | _ => return rest

/-- The text after the difference from universal time, if there is one. -/
def offset? (text : List Char) : Option (List Char) :=
  match text with
  | 'Z' :: rest => some rest
  | 'z' :: rest => some rest
  | c :: rest =>
    if c == '+' || c == '-' then do
      let (_, rest) ← field? 2 0 23 rest
      let (_, rest) ← field? 2 0 59 (← after? [':'] rest)
      return rest
    else some text
  | [] => some []

/-- Whether a token is a date, a time of day or both. -/
def isMoment (token : List Char) : Bool :=
  match date? token with
  | some [] => true
  | some (c :: rest) =>
    (c == 'T' || c == 't' || c == ' ') && ((time? rest).bind offset?) == some []
  | none => time? token == some []

/-! ### Tokens -/

/-- A character of the values that are no strings. -/
def isTokenChar (c : Char) : Bool :=
  c.isAlphanum || c == '+' || c == '-' || c == '_' || c == '.' || c == ':'

/-- The token that comes next, with the time of day that may follow a date after a space. -/
def token (text : List Char) : List Char :=
  let first := text.takeWhile isTokenChar
  match text.drop first.length with
  | ' ' :: rest =>
    let second := rest.takeWhile isTokenChar
    if date? first = some [] && second.head?.any Char.isDigit then first ++ ' ' :: second
    else first
  | _ => first

/-- The value that a token is. -/
def tokenItem? (token : List Char) : Option Item :=
  if token = "true".toList then some (.flag true)
  else if token = "false".toList then some (.flag false)
  else
    match integer? token with
    | some n => some (.integer n)
    | none =>
      if isReal token then some .real
      else if isMoment token then some .moment
      else none

end Runbook.Toml
