import Runbook.Number.Decimal
import Runbook.Shell.Arithmetic
/-!
# Printing

What the commands `echo` and `printf` write. Escapes with a backslash stand for control characters
and for bytes by their octal numbers. A format is used again as long as arguments are left, and an
argument that is not what the format asks for is a `Fault`.
-/

set_option autoImplicit false

namespace Runbook.Shell.Printing

/-! ### Escapes -/

def isOctal (c : Char) : Bool := '0' ≤ c && c ≤ '7'

/-- The letters that stand for control characters after a backslash. -/
def escapes : List (Char × Char) := [
  ('a', '\x07'), ('b', '\x08'), ('f', '\x0c'), ('n', '\n'), ('r', '\r'), ('t', '\t'),
  ('v', '\x0b'), ('e', '\x1b'), ('\\', '\\')]

/-- The byte of an octal number. -/
def octalByte (digits : List Char) : Char :=
  Char.ofNat (digits.foldl (fun value c => value * 8 + (c.toNat - '0'.toNat)) 0 % 256)

/-- What an escape stands for, after the backslash: a character and how much of the text it takes.
Something else stands for the backslash itself. -/
def escape (text : List Char) : Char × Nat :=
  match text with
  | [] => ('\\', 0)
  | c :: _ =>
    if isOctal c then
      let digits := (text.take 3).takeWhile isOctal
      (octalByte digits, digits.length)
    else
      match escapes.lookup c with
      | some d => (d, 1)
      | none => ('\\', 0)

/-- A text with its escapes resolved, within a bound, and whether one of them ends all output. -/
def resolveFrom : Nat → List Char → List Char × Bool
  | 0, _ => ([], false)
  | _ + 1, [] => ([], false)
  | fuel + 1, c :: rest =>
    if c != '\\' then
      let (text, ended) := resolveFrom fuel rest
      (c :: text, ended)
    else
      match rest with
      | 'c' :: _ => ([], true)
      | _ =>
        let digits := match rest with
          | '0' :: d :: _ => if isOctal d then rest.drop 1 else rest
          | _ => rest
        let (d, taken) := escape digits
        let (text, ended) := resolveFrom fuel (digits.drop taken)
        (d :: text, ended)

/-- A text with its escapes resolved, and whether one of them ends all output. -/
def resolve (text : String) : String × Bool :=
  let (chars, ended) := resolveFrom (text.length + 1) text.toList
  (String.ofList chars, ended)

/-- What `echo` writes. -/
def echo (arguments : List String) : String :=
  let (newline, words) := match arguments with
    | "-n" :: rest => (false, rest)
    | _ => (true, arguments)
  let (text, ended) := resolve (" ".intercalate words)
  if newline && !ended then text ++ "\n" else text

/-! ### Formats -/

open Number

/-- How a value is set. -/
structure Setting where
  left : Bool
  zeros : Bool
  plus : Bool
  space : Bool
  marked : Bool
  width : Nat
  precision : Option Nat
deriving DecidableEq, Repr

/-- What is wrong with a format or with an argument for it. -/
inductive Fault where
  /-- An argument is no number. -/
  | notNumber (argument : String)
  /-- Only the start of an argument is a number. -/
  | partlyNumber (argument : String)
  /-- An argument is too great a number. -/
  | tooGreat (argument : String)
  /-- A format asks for something unknown. -/
  | unknownConversion (text : String)
  /-- A format ends before it says what it asks for. -/
  | noConversion
deriving DecidableEq, Repr

namespace Fault

/-- Whether nothing is written after a fault. -/
def isFinal : Fault → Bool
  | unknownConversion _ => true
  | noConversion => true
  | _ => false

/-- The wording of a fault. -/
def message : Fault → String
  | notNumber argument => argument ++ ": expected numeric value"
  | partlyNumber argument => argument ++ ": not completely converted"
  | tooGreat argument => argument ++ ": Numerical result out of range"
  | unknownConversion text => text ++ ": invalid directive"
  | noConversion => "missing format character"

end Fault

/-- What a format has come to. -/
structure Progress where
  output : List String
  arguments : List String
  /-- What is wrong, the last fault first. -/
  faults : List Fault
  /-- Whether any argument has been used. -/
  used : Bool
  ended : Bool

/-- A text filled up to a width. -/
def pad (setting : Setting) (text : String) : String :=
  let fill := String.ofList (List.replicate (setting.width - text.length) ' ')
  if setting.left then text ++ fill else fill ++ text

/-- Digits with a sign before them, filled up to a width. -/
def padSigned (setting : Setting) (zeros : Bool) (sign digits : String) : String :=
  if zeros && !setting.left then
    let room := setting.width - sign.length - digits.length
    sign ++ String.ofList (List.replicate room '0') ++ digits
  else pad setting (sign ++ digits)

/-- The digits of a whole number filled up to a precision, with a sign before them, filled up to a
width. -/
def padNumber (setting : Setting) (sign digits : String) : String :=
  let digits := match setting.precision with
    | some precision => String.ofList (List.replicate (precision - digits.length) '0') ++ digits
    | none => digits
  padSigned setting (setting.zeros && setting.precision.isNone) sign digits

/-- The digits of a number in a base. -/
def digitsOf (base n : Nat) : String := String.ofList (Nat.toDigits base n)

/-! ### Arguments as numbers -/

/-- The numbers that an argument may be. -/
structure Bounds where
  least : Int
  greatest : Int

/-- The bounds of whole numbers with a sign. -/
def signedBounds : Bounds := ⟨-0x8000000000000000, 0x7fffffffffffffff⟩

/-- The bounds of whole numbers without a sign, of which negative ones are counted from the end. -/
def unsignedBounds : Bounds := ⟨-0xffffffffffffffff, 0xffffffffffffffff⟩

/-- The fault of an argument of which a number takes all but a rest. -/
def restFault (argument : String) (rest : List Char) : Option Fault :=
  if rest.isEmpty then none
  else if rest.length = argument.length then some (.notNumber argument)
  else some (.partlyNumber argument)

/-- The whole number that an argument is, and what is wrong with it. -/
def numberOf (bounds : Bounds) (argument : String) : Int × Option Fault :=
  match argument.toList with
  | [] => (0, none)
  | '"' :: rest => (Int.ofNat (rest.headD '\x00').toNat, none)
  | '\'' :: rest => (Int.ofNat (rest.headD '\x00').toNat, none)
  | text =>
    let trimmed := text.dropWhile isSpace
    let (negative, digits) := match trimmed with
      | '-' :: rest => (true, rest)
      | '+' :: rest => (false, rest)
      | _ => (false, trimmed)
    match Arithmetic.takeWholeNumber? digits with
    | none => (0, restFault argument text)
    | some (value, rest) =>
      let value : Int := if negative then -value else value
      let kept := max bounds.least (min bounds.greatest value)
      match restFault argument rest with
      | some fault => (kept, some fault)
      | none => (kept, if kept = value then none else some (.tooGreat argument))

/-- The length of the decimal number at the start of a text. -/
def decimalLength (text : List Char) : Nat :=
  let signed (text : List Char) : Nat := if text.head?.any (· ∈ ['+', '-']) then 1 else 0
  let sign := signed text
  let whole := ((text.drop sign).takeWhile Char.isDigit).length
  let afterWhole := text.drop (sign + whole)
  let fraction := if afterWhole.head? = some '.' then
      ((afterWhole.drop 1).takeWhile Char.isDigit).length + 1 else 0
  if whole + (fraction - 1) = 0 then 0
  else
    let rest := afterWhole.drop fraction
    let exponentSign := signed (rest.drop 1)
    let exponent := ((rest.drop (1 + exponentSign)).takeWhile Char.isDigit).length
    sign + whole + fraction +
      if rest.head?.any (· ∈ ['e', 'E']) && exponent != 0 then 1 + exponentSign + exponent else 0

/-- The number with a fraction that an argument is, none if it is infinite, and what is wrong with
it. -/
def fractionOf (argument : String) : Option Binary64 × Option Fault :=
  match argument.toList with
  | [] => (some (.zero false), none)
  | '"' :: rest => (Binary64.ofNat? (rest.headD '\x00').toNat, none)
  | '\'' :: rest => (Binary64.ofNat? (rest.headD '\x00').toNat, none)
  | text =>
    let trimmed := text.dropWhile isSpace
    let length := decimalLength trimmed
    if length = 0 then (some (.zero false), restFault argument text)
    else
      let value := Decimal.read? (trimmed.take length)
      match restFault argument (trimmed.drop length) with
      | some fault => (value, some fault)
      | none => (value, if value.isNone then some (.tooGreat argument) else none)

namespace Progress

/-- Adds output. -/
def put (progress : Progress) (text : String) : Progress :=
  { progress with output := text :: progress.output }

/-- Takes the next argument, or an empty text. -/
def take (progress : Progress) : String × Progress :=
  match progress.arguments with
  | [] => ("", progress)
  | argument :: rest => (argument, { progress with arguments := rest, used := true })

/-- Notes what is wrong, if anything is. -/
def note (progress : Progress) : Option Fault → Progress
  | none => progress
  | some fault =>
    { progress with
      faults := fault :: progress.faults, ended := progress.ended || fault.isFinal }

end Progress

/-! ### Conversions -/

/-- Sets a whole number. -/
def number (setting : Setting) (conversion : Char) (n : Int) : String :=
  let unsigned := Arithmetic.unsigned n
  match conversion with
  | 'o' => padNumber setting (if setting.marked then "0" else "") (digitsOf 8 unsigned)
  | 'x' => padNumber setting (if setting.marked && unsigned ≠ 0 then "0x" else "")
      (digitsOf 16 unsigned)
  | 'X' => padNumber setting (if setting.marked && unsigned ≠ 0 then "0X" else "")
      (String.ofList ((Nat.toDigits 16 unsigned).map Char.toUpper))
  | 'u' => padNumber setting "" (toString unsigned)
  | _ =>
    let sign := if n < 0 then "-" else if setting.plus then "+"
        else if setting.space then " " else ""
    padNumber setting sign (toString n.natAbs)

/-- Sets a number with a fraction. -/
def fraction (setting : Setting) (conversion : Char) (negative : Bool) (x : Option Binary64) :
    String :=
  let places := setting.precision.getD 6
  let digits := match x, conversion.toLower with
    | none, _ => "inf"
    | some x, 'f' => Rounded.fixed places x
    | some x, 'e' => Rounded.scientific places x
    | some x, _ => Rounded.general places setting.marked x
  let digits := if conversion.isUpper then String.ofList (digits.toList.map Char.toUpper)
      else digits
  let sign := if negative then "-" else if setting.plus then "+"
      else if setting.space then " " else ""
  padSigned setting (setting.zeros && x.isSome) sign digits

/-- Sets the value that a conversion asks for, which is written as in a text. -/
def convert (setting : Setting) (conversion : Char) (written : String) (progress : Progress) :
    Progress :=
  let (argument, taken) := progress.take
  let fitted (text : String) : String := pad setting (match setting.precision with
    | some precision => String.ofList (text.toList.take precision)
    | none => text)
  if conversion = 's' then taken.put (fitted argument)
  else if conversion = 'c' then
    taken.put (pad setting (Char.toString (argument.toList.headD '\x00')))
  else if conversion = 'b' then
    let (text, ended) := resolve argument
    { taken.put (fitted text) with ended }
  else if conversion ∈ ['d', 'i'] then
    let (value, fault) := numberOf signedBounds argument
    (taken.note fault).put (number setting conversion value)
  else if conversion ∈ ['o', 'u', 'x', 'X'] then
    let (value, fault) := numberOf unsignedBounds argument
    (taken.note fault).put (number setting conversion value)
  else if conversion ∈ ['e', 'E', 'f', 'F', 'g', 'G'] then
    let (value, fault) := fractionOf argument
    let negative := match value with
      | some x => x.negative
      | none => (argument.toList.dropWhile isSpace).head? = some '-'
    (taken.note fault).put (fraction setting conversion negative value)
  else progress.note (some (.unknownConversion written))

/-- The signs before a width. -/
def takeSigns : List Char → Setting → Setting × List Char
  | '-' :: rest, setting => takeSigns rest { setting with left := true }
  | '0' :: rest, setting => takeSigns rest { setting with zeros := true }
  | '+' :: rest, setting => takeSigns rest { setting with plus := true }
  | ' ' :: rest, setting => takeSigns rest { setting with space := true }
  | '#' :: rest, setting => takeSigns rest { setting with marked := true }
  | rest, setting => (setting, rest)

/-- A count that is written or that an argument gives. -/
def takeCount (text : List Char) (progress : Progress) : Int × List Char × Progress :=
  match text with
  | '*' :: rest =>
    let (argument, progress) := progress.take
    let (value, fault) := numberOf signedBounds argument
    (value, rest, progress.note fault)
  | _ =>
    let digits := text.takeWhile Char.isDigit
    (Int.ofNat ((String.ofList digits).toNat?.getD 0), text.drop digits.length, progress)

/-- Writes a format once, within a bound. -/
def formatFrom : Nat → List Char → Progress → Progress
  | 0, _, progress => progress
  | _ + 1, [], progress => progress
  | fuel + 1, c :: rest, progress =>
    if progress.ended then progress
    else if c = '\\' then
      let (d, taken) := escape rest
      formatFrom fuel (rest.drop taken) (progress.put d.toString)
    else if c != '%' then formatFrom fuel rest (progress.put c.toString)
    else
      match rest with
      | '%' :: rest => formatFrom fuel rest (progress.put "%")
      | _ =>
        let start := rest
        let (setting, rest) := takeSigns rest ⟨false, false, false, false, false, 0, none⟩
        let (width, rest, progress) := takeCount rest progress
        let setting := { setting with left := setting.left || width < 0, width := width.natAbs }
        let (precision, rest, progress) := match rest with
          | '.' :: more =>
            let (count, rest, progress) := takeCount more progress
            (if count < 0 then none else some count.toNat, rest, progress)
          | _ => (none, rest, progress)
        match rest with
        | [] => progress.note (some .noConversion)
        | conversion :: rest =>
          let written := String.ofList ('%' :: start.take (start.length - rest.length))
          formatFrom fuel rest (convert { setting with precision } conversion written progress)

/-- Writes a format as often as there are arguments for it, within a bound. -/
def formatAll (format : List Char) : Nat → Progress → Progress
  | 0, progress => progress
  | fuel + 1, progress =>
    let after := formatFrom (format.length + 1) format { progress with used := false }
    if after.ended || after.arguments.isEmpty || !after.used then after
    else formatAll format fuel after

/-- What `printf` writes, and what is wrong. -/
def format (text : String) (arguments : List String) : String × List Fault :=
  let progress := formatAll text.toList (arguments.length + 1) ⟨[], arguments, [], false, false⟩
  (String.join progress.output.reverse, progress.faults.reverse)

end Runbook.Shell.Printing
