import Runbook.Utility.Basic
/-!
# Sources of lines

`yes` writes a line again and again, and `seq` writes numbers.
-/

set_option autoImplicit false

namespace Runbook.Utility

open Sandbox

/-! ### Repetition -/

/-- Writes a text again and again, within a bound. -/
def writeAgain (text : String) : Nat → Run Nat
  | 0 => return 0
  | fuel + 1 => do
    match ← Run.write 1 (ByteText.toBytes text) with
    | .ok () => writeAgain text fuel
    | .error _ => return 1

/-- Runs `yes`. -/
def yes (arguments : List String) (_ : List (String × String)) : Run Nat :=
  let text := line (if arguments.tail.isEmpty then "y" else " ".intercalate arguments.tail)
  writeAgain (String.join (List.replicate 512 text)) Run.maxRounds

/-! ### Numbers -/

/-- The numbers from one on to another. -/
def numbers (first step last : Int) : List Int :=
  if step = 0 then []
  else
    let count : Int := (last - first).fdiv step + 1
    (List.range count.toNat).map fun (i : Nat) => first + step * Int.ofNat i

/-- The options of `seq`. -/
def seqOptions : OptionTable where
  plain := "w"
  valued := "fs"
  long := [("separator", 's'), ("equal-width", 'w'), ("format", 'f')]

/-- The options of `seq` and its operands, which may be negative numbers. -/
def readSequence (given : Given) : Nat → List String → Except OptionFault Given
  | 0, arguments => .ok { given with others := arguments }
  | _ + 1, [] => .ok given
  | fuel + 1, argument :: rest =>
    match argument.toList with
    | ['-', '-'] => .ok { given with others := rest }
    | '-' :: c :: more =>
      if c.isDigit || c = '.' then .ok { given with others := argument :: rest }
      else
        let read := if c = '-' then (seqOptions.longOption (String.ofList more) rest).map
            fun (option, rest) => ([option], rest)
          else seqOptions.letters (c :: more) rest
        match read with
        | .ok (options, rest) =>
          readSequence { given with options := given.options ++ options } fuel rest
        | .error fault => .error fault
    | _ => .ok { given with others := argument :: rest }

/-- Numbers as a sequence is written, filled up with zeros to the same width if that is wanted. -/
def sequenceTexts (wide : Bool) (all : List Int) : List String :=
  let texts := all.map toString
  let width := (texts.map String.length).foldl max 0
  if wide then
    texts.map fun text =>
      let (sign, digits) := match text.toList with
        | '-' :: digits => ("-", String.ofList digits)
        | _ => ("", text)
      sign ++ String.ofList (List.replicate (width - text.length) '0') ++ digits
  else texts

/-- Runs `seq`. -/
def seq (arguments : List String) (_ : List (String × String)) : Run Nat := do
  match readSequence ⟨[], []⟩ arguments.length arguments.tail with
  | .error fault => do
    complainOfUse "seq" fault.message
    return 1
  | .ok given =>
    let operands := given.others
    match operands.find? fun text => (Shell.Arithmetic.number? text.toList).isNone with
    | some text => do
      complainOfUse "seq" ("invalid floating point argument: " ++ quoted text)
      return 1
    | none =>
      let write (all : List Int) : Run Nat := do
        let texts := sequenceTexts (given.has 'w') all
        if !texts.isEmpty then
          Run.print 1 (line (((given.value? 's').getD "\n").intercalate texts))
        return 0
      match operands.filterMap fun text => Shell.Arithmetic.number? text.toList with
      | [] => do
        complainOfUse "seq" "missing operand"
        return 1
      | [last] => write (numbers 1 1 last)
      | [first, last] => write (numbers first 1 last)
      | [first, step, last] =>
        if step = 0 then do
          complainOfUse "seq" ("invalid Zero increment value: " ++ quoted (operands.getD 1 ""))
          return 1
        else write (numbers first step last)
      | _ => do
        complainOfUse "seq" ("extra operand " ++ quoted (operands.getD 3 ""))
        return 1

end Runbook.Utility
