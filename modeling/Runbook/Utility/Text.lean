import Runbook.Shell.Test
import Runbook.Utility.Basic
/-!
# Utilities on texts

`echo`, `printf` and `test` as programs of their own, and `basename` and `dirname`, which take paths
apart.
-/

set_option autoImplicit false

namespace Runbook.Utility

open Sandbox

/-! ### Printing and tests -/

/-- Runs `echo` as a program of its own: escapes are resolved only when that is asked for. -/
def echo (arguments : List String) (_ : List (String × String)) : Run Nat := do
  let isOption (text : String) : Bool :=
    match text.toList with
    | '-' :: c :: rest => (c :: rest).all (· ∈ ['n', 'e', 'E'])
    | _ => false
  let options := arguments.tail.takeWhile isOption
  let letters := (options.map fun text => text.toList.drop 1).flatten
  let text := " ".intercalate (arguments.tail.drop options.length)
  let escapes := (letters.filter (· != 'n')).getLast? = some 'e'
  let (text, ended) := if escapes then Shell.Printing.resolve text else (text, false)
  Run.print 1 (if 'n' ∈ letters || ended then text else line text)
  return 0

/-- The wording of a fault in a format by the program. -/
def faultText : Shell.Printing.Fault → String
  | .notNumber argument => quoted argument ++ ": expected a numeric value"
  | .partlyNumber argument => quoted argument ++ ": value not completely converted"
  | .tooGreat argument => quoted argument ++ ": Numerical result out of range"
  | .unknownConversion text => text ++ ": invalid conversion specification"
  | .noConversion => "missing conversion specification"

/-- Runs `printf` as a program of its own. -/
def printf (arguments : List String) (_ : List (String × String)) : Run Nat := do
  match arguments.tail with
  | [] =>
    complainOfUse "printf" "missing operand"
    return 1
  | format :: values =>
    let (text, faults) := Shell.Printing.format format values
    for fault in faults do
      complain "printf" (faultText fault)
    Run.print 1 text
    return if faults.isEmpty then 0 else 1

/-- The wording of a fault in a test by the program. -/
def testFaultText : Shell.Test.Fault → String
  | .missing operator => "missing argument after " ++ quoted operator
  | .operator word => quoted word ++ ": binary operator expected"
  | .number word => "invalid integer " ++ quoted word
  | .parenthesis => quoted ")" ++ " expected"

/-- Runs `test` as a program of its own. -/
def test (arguments : List String) (_ : List (String × String)) : Run Nat := do
  let bracket := lastName (arguments.headD "") = "["
  if bracket && arguments.getLast? != some "]" then
    complain "[" ("missing " ++ quoted "]")
    return 2
  else
    match ← Shell.Test.evaluate (if bracket then arguments.tail.dropLast else arguments.tail) with
    | .ok value => return if value then 0 else 1
    | .error fault =>
      complain (if bracket then "[" else "test") (testFaultText fault)
      return 2

/-! ### Names -/

/-- A name without an ending, unless nothing else is left of it. -/
def withoutEnding (name ending : String) : String :=
  if ending != name && ending.toList.isSuffixOf name.toList then
    String.ofList (name.toList.take (name.length - ending.length))
  else name

/-- Runs `basename`. -/
def basename (arguments : List String) (_ : List (String × String)) : Run Nat :=
  withOperands "basename" ⟨"az", "s", "", [("multiple", 'a'), ("suffix", 's')], true, 1⟩ arguments
    fun given => do
      if given.has 'a' || given.has 's' then
        for path in given.others do
          Run.print 1 (line (withoutEnding (lastName path) ((given.value? 's').getD "")))
        return 0
      else
        match given.others with
        | _ :: _ :: extra :: _ => do
          complainOfUse "basename" ("extra operand " ++ quoted extra)
          return 1
        | path :: rest => do
          Run.print 1 (line (withoutEnding (lastName path) (rest.headD "")))
          return 0
        | [] => return 1

/-- The path of the directory that a path stands in. -/
def directoryOf (path : String) : String :=
  let trimmed := path.toList.reverse.dropWhile (· = '/')
  let before := (trimmed.dropWhile (· != '/')).dropWhile (· = '/')
  if before.isEmpty then (if path.toList.head? = some '/' then "/" else ".")
  else String.ofList before.reverse

/-- Runs `dirname`. -/
def dirname (arguments : List String) (_ : List (String × String)) : Run Nat :=
  withOperands "dirname" { plain := "z" } arguments fun given => do
    for path in given.others do
      Run.print 1 (line (directoryOf path))
    return 0

end Runbook.Utility
