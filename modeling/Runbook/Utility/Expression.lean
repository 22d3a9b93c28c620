import Runbook.Utility.Basic
import Runbook.Utility.Regex
/-!
# Expressions

`expr` evaluates an expression whose operators and operands are its arguments.
-/

set_option autoImplicit false

namespace Runbook.Utility

open Sandbox

/-! ### Operators -/

/-- The operators of `expr` by how tightly they bind. -/
def exprLevels : List (List String) :=
  [["|"], ["&"], ["<", "<=", "=", "==", "!=", ">=", ">"], ["+", "-"], ["*", "/", "%"], [":"]]

/-- Whether a value counts as nothing. -/
def isNothing (text : String) : Bool := text = "" || text = "0"

/-- What is wrong with an expression. -/
inductive ExprFault where
  | missingOperand
  /-- An argument is missing after another one. -/
  | missingAfter (text : String)
  | unexpected (text : String)
  | notWhole
  | zeroDivision
deriving DecidableEq, Repr

/-- The wording of what is wrong with an expression. -/
def ExprFault.message : ExprFault → String
  | missingOperand => "missing operand"
  | missingAfter text => "syntax error: missing argument after " ++ quoted text
  | unexpected text => "syntax error: unexpected argument " ++ quoted text
  | notWhole => "non-integer argument"
  | zeroDivision => "division by zero"

/-- The whole number that an operand of `expr` is. -/
def exprNumber? (text : String) : Option Int :=
  match text.toList with
  | '-' :: digits => (natural? (String.ofList digits)).map fun n => -Int.ofNat n
  | _ => (natural? text).map Int.ofNat

/-- What an expression fits of a text: what its first group holds, or how much it is. -/
def exprFit (text pattern : String) : String :=
  match Regex.parse? false pattern with
  | none => "0"
  | some regex =>
    match Regex.longest (regex.fits false (.ofText none text.toList)) with
    | some fit =>
      match fit.groups.lookup 1 with
      | some group => String.ofList group
      | none => toString fit.length
    | none => "0"

/-- The value of an operator of `expr`. -/
def exprApply (operator a b : String) : Except ExprFault String :=
  let numbers? := do return (← exprNumber? a, ← exprNumber? b)
  let truth (value : Bool) : Except ExprFault String := .ok (if value then "1" else "0")
  let order := match numbers? with
    | some (x, y) => compare x y
    | none => compare a b
  let whole (value : Int → Int → Except ExprFault Int) : Except ExprFault String :=
    match numbers? with
    | some (x, y) => (value x y).map toString
    | none => .error .notWhole
  match operator with
  | "|" => .ok (if isNothing a then (if isNothing b then "0" else b) else a)
  | "&" => .ok (if isNothing a || isNothing b then "0" else a)
  | "<" => truth (order = .lt)
  | "<=" => truth (order != .gt)
  | "=" => truth (order = .eq)
  | "==" => truth (order = .eq)
  | "!=" => truth (order != .eq)
  | ">=" => truth (order != .lt)
  | ">" => truth (order = .gt)
  | "+" => whole fun x y => .ok (x + y)
  | "-" => whole fun x y => .ok (x - y)
  | "*" => whole fun x y => .ok (x * y)
  | "/" => whole fun x y => if y = 0 then .error .zeroDivision else .ok (x.tdiv y)
  | "%" => whole fun x y => if y = 0 then .error .zeroDivision else .ok (x.tmod y)
  | _ => .ok (exprFit a b)

mutual

/-- Evaluates operands of `expr` between the operators of some levels. `last` is the word before
them. -/
def exprLevel : Nat → List (List String) → String → List String →
    Except ExprFault (String × List String)
  | 0, _, last, _ => .error (.missingAfter last)
  | fuel + 1, [], last, words =>
    match words with
    | "(" :: rest => do
      let (value, rest) ← exprLevel fuel exprLevels "(" rest
      match rest with
      | ")" :: rest => return (value, rest)
      | word :: _ => .error (.unexpected word)
      | [] => .error (.missingAfter value)
    | "length" :: word :: rest => .ok (toString word.length, rest)
    | "match" :: text :: pattern :: rest => .ok (exprFit text pattern, rest)
    | "index" :: text :: signs :: rest =>
      .ok (toString (match text.toList.findIdx? (· ∈ signs.toList) with
        | some i => i + 1
        | none => 0), rest)
    | "substr" :: text :: start :: count :: rest =>
      .ok (match natural? start, natural? count with
        | some (i + 1), some n => String.ofList ((text.toList.drop i).take n)
        | _, _ => "", rest)
    | ")" :: _ => .error (.unexpected ")")
    | word :: rest => .ok (word, rest)
    | [] => .error (.missingAfter last)
  | fuel + 1, level :: tighter, last, words => do
    let (value, rest) ← exprLevel fuel tighter last words
    exprFurther fuel level tighter value rest
termination_by structural fuel => fuel

/-- Evaluates the further operands of a level. -/
def exprFurther : Nat → List String → List (List String) → String → List String →
    Except ExprFault (String × List String)
  | 0, _, _, value, words => .ok (value, words)
  | fuel + 1, level, tighter, value, words =>
    match words with
    | operator :: rest =>
      if operator ∈ level then do
        let (other, rest) ← exprLevel fuel tighter operator rest
        exprFurther fuel level tighter (← exprApply operator value other) rest
      else .ok (value, words)
    | [] => .ok (value, words)
termination_by structural fuel => fuel

end

/-- The value of an expression. -/
def exprValue (words : List String) : Except ExprFault String := do
  if words.isEmpty then .error .missingOperand
  let (value, rest) ← exprLevel (16 * words.length + 16) exprLevels "" words
  match rest with
  | [] => return value
  | word :: _ => .error (.unexpected word)

/-- Runs `expr`. -/
def expr (arguments : List String) (_ : List (String × String)) : Run Nat := do
  match exprValue (if arguments.tail.head? = some "--" then arguments.tail.tail
      else arguments.tail) with
  | .ok value => do
    Run.print 1 (line value)
    return if isNothing value then 1 else 0
  | .error .missingOperand => do
    complainOfUse "expr" ExprFault.missingOperand.message
    return 2
  | .error fault => do
    complain "expr" fault.message
    return 2

end Runbook.Utility
