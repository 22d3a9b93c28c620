import Runbook.Shell.Name
/-!
# Arithmetic of the shell

Expressions over whole numbers of 64 bits. An operand that decides nothing any more is read but not
evaluated, so it changes no variable.
-/

set_option autoImplicit false

namespace Runbook.Shell.Arithmetic

/-- What is wrong with an expression. -/
inductive Fault where
  | primary
  | ending
  | parenthesis
  | colon
  | zeroDivision
  /-- The value of a variable is no number. -/
  | number (text : String)
deriving DecidableEq, Repr

/-- The wording of a fault in an expression. -/
def Fault.message (source : String) : Fault → String
  | primary => "arithmetic expression: expecting primary: \"" ++ source ++ "\""
  | ending => "arithmetic expression: expecting EOF: \"" ++ source ++ "\""
  | parenthesis => "arithmetic expression: expecting ')': \"" ++ source ++ "\""
  | colon => "arithmetic expression: expecting ':': \"" ++ source ++ "\""
  | zeroDivision => "arithmetic expression: division by zero: \"" ++ source ++ "\""
  | number text => "Illegal number: " ++ text

/-- A number as one of 64 bits. -/
def wrap (n : Int) : Int := Int.bmod n 0x10000000000000000

/-- The digits of a number in some base at the start of a text. -/
def takeDigits (base : Nat) : List Char → Nat → Nat → Nat × Nat × List Char
  | [], value, count => (value, count, [])
  | c :: rest, value, count =>
    let digit :=
      if c.isDigit then c.toNat - '0'.toNat
      else if 'a' ≤ c && c ≤ 'f' then c.toNat - 'a'.toNat + 10
      else if 'A' ≤ c && c ≤ 'F' then c.toNat - 'A'.toNat + 10
      else 36
    if digit < base then takeDigits base rest (value * base + digit) (count + 1)
    else (value, count, c :: rest)

/-- The whole number at the start of a text, without a sign. -/
def takeWholeNumber? (text : List Char) : Option (Nat × List Char) :=
  let (base, digits) := match text with
    | '0' :: x :: rest => if x = 'x' || x = 'X' then (16, rest) else (8, text)
    | '0' :: [] => (8, text)
    | _ => (10, text)
  let (value, count, rest) := takeDigits base digits 0 0
  if count = 0 then none else some (value, rest)

/-- The number of 64 bits at the start of a text, without a sign. -/
def takeNumber? (text : List Char) : Option (Int × List Char) :=
  (takeWholeNumber? text).map fun (value, rest) => (wrap value, rest)

/-- The number that a text is, with blanks around it. -/
def number? (text : List Char) : Option Int :=
  let trimmed := text.dropWhile isSpace
  let (negative, digits) := match trimmed with
    | '-' :: rest => (true, rest)
    | '+' :: rest => (false, rest)
    | _ => (false, trimmed)
  match takeNumber? digits with
  | some (value, rest) =>
    if rest.all isSpace then some (if negative then wrap (-value) else value) else none
  | none => none

/-- What is left of an expression and what its assignments have made of variables. -/
structure State where
  rest : List Char
  assigned : List (String × Int)

/-- A part of an evaluation. -/
abbrev Eval (α : Type) := StateT State (Except Fault) α

/-- Leaves blanks behind. -/
def skipSpaces : Eval Unit :=
  modify fun state => { state with rest := state.rest.dropWhile isSpace }

/-- The operators between two operands by how tightly they bind, the longer ones first. -/
def levels : List (List String) := [
  ["||"], ["&&"], ["|"], ["^"], ["&"], ["==", "!="], ["<=", ">=", "<", ">"], ["<<", ">>"],
  ["+", "-"], ["*", "/", "%"]]

/-- All operators that start alike are told apart by the longest one. -/
def operators : List String := [
  "<<=", ">>=", "||", "&&", "==", "!=", "<=", ">=", "<<", ">>", "+=", "-=", "*=", "/=", "%=", "&=",
  "|=", "^=", "|", "^", "&", "<", ">", "+", "-", "*", "/", "%", "=", "!", "~", "?", ":", "(", ")"]

/-- The operator that comes next, which stays. -/
def lookOperator : Eval (Option String) := do
  skipSpaces
  let rest := (← get).rest
  return operators.find? fun operator => operator.toList.isPrefixOf rest

/-- Leaves an operator behind. -/
def skipOperator (operator : String) : Eval Unit :=
  modify fun state => { state with rest := state.rest.drop operator.length }

/-- The number that a truth value is. -/
def truth (b : Bool) : Int := if b then 1 else 0

/-- A number as a natural number of 64 bits. -/
def unsigned (n : Int) : Nat := (n % 0x10000000000000000).toNat

/-- The value of an operator between two operands. -/
def apply (active : Bool) (operator : String) (x y : Int) : Eval Int :=
  match operator with
  | "||" => return truth (x ≠ 0 || y ≠ 0)
  | "&&" => return truth (x ≠ 0 && y ≠ 0)
  | "|" => return wrap (unsigned x ||| unsigned y)
  | "^" => return wrap (unsigned x ^^^ unsigned y)
  | "&" => return wrap (unsigned x &&& unsigned y)
  | "==" => return truth (x = y)
  | "!=" => return truth (x ≠ y)
  | "<=" => return truth (x ≤ y)
  | ">=" => return truth (x ≥ y)
  | "<" => return truth (x < y)
  | ">" => return truth (x > y)
  | "<<" => return wrap (unsigned x <<< (unsigned y % 64))
  | ">>" => return x >>> (unsigned y % 64)
  | "+" => return wrap (x + y)
  | "-" => return wrap (x - y)
  | "*" => return wrap (x * y)
  | "/" =>
    if y = 0 then (if active then throw .zeroDivision else return 0) else return wrap (x.tdiv y)
  | _ =>
    if y = 0 then (if active then throw .zeroDivision else return 0) else return wrap (x.tmod y)

/-- The value of a variable: what has been assigned to it here, or the number that it holds. -/
def valueOf (lookup : String → Option String) (name : String) : Eval Int := do
  match (← get).assigned.lookup name with
  | some value => return value
  | none =>
    match lookup name with
    | none => return 0
    | some "" => return 0
    | some text =>
      match number? text.toList with
      | some value => return value
      | none => throw (.number text)

mutual

/-- Evaluates an assignment or a conditional expression. -/
def expression (lookup : String → Option String) : Nat → Bool → Eval Int
  | 0, _ => throw .primary
  | fuel + 1, active => do
    skipSpaces
    let before ← get
    let name := before.rest.takeWhile isNameChar
    let after := (before.rest.drop name.length).dropWhile isSpace
    let operator := ["<<=", ">>=", "+=", "-=", "*=", "/=", "%=", "&=", "|=", "^=", "="].find?
      fun operator => operator.toList.isPrefixOf after
    match name, operator with
    | c :: _, some operator =>
      if isNameStart c && !(operator = "=" && after[1]? = some '=') then do
        let name := String.ofList name
        set { before with rest := after.drop operator.length }
        let right ← expression lookup fuel active
        let value ←
          if operator = "=" then pure right
          else do
            let left ← valueOf lookup name
            apply active (String.ofList operator.toList.dropLast) left right
        if active then modify fun state =>
            { state with assigned := (name, value) :: state.assigned }
        return value
      else conditional lookup fuel active
    | _, _ => conditional lookup fuel active
termination_by structural fuel => fuel

/-- Evaluates a conditional expression. -/
def conditional (lookup : String → Option String) : Nat → Bool → Eval Int
  | 0, _ => throw .primary
  | fuel + 1, active => do
    let test ← binary lookup fuel levels active
    if (← lookOperator) = some "?" then do
      skipOperator "?"
      let accepted ← expression lookup fuel (active && test ≠ 0)
      if (← lookOperator) = some ":" then do
        skipOperator ":"
        let rejected ← conditional lookup fuel (active && test = 0)
        return if test ≠ 0 then accepted else rejected
      else throw .colon
    else return test
termination_by structural fuel => fuel

/-- Evaluates operands between the operators of some levels. -/
def binary (lookup : String → Option String) : Nat → List (List String) → Bool → Eval Int
  | 0, _, _ => throw .primary
  | fuel + 1, [], active => unary lookup fuel active
  | fuel + 1, level :: tighter, active => do
    let first ← binary lookup fuel tighter active
    further lookup fuel level tighter active first
termination_by structural fuel => fuel

/-- Evaluates the further operands of a level after the value of those before. -/
def further (lookup : String → Option String) :
    Nat → List String → List (List String) → Bool → Int → Eval Int
  | 0, _, _, _, value => return value
  | fuel + 1, level, tighter, active, value => do
    match ← lookOperator with
    | none => return value
    | some operator =>
      if operator ∈ level then do
        skipOperator operator
        let decides := match operator with
          | "&&" => value ≠ 0
          | "||" => value = 0
          | _ => true
        let right ← binary lookup fuel tighter (active && decides)
        further lookup fuel level tighter active (← apply active operator value right)
      else return value
termination_by structural fuel => fuel

/-- Evaluates an operand with the signs before it. -/
def unary (lookup : String → Option String) : Nat → Bool → Eval Int
  | 0, _ => throw .primary
  | fuel + 1, active => do
    skipSpaces
    match (← get).rest with
    | '-' :: _ => do
      skipOperator "-"
      return wrap (-(← unary lookup fuel active))
    | '+' :: _ => do
      skipOperator "+"
      unary lookup fuel active
    | '!' :: _ => do
      skipOperator "!"
      return truth ((← unary lookup fuel active) = 0)
    | '~' :: _ => do
      skipOperator "~"
      return wrap (-(← unary lookup fuel active) - 1)
    | '(' :: _ => do
      skipOperator "("
      let value ← expression lookup fuel active
      if (← lookOperator) = some ")" then do
        skipOperator ")"
        return value
      else throw .parenthesis
    | c :: _ =>
      if c.isDigit then do
        let state ← get
        match takeNumber? state.rest with
        | some (value, rest) => do
          set { state with rest }
          return value
        | none => throw .primary
      else if isNameStart c then do
        let state ← get
        let name := state.rest.takeWhile isNameChar
        set { state with rest := state.rest.drop name.length }
        if active then valueOf lookup (String.ofList name) else return 0
      else throw .primary
    | [] => throw .primary
termination_by structural fuel => fuel

end

/-- Evaluates an expression: its value and the variables that it changes, the last change first. -/
def evaluate (lookup : String → Option String) (source : String) :
    Except Fault (Int × List (String × Int)) := do
  let text := source.toList
  if text.all isSpace then return (0, [])
  else
    let (value, state) ← (expression lookup (32 * text.length + 64) true).run ⟨text, []⟩
    if state.rest.all isSpace then return (value, state.assigned) else throw .ending

end Runbook.Shell.Arithmetic
