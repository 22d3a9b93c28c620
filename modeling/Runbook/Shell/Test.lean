import Runbook.Shell.Arithmetic
import Runbook.Shell.State
/-!
# Tests

The expressions of the command `test`, about texts, numbers and files.
-/

set_option autoImplicit false

namespace Runbook.Shell.Test

open Machine Sandbox

/-- What is wrong with a test. -/
inductive Fault where
  /-- An operator has no word after it. -/
  | missing (operator : String)
  | operator (word : String)
  | number (word : String)
  | parenthesis
deriving DecidableEq, Repr

/-- The wording of a fault in a test. -/
def Fault.message : Fault → String
  | missing word => word ++ ": argument expected"
  | operator word => word ++ ": unexpected operator"
  | number word => "Illegal number: " ++ word
  | parenthesis => "closing paren expected"

/-- A part of a test: words are read, and the system may be asked. -/
abbrev Eval (α : Type) := ExceptT Fault (StateT (List String) Run) α

/-- The operators between two words. -/
def binaryOperators : List String := [
  "=", "!=", "<", ">", "-eq", "-ne", "-lt", "-le", "-gt", "-ge", "-nt", "-ot", "-ef"]

/-- The operators before one word. -/
def unaryOperators : List String := [
  "-n", "-z", "-e", "-f", "-d", "-r", "-w", "-x", "-s", "-h", "-L", "-p", "-c", "-b", "-S", "-g",
  "-k", "-u", "-O", "-G", "-t"]

/-- The status of a path. -/
def status? (path : String) (follow : Bool) : Eval (Option FileStatus) := do
  let answer : Except Errno FileStatus ←
    liftM (m := StateT (List String) Run) (liftM (m := Run) (Run.call (.status path follow)))
  match answer with
  | .ok status => return some status
  | .error _ => return none

/-- Whether something with a property stands at a path. -/
def fileHas (path : String) (p : FileStatus → Bool) : Eval Bool := do
  match ← status? path true with
  | some status => return p status
  | none => return false

/-- The value of an operator before a word. -/
def unary (operator word : String) : Eval Bool :=
  match operator with
  | "-n" => return word != ""
  | "-z" => return word = ""
  | "-e" => fileHas word fun _ => true
  | "-f" => fileHas word fun status => status.kind = .file
  | "-d" => fileHas word fun status => status.kind = .directory
  | "-s" => fileHas word fun status => status.size != 0 || status.kind = .directory
  | "-r" => fileHas word fun _ => true
  | "-w" => fileHas word fun _ => true
  | "-O" => fileHas word fun _ => true
  | "-G" => fileHas word fun _ => true
  | "-x" => fileHas word fun status => status.kind = .directory || status.mode &&& 0o111 != 0
  | "-c" => fileHas word fun status => status.kind = .special
  | "-h" => do
    match ← status? word false with
    | some status => return status.kind = .link
    | none => return false
  | "-L" => do
    match ← status? word false with
    | some status => return status.kind = .link
    | none => return false
  | _ => return false

/-- The number that a word is. -/
def number (word : String) : Eval Int :=
  match Arithmetic.number? word.toList with
  | some n => return n
  | none => throw (.number word)

/-- Compares two numbers. -/
def compare (first second : String) (p : Int → Int → Bool) : Eval Bool := do
  let a ← number first
  let b ← number second
  return p a b

/-- The value of an operator between two words. -/
def binary (first operator second : String) : Eval Bool :=
  match operator with
  | "!=" => return first != second
  | "<" => return first < second
  | ">" => return second < first
  | "-eq" => compare first second fun a b => a = b
  | "-ne" => compare first second fun a b => a ≠ b
  | "-lt" => compare first second fun a b => a < b
  | "-le" => compare first second fun a b => a ≤ b
  | "-gt" => compare first second fun a b => a > b
  | "-ge" => compare first second fun a b => a ≥ b
  | "-ef" => do
    let a ← status? first true
    let b ← status? second true
    return a.isSome && a.map FileStatus.node = b.map FileStatus.node
  | "-nt" => return false
  | "-ot" => return false
  | _ => return first = second

/-! ### Expressions -/

/-- What a word is where an operand or an operator may stand. -/
inductive Token where
  | none
  | operand
  | unary (operator : String)
  | binary (operator : String)
  | negation
  | both
  | either
  | opening
  | closing
deriving DecidableEq, Repr

/-- What the first of some words is. An operator before a word is an operand where it has no word or
where an operator between words follows. -/
def tokenOf : List String → Token
  | [] => .none
  | word :: rest =>
    if word ∈ unaryOperators then
      match rest with
      | [] => .operand
      | [_] => .unary word
      | next :: _ :: _ => if next ∈ binaryOperators then .operand else .unary word
    else if word ∈ binaryOperators then .binary word
    else if word = "!" then .negation
    else if word = "-a" then .both
    else if word = "-o" then .either
    else if word = "(" && !rest.isEmpty then .opening
    else if word = ")" then .closing
    else .operand

/-- Goes on by some words. -/
def skip (count : Nat) : Eval Unit := modify fun words => words.drop count

/-- The value of an operator between the first word and the one after the operator. The second of
them becomes the first word. -/
def binaryHere (operator : String) : Eval Bool := do
  let first := (← get).headD ""
  skip 2
  match ← get with
  | [] => throw (.missing operator)
  | second :: _ => binary first operator second

mutual

/-- Evaluates operands between `-o`, from what the first word is. The last word of the operands
becomes the first. -/
def anyOf : Nat → Token → Eval Bool
  | 0, _ => return false
  | fuel + 1, token => do
    let first ← allOf fuel token
    if tokenOf (← get).tail = .either then
      skip 2
      let second ← anyOf fuel (tokenOf (← get))
      return first || second
    else return first
termination_by structural fuel => fuel

/-- Evaluates operands between `-a`. -/
def allOf : Nat → Token → Eval Bool
  | 0, _ => return false
  | fuel + 1, token => do
    let first ← negated fuel token
    if tokenOf (← get).tail = .both then
      skip 2
      let second ← allOf fuel (tokenOf (← get))
      return first && second
    else return first
termination_by structural fuel => fuel

/-- Evaluates an operand after exclamation marks. -/
def negated : Nat → Token → Eval Bool
  | 0, _ => return false
  | fuel + 1, token => do
    if token = .negation then
      let next := tokenOf (← get).tail
      if next != .none then skip 1
      return !(← negated fuel next)
    else primary fuel token
termination_by structural fuel => fuel

/-- Evaluates an operand. -/
def primary : Nat → Token → Eval Bool
  | 0, _ => return false
  | _ + 1, .none => return false
  | fuel + 1, .opening => do
    skip 1
    let inner := tokenOf (← get)
    if inner = .closing then return false
    else
      let value ← anyOf fuel inner
      skip 1
      if tokenOf (← get) = .closing then return value else throw .parenthesis
  | _ + 1, .unary operator => do
    skip 1
    match ← get with
    | [] => throw (.missing operator)
    | word :: _ => unary operator word
  | _ + 1, _ => do
    match tokenOf (← get).tail with
    | .binary operator => binaryHere operator
    | _ => return (← get).headD "" != ""
termination_by structural fuel => fuel

end

/-- Evaluates words as a whole, from what the first of them is. -/
def whole (token : Token) : Eval Bool := do
  let value ← anyOf (8 * (← get).length + 8) token
  match ← get with
  | word :: _ :: _ => throw (.operator word)
  | _ => return value

/-- Evaluates few words by how many they are: a comparison of two words comes first, then
parentheses around all. Exclamation marks before all turn the value round once, however many they
are. -/
def byCount : Nat → Bool → List String → Eval Bool
  | 0, _, _ => return false
  | fuel + 1, turned, words => do
    set words
    let comparison := match words with
      | [_, operator, _] => decide (operator ∈ binaryOperators)
      | _ => false
    let isFew := words.length = 3 || words.length = 4
    if words.isEmpty then return turned
    else if comparison then return (← whole .operand) != turned
    else if isFew && words.head? = some "(" && words.getLast? = some ")" then
      let inner := words.dropLast.tail
      set inner
      return (← whole (tokenOf inner)) != turned
    else if isFew && words.head? = some "!" then byCount fuel true words.tail
    else return (← whole (tokenOf words)) != turned

/-- Evaluates a test. -/
def evaluate (words : List String) : Run (Except Fault Bool) := do
  let (result, _) ← ((byCount (words.length + 1) false words).run).run words
  return result

end Runbook.Shell.Test
