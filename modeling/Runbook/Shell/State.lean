import Runbook.Sandbox.Program
import Runbook.Shell.Command
/-!
# The state of a shell

What a shell knows while it runs a script, and the steps that its commands are made of. A command
may jump: end the shell, leave a loop or a function, or start the next round of a loop.
-/

set_option autoImplicit false

namespace Runbook.Shell

open Machine Sandbox

/-- A variable. It may be marked before it has a value. -/
structure Variable where
  value : Option String
  exported : Bool
  readOnly : Bool
deriving DecidableEq, Repr

/-- What a shell knows. -/
structure State where
  /-- The name of the shell in its error messages. -/
  name : String
  bindings : List (String × Variable)
  functions : List (String × Command)
  documents : List (Nat × Word)
  nextDocument : Nat
  arguments : List String
  /-- The status of the last command. -/
  status : Nat
  /-- The number of the process that started as this shell. -/
  process : Nat
  lastBackground : Option Nat
  options : List Char
  /-- What is done about signals, and at the end for the number zero. -/
  traps : List (Nat × String)
  line : Nat
  loops : Nat
  /-- The variables that functions have made their own, as they were before. -/
  locals : List (List (String × Option Variable))
  /-- Whether the status of the command decides something, so that a failure is none. -/
  tested : Bool
  /-- The children that have ended and have not been asked about. -/
  ended : List (ProcessId × ExitStatus)
  /-- The line up to which the script has been read. -/
  reached : Nat
  /-- The status of the last command whose output became a part of a word. -/
  substituted : Option Nat
  /-- The command that the shell is running itself, which its error messages name. -/
  command : Option String

/-- The options of a shell: their names in order, and their letters if they have any. -/
def optionNames : List (String × Option Char) := [
  ("errexit", 'e'), ("noglob", 'f'), ("ignoreeof", 'I'), ("interactive", 'i'), ("monitor", 'm'),
  ("noexec", 'n'), ("stdin", 's'), ("xtrace", 'x'), ("verbose", 'v'), ("vi", 'V'),
  ("emacs", 'E'), ("noclobber", 'C'), ("allexport", 'a'), ("notify", 'b'), ("nounset", 'u'),
  ("privileged", 'p'), ("nolog", none), ("debug", none)]

/-- The letters of all options. -/
def optionLetters : List Char := optionNames.filterMap Prod.snd

/-- Why a command is left before its end. -/
inductive Jump where
  | exit (status : Nat)
  /-- A failure that ends the shell unless a command that may fail stands around it. -/
  | failure
  | leave (loops : Nat)
  | again (loops : Nat)
  | return (status : Nat)
deriving DecidableEq, Repr

/-- What a shell does. -/
abbrev Sh (α : Type) := ExceptT Jump (StateT State Run) α

namespace Sh

variable {α : Type}

/-- Asks the system. -/
def call (c : Call) : Sh c.Reply := liftM (m := StateT State Run) (liftM (m := Run) (Run.call c))

/-- Runs a piece of a program. -/
def lift (piece : Run α) : Sh α := liftM (m := StateT State Run) (liftM (m := Run) piece)

/-- Jumps. -/
def jump (jump : Jump) : Sh α := throw jump

/-- Sets the status of the last command. -/
def setStatus (status : Nat) : Sh Unit := modify fun state => { state with status }

/-- Writes to the output. -/
def print (text : String) : Sh Unit := lift (Run.print 1 text)

/-- Writes a message about a failure to the error output. -/
def warn (text : String) : Sh Unit := do
  let state ← get
  let place := match state.command with
    | some command => command ++ ": "
    | none => ""
  lift (Run.print 2 (state.name ++ ": " ++ toString state.line ++ ": " ++ place ++ text ++ "\n"))

/-- Fails with a message. -/
def failWith (text : String) : Sh α := do
  warn text
  jump .failure

/-- Does something under the name of a command. -/
def under (command : String) (body : Sh α) : Sh α := do
  let outer := (← get).command
  modify fun state => { state with command := some command }
  try
    let result ← body
    modify fun state => { state with command := outer }
    return result
  catch jump =>
    modify fun state => { state with command := outer }
    throw jump

end Sh

/-! ### Variables -/

namespace State

variable (state : State)

/-- The value of a variable. -/
def value? (name : String) : Option String :=
  (state.bindings.lookup name).bind Variable.value

/-- The blanks at which fields are cut. -/
def separators : List Char := ((state.value? "IFS").getD " \t\n").toList

/-- Whether an option is on. -/
def has (option : Char) : Bool := option ∈ state.options

/-- A list of pairs with the value of a name replaced. -/
def replaceValue {α : Type} (name : String) (value : α) : List (String × α) → List (String × α)
  | [] => [(name, value)]
  | (first, old) :: rest =>
    if first = name then (name, value) :: rest else (first, old) :: replaceValue name value rest

/-- The state with a variable replaced. -/
def setVariable (name : String) (value : Variable) : State :=
  { state with bindings := replaceValue name value state.bindings }

/-- A variable with its marks, or one without. -/
def variableOrNew (name : String) : Variable :=
  (state.bindings.lookup name).getD ⟨none, false, false⟩

/-- The variables that other programs are given. -/
def environment : List (String × String) :=
  state.bindings.filterMap fun (name, entry) =>
    if entry.exported then entry.value.map fun value => (name, value) else none

end State

/-- Assigns a value to a variable. -/
def assign (name value : String) : Sh Unit := do
  let state ← get
  let old := state.variableOrNew name
  if old.readOnly then Sh.failWith (name ++ ": is read only")
  else
    set (state.setVariable name
      { old with value := some value, exported := old.exported || state.has 'a' })

end Runbook.Shell
