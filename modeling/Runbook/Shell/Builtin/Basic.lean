import Runbook.Shell.Name
import Runbook.Shell.State
/-!
# Arguments of the commands that a shell runs itself

Such a command takes its arguments and gives its status. A failure that it does not turn into a
status is a jump: it ends the shell if the command is a special one.

`options` cuts the options off arguments by one rule for all commands: they are letters after a
hyphen, some of which take a value, and two hyphens end them.
-/

set_option autoImplicit false

namespace Runbook.Shell.Builtin

/-- Fails with a message and a status. -/
def fault (text : String) (status : Nat) : Sh Nat := do
  Sh.warn text
  return status

/-- The number that an argument is. -/
def count (argument : String) : Sh Nat :=
  let digits := trimSpaces argument.toList
  match (if digits.all Char.isDigit then (String.ofList digits).toNat? else none) with
  | some number =>
    if number < 0x80000000 then return number
    else Sh.failWith ("Illegal number: " ++ argument)
  | none => Sh.failWith ("Illegal number: " ++ argument)

/-! ### Options -/

/-- Options with their values, which are empty for those that have none, and what follows them. -/
structure Given where
  options : List (Char × String)
  others : List String
deriving DecidableEq, Repr

/-- Whether an option is given. -/
def Given.has (given : Given) (option : Char) : Bool :=
  given.options.any fun entry => entry.1 = option

/-- The options that some letters are; one with a value takes the other letters for it, or else
what follows. -/
def lettersOf (plain valued : List Char) : List Char → List String →
    Sh (List (Char × String) × List String)
  | [], rest => return ([], rest)
  | c :: more, rest =>
    if c ∈ valued then
      match more, rest with
      | [], [] => Sh.failWith ("No arg for -" ++ c.toString ++ " option")
      | [], value :: rest => return ([(c, value)], rest)
      | more, rest => return ([(c, String.ofList more)], rest)
    else if c ∈ plain then do
      let (options, rest) ← lettersOf plain valued more rest
      return ((c, "") :: options, rest)
    else Sh.failWith ("Illegal option -" ++ c.toString)

/-- Cuts the options off arguments, within a bound on their number. -/
def optionsFrom (plain valued : List Char) : Nat → List String → Sh Given
  | 0, arguments => return ⟨[], arguments⟩
  | _ + 1, [] => return ⟨[], []⟩
  | fuel + 1, argument :: rest =>
    match argument.toList with
    | ['-', '-'] => return ⟨[], rest⟩
    | '-' :: c :: more => do
      let (options, rest) ← lettersOf plain valued (c :: more) rest
      let given ← optionsFrom plain valued fuel rest
      return { given with options := options ++ given.options }
    | _ => return ⟨[], argument :: rest⟩

/-- Cuts the options off arguments. -/
def options (plain valued : List Char) (arguments : List String) : Sh Given :=
  optionsFrom plain valued arguments.length arguments

end Runbook.Shell.Builtin
