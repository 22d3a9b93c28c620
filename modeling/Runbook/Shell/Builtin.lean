import Runbook.Shell.Builtin.Signals
import Runbook.Shell.Printing
import Runbook.Shell.Test
/-!
# Commands that a shell runs itself

The commands that print, test, change the directory and leave, and the table of all commands that
need nothing but their arguments.
-/

set_option autoImplicit false

namespace Runbook.Shell.Builtin

open Machine Sandbox

/-! ### Printing and tests -/

/-- Runs `echo`. -/
def echo (arguments : List String) : Sh Nat := do
  match ← Sh.lift (Run.write 1 (ByteText.toBytes (Printing.echo arguments))) with
  | .ok () => return 0
  | .error _ => fault "echo: I/O error" 1

/-- Runs `printf`. What is wrong is told before anything is written. -/
def printf (arguments : List String) : Sh Nat := do
  match (← options [] [] arguments).others with
  | [] => Sh.failWith "usage: printf format [arg ...]"
  | format :: values =>
    let (text, faults) := Printing.format format values
    for cause in faults do
      Sh.warn cause.message
    Sh.print text
    return if faults.isEmpty then 0 else if faults.any Printing.Fault.isFinal then 2 else 1

/-- Runs a test. -/
def test (words : List String) : Sh Nat := do
  match ← Sh.lift (Test.evaluate words) with
  | .ok value => return if value then 0 else 1
  | .error cause => Sh.failWith cause.message

/-- Runs `[`. -/
def bracket (arguments : List String) : Sh Nat :=
  if arguments.getLast? = some "]" then test arguments.dropLast else Sh.failWith "missing ]"

/-! ### Directories -/

/-- A path put after a directory, with steps up taken back. -/
def tidyPath (directory path : String) : String :=
  let pieces := (if path.toList.head? = some '/' then [] else FileSystem.pieces directory) ++
    FileSystem.pieces path
  let names := pieces.foldl (fun names piece =>
    if piece = "." then names else if piece = ".." then names.tail else piece :: names) []
  "/" ++ "/".intercalate names.reverse

/-- Runs `cd`. -/
def cd (arguments : List String) : Sh Nat := do
  let given ← options ['L', 'P'] [] arguments
  let state ← get
  let (path, announce) := match given.others with
    | [] => ((state.value? "HOME").getD "", false)
    | "-" :: _ => ((state.value? "OLDPWD").getD "", true)
    | path :: _ => (path, false)
  let here := (state.value? "PWD").getD "/"
  let logical := tidyPath here path
  match ← Sh.call (.change (.workIn logical)) with
  | .error _ => Sh.failWith ("can't cd to " ++ path)
  | .ok () =>
    let reached : String ← if (given.options.getLast?.map Prod.fst) = some 'P' then
        Sh.call .workingDirectory
      else pure logical
    modify fun state =>
      let old := { state.variableOrNew "OLDPWD" with value := some here }
      let new := { state.variableOrNew "PWD" with value := some reached }
      (state.setVariable "OLDPWD" old).setVariable "PWD" new
    if announce then Sh.print (reached ++ "\n")
    return 0

/-- Runs `pwd`. -/
def pwd (arguments : List String) : Sh Nat := do
  let given ← options ['L', 'P'] [] arguments
  let physical : String ← Sh.call .workingDirectory
  let logical := ((← get).value? "PWD").getD "/"
  let isPhysical := (given.options.getLast?.map Prod.fst) = some 'P'
  Sh.print ((if isPhysical then physical else logical) ++ "\n")
  return 0

/-! ### Permissions -/

/-- What permission bits allow, in letters. -/
def allowed (bits : Nat) : String :=
  String.ofList ([(4, 'r'), (2, 'w'), (1, 'x')].filterMap fun (bit, letter) =>
    if bits &&& bit != 0 then some letter else none)

/-- Runs `umask`. -/
def umask (arguments : List String) : Sh Nat := do
  let given ← options ['S'] [] arguments
  match given.others with
  | [] =>
    let mask : Nat ← Sh.call (.mask none)
    if given.has 'S' then
      let part (shift : Nat) : String := allowed (7 - (mask >>> shift) % 8)
      Sh.print ("u=" ++ part 6 ++ ",g=" ++ part 3 ++ ",o=" ++ part 0 ++ "\n")
    else
      let digits := String.ofList (Nat.toDigits 8 mask)
      Sh.print (String.ofList (List.replicate (4 - digits.length) '0') ++ digits ++ "\n")
    return 0
  | argument :: _ =>
    if argument.toList.head?.any Char.isDigit then
      if argument.toList.all Printing.isOctal then
        let mask := argument.toList.foldl (fun value c => value * 8 + (c.toNat - '0'.toNat)) 0
        let _ ← Sh.call (.mask (some (mask % 512)))
        return 0
      else Sh.failWith ("Illegal number: " ++ argument)
    else Sh.failWith ("Illegal mode: " ++ argument)

/-! ### Jumps -/

/-- Runs `exit`. -/
def exit (arguments : List String) : Sh Nat := do
  match arguments with
  | [] => Sh.jump (.exit (← get).status)
  | argument :: _ => Sh.jump (.exit (← count argument))

/-- Runs `return`. -/
def returnFrom (arguments : List String) : Sh Nat := do
  match arguments with
  | [] => Sh.jump (.return (← get).status)
  | argument :: _ => Sh.jump (.return (← count argument))

/-- Leaves loops or starts their next round. -/
def jumpLoops (kind : Nat → Jump) (arguments : List String) : Sh Nat := do
  let levels ← match arguments with
    | [] => pure 1
    | argument :: _ => count argument
  let loops := (← get).loops
  if levels = 0 then Sh.failWith "Illegal number: 0"
  else if loops = 0 then return 0
  else Sh.jump (kind (min levels loops))

/-! ### All of them -/

/-- The commands that a shell runs itself, by name. -/
def table : List (String × (List String → Sh Nat)) := [
  (":", fun _ => return 0), ("true", fun _ => return 0), ("false", fun _ => return 1),
  ("echo", echo), ("printf", printf), ("test", test), ("[", bracket), ("cd", cd), ("pwd", pwd),
  ("export", exportVariables), ("readonly", protectVariables), ("unset", unset),
  ("local", makeLocal), ("set", setArguments), ("shift", shift), ("read", read), ("trap", trap),
  ("kill", kill), ("wait", wait), ("umask", umask), ("exit", exit), ("return", returnFrom),
  ("break", jumpLoops .leave), ("continue", jumpLoops .again), ("times", fun _ => return 0),
  ("jobs", jobs), ("fg", resume), ("bg", resume)]

end Runbook.Shell.Builtin
