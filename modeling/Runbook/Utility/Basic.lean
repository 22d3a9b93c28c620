import Runbook.Shell.Interpreter
import Runbook.Utility.Option
/-!
# Utilities

The small programs that a sandbox provides are given their name, their arguments and the variables
of their environment. A utility goes on after an argument that it cannot use, and its status tells
of that.
-/

set_option autoImplicit false

namespace Runbook.Utility

open Machine Sandbox

/-- A utility: given its name and then its arguments. -/
abbrev Tool := List String → List (String × String) → Run Nat

/-- Writes a message to the error output. -/
def complain (name text : String) : Run Unit := Run.print 2 (name ++ ": " ++ text ++ "\n")

/-- A text with an end mark. -/
def line (text : String) : String := text ++ "\n"

/-! ### Options -/

/-- Tells where to find how a utility is used, after a message. -/
def complainOfUse (name text : String) : Run Unit :=
  complain name (text ++ "\nTry " ++ quoted (name ++ " --help") ++ " for more information.")

/-- Does the work of a utility with its options and operands, if the options are right. -/
def withGiven (name : String) (table : OptionTable) (arguments : List String)
    (work : Given → Run Nat) : Run Nat := do
  match table.read arguments.tail with
  | .ok given => work given
  | .error fault => do
    complainOfUse name fault.message
    return table.failure

/-- Does the work of a utility that needs an operand. -/
def withOperands (name : String) (table : OptionTable) (arguments : List String)
    (work : Given → Run Nat) : Run Nat :=
  withGiven name table arguments fun given => do
    if given.others.isEmpty then
      complainOfUse name "missing operand"
      return table.failure
    else work given

/-! ### Files -/

/-- A bound on the depth of directories. -/
def maxDepth : Nat := 4096

/-- Makes a change of files: why it cannot be made, if it cannot. -/
def change? (change : FileChange) : Run (Option Errno) := do
  match ← Run.call (.change change) with
  | .ok () => return none
  | .error code => return some code

/-- Does something for each argument: the status, which tells whether all went well. -/
def forAll (work : String → Run Bool) : List String → Nat → Run Nat
  | [], status => return status
  | argument :: rest, status => do
    let well ← work argument
    forAll work rest (if well then status else 1)

/-- Tells of a failure, if there is one: whether there is none. -/
def wentWell (name text : String) (failure : Option Errno) : Run Bool := do
  match failure with
  | none => return true
  | some code =>
    complain name (text ++ ": " ++ Errno.text code)
    return false

/-- What a file holds that is named by an argument; a hyphen names the input. -/
def contentOf (path : String) : Run (Except Errno Bytes) :=
  if path = "-" then Run.readAll 0 else Run.readFile path

/-- The text of bytes of what a file holds, or a message in which the file is called as told. -/
def textCalled? (name : String) (call : String → String) (path : String) : Run (Option String) := do
  match ← contentOf path with
  | .ok bytes => return some (ByteText.ofBytes bytes)
  | .error code =>
    complain name (call path ++ ": " ++ Errno.text code)
    return none

/-- The text of bytes of what a file holds, or a message. -/
def textOf? (name path : String) : Run (Option String) := textCalled? name id path

/-- The texts of files, or of the input if none is named, put together, and the status. Messages
call the files as told. -/
def allTextCalled (name : String) (call : String → String) (paths : List String) :
    Run (String × Nat) := do
  let mut texts : List String := []
  let mut status := 0
  for path in if paths.isEmpty then ["-"] else paths do
    match ← textCalled? name call path with
    | some text => texts := text :: texts
    | none => status := 1
  return (String.join texts.reverse, status)

/-- The texts of files, or of the input if none is named, put together, and the status. -/
def allText (name : String) (paths : List String) : Run (String × Nat) :=
  allTextCalled name id paths

/-- The lines of a text without their newlines. -/
def linesOf (text : String) : List String :=
  let pieces := Text.splitAt '\n' text.toList
  (if pieces.getLast? = some [] then pieces.dropLast else pieces).map String.ofList

/-- A text of lines. -/
def unlines (lines : List String) : String := String.join (lines.map line)

/-- The natural number that a text is. -/
def natural? (text : String) : Option Nat :=
  if text != "" && text.toList.all Char.isDigit then text.toNat? else none

/-- What stands at a path, if anything does. -/
def statusAt? (path : String) (follow : Bool) : Run (Option FileStatus) := do
  match ← Run.call (.status path follow) with
  | .ok status => return some status
  | .error _ => return none

/-- Whether a path leads to a directory. -/
def isDirectory (path : String) : Run Bool := do
  return (← statusAt? path true).any fun status => status.kind = .directory

/-- A path below another one. -/
def below (directory name : String) : String :=
  if FileSystem.endsInSlash directory then directory ++ name else directory ++ "/" ++ name

/-- The last name of a path. -/
def lastName (path : String) : String :=
  match (FileSystem.pieces path).getLast? with
  | some name => name
  | none => if path = "" then "" else "/"

end Runbook.Utility
