import Runbook.Utility.Copy
import Runbook.Utility.Directory
import Runbook.Utility.Edit
import Runbook.Utility.Expression
import Runbook.Utility.File
import Runbook.Utility.Find
import Runbook.Utility.Grep
import Runbook.Utility.Launch
import Runbook.Utility.Line
import Runbook.Utility.Sequence
import Runbook.Utility.Text
import Runbook.Utility.Characters
/-!
# All utilities

The table of all utilities. Some utilities start programs, and a shell is a program too; `programs`
holds them up to a depth of programs that start others.
-/

set_option autoImplicit false

namespace Runbook.Utility

open Sandbox

/-- The utilities that start no other programs, by name. -/
def plainTools : List (String × Tool) := [
  ("true", fun _ _ => return 0), ("false", fun _ _ => return 1), ("echo", echo),
  ("printf", printf), ("test", test), ("[", test), ("basename", basename), ("dirname", dirname),
  ("expr", expr), ("sleep", sleep), ("printenv", printenv), ("which", which), ("cat", cat),
  ("head", head), ("tail", tail), ("wc", wc), ("tr", tr), ("tee", tee), ("sort", sort),
  ("uniq", uniq), ("cut", cut), ("rev", rev), ("tac", tac), ("nl", nl), ("yes", yes), ("seq", seq),
  ("grep", grepAs false), ("egrep", grepAs true), ("sed", sed), ("ls", ls), ("mkdir", mkdir),
  ("rmdir", rmdir), ("rm", rm), ("cp", cp), ("mv", mv), ("ln", ln), ("readlink", readlink),
  ("realpath", realpath), ("touch", touch), ("chmod", chmod), ("stat", stat), ("cmp", cmp),
  ("find", find), ("kill", kill), ("pwd", fun _ _ => do
    Run.print 1 (line (← Run.call .workingDirectory))
    return 0)]

/-- The names of all programs. -/
def names : List String := plainTools.map Prod.fst ++ ["env", "xargs", "timeout", "sh", "dash"]

/-- The programs, up to a depth of programs that start others. -/
def programs : Nat → Shell.Programs
  | 0 => fun _ => none
  | depth + 1 => fun name =>
    match name with
    | "sh" => some fun arguments environment => Shell.main (programs depth) arguments environment
    | "dash" => some fun arguments environment => Shell.main (programs depth) arguments environment
    | "env" => some fun arguments environment => env (programs depth) arguments environment
    | "timeout" => some fun arguments environment => timeout (programs depth) arguments environment
    | "xargs" => some fun arguments environment => xargs (programs depth) arguments environment
    | _ => plainTools.lookup name

/-- The greatest depth of programs that start others. -/
def maxProgramDepth : Nat := 256

end Runbook.Utility
