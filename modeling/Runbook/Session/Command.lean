import Runbook.Block.Command
import Runbook.Session.Process
/-!
# Running command blocks

The commands of a block run one after the other in the directory of the block, each in a shell of
its own. The first one that does not end as it should stops the block.
-/

set_option autoImplicit false

namespace Runbook.Session

open Block Document Machine Work

/-- Runs commands in a directory: each with what it printed. -/
def runCommands (block : Command) (directory : String) :
    List String → Work (List (String × String))
  | [] => return []
  | line :: lines => do
    let shell := (← get).options.shell
    let finished ← runToEnd (shellInvocation shell line directory) line [] block.timeout
    requireSuccess line finished
    let runs ← runCommands block directory lines
    return (line, finished.text) :: runs

/-- Runs a command block. It shows its transcript unless it is hidden. -/
def runCommand (block : Command) : Work (Option Node) := do
  let directory ← blockDirectory block.cwd
  let runs ← runCommands block directory block.lines
  return if block.hidden then none else some (.code block.lang (block.transcript runs))

end Runbook.Session
