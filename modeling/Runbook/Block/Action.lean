import Runbook.Block.Checkpoint
import Runbook.Block.Command
import Runbook.Block.File
import Runbook.Block.Screenshot
import Runbook.Block.Server
/-!
# Actions

A runnable block whose arguments and body have been checked is an action, ready to run.
-/

set_option autoImplicit false

namespace Runbook.Block

/-- A checked block. -/
inductive Action where
  | command (block : Command)
  | patchFile (block : PatchFile)
  | createFile (block : CreateFile)
  | startServer (block : StartServer)
  | stopServer (block : StopServer)
  | screenshot (block : Picture)
  | checkpoint (block : Checkpoint)
deriving DecidableEq, Repr

namespace Action

/-- The kind of the block. -/
def kind : Action → Kind
  | command _ => .command
  | patchFile _ => .patchFile
  | createFile _ => .createFile
  | startServer _ => .startServer
  | stopServer _ => .stopServer
  | screenshot _ => .screenshot
  | checkpoint _ => .checkpoint

/-- The action of a block of a kind with some arguments and a body. -/
def parse (kind : Kind) (arguments body : String) : Except Refusal Action :=
  match kind with
  | .command => (Command.parse arguments body).map command
  | .patchFile => (PatchFile.parse arguments body).map patchFile
  | .createFile => (CreateFile.parse arguments body).map createFile
  | .startServer => (StartServer.parse arguments body).map startServer
  | .stopServer => (StopServer.parse arguments body).map stopServer
  | .screenshot => (Picture.parse arguments body).map screenshot
  | .checkpoint => (Checkpoint.parse arguments).map checkpoint

/-- The action of a runnable block. -/
def ofRunnable (block : Document.Runnable) : Except Refusal Action :=
  parse block.kind block.arguments block.body

/-- The kind of an action is the kind of the block that it was made from. -/
theorem kind_of_parse {kind : Kind} {arguments body : String} {action : Action}
    (h : parse kind arguments body = .ok action) : action.kind = kind := by
  unfold parse at h
  split at h <;>
    · simp only [Except.map] at h
      split at h
      · cases h
      · cases h; rfl

end Action

end Runbook.Block
