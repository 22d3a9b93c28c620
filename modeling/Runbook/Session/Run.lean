import Runbook.Document.Plan
import Runbook.Session.Checkpoint
import Runbook.Session.Command
import Runbook.Session.Screenshot
import Runbook.Session.Server
/-!
# Running documents

A document is run by running the blocks of its plan one after the other. What a block shows takes
the place of its node, with the place and the indent of that node and the data of both; a block
that shows nothing is left out. The first failure stops all servers of the session, and so does the
end of the document, where a server that is still running is a failure of its own.

`Document.substitute` says what the finished document is, given what each block shows.
-/

set_option autoImplicit false

namespace Runbook

open Block Machine

namespace Document

/-- What the blocks of a plan show, by the index of their nodes. -/
abbrev Shown := List (Nat × Option Node)

/-- A node at the place of another one. -/
def Node.replacing (node replaced : Node) : Node :=
  { node with
    position := replaced.position
    indent := replaced.indent
    data := Data.union replaced.data node.data }

/-- The nodes that stand for a node once its block has been run. -/
def Node.substituted (shown : Shown) (index : Nat) (node : Node) : List Node :=
  match shown.lookup index with
  | none => [node]
  | some none => []
  | some (some result) => [result.replacing node]

/-- Nodes, the first of which has an index, with what their blocks show. -/
def substituteNodes (shown : Shown) : Nat → List Node → List Node
  | _, [] => []
  | index, node :: nodes =>
    node.substituted shown index ++ substituteNodes shown (index + 1) nodes

/-- A document with what its blocks show. -/
def substitute (document : Document) (shown : Shown) : Document :=
  { document with nodes := substituteNodes shown 0 document.nodes }

end Document

namespace Session

open Document Work

/-- Runs an action: what its block shows. -/
def runAction : Action → Work (Option Node)
  | .command block => runCommand block
  | .patchFile block => runPatchFile block
  | .createFile block => runCreateFile block
  | .startServer block => runStartServer block
  | .stopServer block => runStopServer block
  | .screenshot block => runScreenshot block
  | .checkpoint block => runCheckpoint block

/-- Why running a document fails. -/
inductive RunError where
  /-- A block, with its line and, if that is known, its kind. -/
  | block (line : Nat) (kind : Option Kind) (cause : Failure)
  /-- The document as a whole. -/
  | document (cause : Failure)
deriving DecidableEq, Repr

namespace RunError

/-- The failure that an error is. -/
def cause : RunError → Failure
  | block _ _ cause => cause
  | document cause => cause

/-- The wording of an error. -/
def message : RunError → String
  | block line kind cause => blockPlace line kind ++ cause.message
  | document cause => cause.message

/-- The error of a block that is refused. -/
def ofRefused (refused : RefusedBlock) : RunError :=
  block refused.line refused.kind (.refused refused.cause)

end RunError

/-- Why running a document stops before its end. -/
inductive Interruption where
  | failed (error : RunError)
  | abandoned
deriving DecidableEq, Repr

/-- What is done to run a document, in a session. -/
abbrev DocumentWork (α : Type) := ExceptT Interruption (StateT Session Act) α

/-- Work whose failures get a place. -/
def located {α : Type} (place : Failure → RunError) (work : Work α) : DocumentWork α :=
  ExceptT.mk do
    match ← work.run with
    | .ok value => return .ok value
    | .error (.failed cause) => return .error (.failed (place cause))
    | .error .abandoned => return .error .abandoned

/-- Drops all servers of a session whose run is given up. -/
def dropAll : Work Unit := do
  let servers := (← get).servers
  modify fun session => { session with servers := [] }
  dropServers servers

/-- Runs the block of a plan. When it fails, all servers are stopped. -/
def runBlock (block : PlannedBlock) : DocumentWork (Option Node) := do
  let place := RunError.block block.line (some block.action.kind)
  tryCatch (located place (runAction block.action)) fun stop => do
    match stop with
    | .failed error =>
      located place abort
      throw (.failed error)
    | .abandoned => throw .abandoned

/-- Runs the blocks of a plan in order: what they show. -/
def runBlocks : List PlannedBlock → DocumentWork Shown
  | [] => return []
  | block :: blocks => do
    let node ← runBlock block
    let shown ← runBlocks blocks
    return (block.index, node) :: shown

/-- Runs the blocks of a document and ends the session. -/
def runPlan (document : Document) (plan : List PlannedBlock) : DocumentWork Document := do
  tryCatch
    (do
      let shown ← runBlocks plan
      located .document finish
      return document.substitute shown)
    fun stop => do
      match stop with
      | .failed error => throw (.failed error)
      | .abandoned =>
        located .document dropAll
        throw .abandoned

/-- Runs a document in a session: the finished document. -/
def runDocument (document : Document) : DocumentWork Document := do
  match document.plan (← get).options.scope with
  | .error refused => throw (.failed (.ofRefused refused))
  | .ok plan => runPlan document plan

end Session

end Runbook
