import Runbook.Block.Failure
import Runbook.Document.Node
import Runbook.Machine.Act
import Runbook.Path.Basic
import Runbook.Session.Options
/-!
# Sessions

The state that the blocks of one document share: the servers that are running, by name and in the
order of their names, and the checkpoints that have been taken.

`Work` is what a block does in a session: an act on the machine that may change the session and
may stop early, because it fails or because the run is given up.
-/

set_option autoImplicit false

namespace Runbook

open Block Machine Number

namespace Session

/-- A running server. -/
structure Server where
  name : String
  command : String
  /-- The process that leads the process group of the server. -/
  process : ProcessId
deriving DecidableEq, Repr

/-- The running servers, in the order of their names. -/
abbrev Registry := List Server

namespace Registry

/-- Whether a server has a name. -/
def contains (servers : Registry) (name : String) : Bool :=
  servers.any fun server => server.name == name

/-- The names of the servers. -/
def names (servers : Registry) : List String := servers.map Server.name

/-- The servers with one more at its place. -/
def insert (server : Server) : Registry → Registry
  | [] => [server]
  | first :: rest =>
    if server.name < first.name then server :: first :: rest
    else first :: insert server rest

/-- The server with a name. -/
def find? (servers : Registry) (name : String) : Option Server :=
  List.find? (fun server => server.name == name) servers

/-- The servers without the one with a name. -/
def erase (servers : Registry) (name : String) : Registry :=
  List.filter (fun server => server.name != name) servers

end Registry

end Session

/-- The state that the blocks of a document share. -/
structure Session where
  options : Session.Options
  servers : Session.Registry
  /-- The names of the checkpoints that have been taken. -/
  checkpoints : List String
deriving DecidableEq, Repr

namespace Session

/-- A session in which nothing has happened. -/
def new (options : Options) : Session := ⟨options, [], []⟩

/-- Why work stops early. -/
inductive Stop where
  | failed (cause : Failure)
  /-- The run is given up while it waits. -/
  | abandoned
deriving DecidableEq, Repr

/-- What a block does in a session. -/
abbrev Work (α : Type) := ExceptT Stop (StateT Session Act) α

namespace Work

variable {α : Type}

/-- Asks the machine. -/
def ask (request : Request) : Work request.Reply :=
  liftM (m := StateT Session Act) (Act.request request)

/-- Stops with a failure. -/
def fail (cause : Failure) : Work α := throw (.failed cause)

/-- The value of an answer, or the failure that its error makes. -/
def orFail (answer : Except IoError α) (cause : IoError → Failure) : Work α :=
  match answer with
  | .ok value => pure value
  | .error error => fail (cause error)

/-- Does something, and cleans up when that stops early. -/
def onStop (cleanUp : Work Unit) (work : Work α) : Work α :=
  tryCatch work fun stop => do
    cleanUp
    throw stop

/-- Whether a path leads to something of a kind. -/
def leadsTo (path : String) (kind : EntryKind) : Work Bool := do
  match ← ask (.entryKind path true) with
  | .ok found => return found = kind
  | .error _ => return false

/-- Whether a path leads to anything. -/
def leadsSomewhere (path : String) : Work Bool := do
  match ← ask (.entryKind path true) with
  | .ok _ => return true
  | .error _ => return false

/-- The moment some time from now, none for no limit. -/
def deadline? (limit : Option Duration) : Work (Option Instant) := do
  match limit with
  | none => return none
  | some limit => return some (Instant.after (← ask .clock) limit)

end Work

open Work

/-- The name of the document among its assets, which must not be empty. -/
def basename : Work String := do
  match (← get).options.basename with
  | some name => if name.isEmpty then fail (.missing .basename) else return name
  | none => fail (.missing .basename)

/-- The directory of a block, which must exist. -/
def blockDirectory (cwd : Option String) : Work String := do
  let workdir := (← get).options.workdir
  let directory := match cwd with
    | some cwd => Path.join workdir cwd
    | none => workdir
  if ← leadsTo directory .directory then return directory
  else fail (.unmet (.noDirectory directory))

/-- Notes that a checkpoint is taken: whether it is the first with its name. -/
def recordCheckpoint (name : String) : Work Bool := do
  let session ← get
  if name ∈ session.checkpoints then return false
  else
    set { session with checkpoints := name :: session.checkpoints }
    return true

end Session

end Runbook
