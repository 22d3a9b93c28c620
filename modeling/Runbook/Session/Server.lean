import Runbook.Block.Server
import Runbook.Session.Process
import Runbook.Text.Utf8
/-!
# Running servers

A server leads a process group of its own. Starting one waits for the text that it is expected to
print, if there is one; stopping one asks its group to end, and ends it by force when its leader has
not ended after some time. A server that is dropped on the way, because its start fails or the run
is given up, has its group ended by force.

Output arrives in pieces, and a text that is waited for may lie across several of them. After each
piece only that piece and the end of what came before it are searched: as many bytes as a match
could have begun with. The search is for bytes, so a piece may also end inside a character.
-/

set_option autoImplicit false

namespace Runbook.Session

open Block Document Machine Number Work

/-! ### Bytes in output -/

namespace Expect

/-- Whether bytes start with others. -/
def startsWith : Bytes → Bytes → Bool
  | _, [] => true
  | [], _ :: _ => false
  | b :: bytes, n :: needle => b == n && startsWith bytes needle

/-- Whether some bytes occur in others. -/
def occursIn (needle : Bytes) : Bytes → Bool
  | [] => needle.isEmpty
  | b :: bytes => startsWith (b :: bytes) needle || occursIn needle bytes

/-- Whether the bytes that are waited for are there once a piece has arrived after what was seen
before. -/
def completes (needle seen piece : Bytes) : Bool :=
  occursIn needle ((seen ++ piece).drop (seen.length - (needle.length - 1)))

end Expect

/-! ### Servers -/

/-- Ends the group of a server by force and lets go of it. -/
def dropServer (process : ProcessId) : Work Unit := do
  ask (.signalGroup process .kill)
  ask (.release process)

/-- The greatest number of pieces in which the output of a server is read. -/
def maxPieces : Nat := 0x10000000000000000

/-- Reads output, at most in some number of pieces, until it holds the bytes that are waited for.
Stops when the output ends or the deadline passes. -/
def readUntil (block : StartServer) (process : ProcessId) (needle : Bytes) (deadline : Instant) :
    Nat → Bytes → Work Unit
  | 0, _ => fail (.timeout (.output (block.expect.getD "") block.name) block.timeout)
  | pieces + 1, seen => do
    match ← ask (.readOutput process deadline) with
    | .abandoned => throw .abandoned
    | .arrived .elapsed =>
      fail (.timeout (.output (block.expect.getD "") block.name) block.timeout)
    | .arrived .closed =>
      let status ← ask (.poll process)
      fail (.process block.command (.silent (block.expect.getD "") status)
        (Text.decodeLossy seen))
    | .arrived (.bytes piece) =>
      if Expect.completes needle seen piece then return
      else readUntil block process needle deadline pieces (seen ++ piece)

/-- Waits until a server has printed what it is expected to print. -/
def awaitReady (block : StartServer) (process : ProcessId) : Work Unit := do
  match block.expect with
  | none => return
  | some expect =>
    let deadline := Instant.after (← ask .clock) block.timeout
    let needle := Text.encode expect
    if needle.isEmpty then return
    else readUntil block process needle deadline maxPieces []

/-- A shell that runs a server. -/
def serverInvocation (shell command directory : String) : Invocation :=
  { shellInvocation shell command directory with keepsErrors := false, leadsGroup := true }

/-- Starts a server. -/
def startServer (block : StartServer) (directory : String) : Work Server := do
  let shell := (← get).options.shell
  let process ← orFail (← ask (.spawn (serverInvocation shell block.command directory)))
    fun error => .process block.command .notStarted error.message
  onStop (dropServer process) (awaitReady block process)
  ask (.drainOutput process)
  return ⟨block.name, block.command, process⟩

/-- Waits for the end of a server that has been asked to end, at most for some time. -/
def awaitEnd (server : Server) (deadline : Option Instant) : Work Ended := do
  match ← ask (.awaitExit server.process deadline) with
  | .abandoned =>
    dropServer server.process
    throw .abandoned
  | .arrived ended => return ended

/-- Stops a server: how it ended. -/
def stopServer (server : Server) (grace : Duration) : Work ExitStatus := do
  ask (.signalGroup server.process .terminate)
  let deadline := Instant.after (← ask .clock) grace
  let ended ← match ← awaitEnd server (some deadline) with
    | .elapsed => do
      ask (.signalGroup server.process .kill)
      awaitEnd server none
    | ended => pure ended
  match ended with
  | .status status => return status
  | .failed error =>
    ask (.release server.process)
    fail (.process server.command .notAwaited error.message)
  | .elapsed =>
    ask (.release server.process)
    fail (.process server.command .notAwaited (IoError.os 110).message)

/-! ### The registry of a session -/

/-- Fails if a server with a name is running. -/
def requireVacant (name : String) : Work Unit := do
  if (← get).servers.contains name then fail (.unmet (.serverRunning name))
  else return

/-- Adds a server to those that are running. -/
def register (server : Server) : Work Unit := do
  requireVacant server.name
  modify fun session => { session with servers := session.servers.insert server }

/-- Takes a server out of those that are running. -/
def takeServer (name : String) : Work Server := do
  match (← get).servers.find? name with
  | none => fail (.unmet (.noServer name))
  | some server =>
    modify fun session => { session with servers := session.servers.erase name }
    return server

/-- Drops servers that nobody holds any more. -/
def dropServers : List Server → Work Unit
  | [] => return
  | server :: rest => do
    dropServer server.process
    dropServers rest

/-- Stops servers one after the other. A server that fails to stop does not keep the others from
being stopped. -/
def stopServers (grace : Duration) : List Server → Work Unit
  | [] => return
  | server :: rest => do
    tryCatch (do let _ ← stopServer server grace) fun stop =>
      match stop with
      | .failed _ => return
      | .abandoned => do
        dropServers rest
        throw .abandoned
    stopServers grace rest

/-- Stops all running servers: their names. -/
def shutDown (grace : Duration) : Work (List String) := do
  let servers := (← get).servers
  modify fun session => { session with servers := [] }
  stopServers grace servers
  return servers.names

/-- Stops all running servers after a failure. -/
def abort : Work Unit := do
  let _ ← shutDown StopServer.defaultGrace

/-- Ends a session. Servers that are still running are stopped, and the session fails. -/
def finish : Work Unit := do
  if (← get).servers.isEmpty then return
  else fail (.leaked (← shutDown StopServer.defaultGrace))

/-! ### Blocks -/

/-- Runs a block that starts a server. It shows the command unless it is hidden. -/
def runStartServer (block : StartServer) : Work (Option Node) := do
  requireVacant block.name
  let directory ← blockDirectory block.cwd
  register (← startServer block directory)
  return if block.hidden then none else some (.code "console" ("$ " ++ block.command ++ "\n"))

/-- Runs a block that stops a server. It shows nothing. -/
def runStopServer (block : StopServer) : Work (Option Node) := do
  let _ ← stopServer (← takeServer block.name) block.grace
  return none

end Runbook.Session
