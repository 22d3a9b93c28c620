import Runbook.Block.Refusal
import Runbook.Machine.Request
/-!
# Failures

Why running a block, or the document around it, fails. A refusal is found before anything runs; all
other causes come from the machine or from the state of the session. `RunError` adds the place of
the block.
-/

set_option autoImplicit false

namespace Runbook.Block

open Machine Number Text

/-- A state of the world or of the session that a block cannot run in. -/
inductive Unmet where
  | noDirectory (path : String)
  /-- There is no file to patch. -/
  | noFile (path : String)
  /-- A patch does not apply to its file. -/
  | mismatch (path : String) (cause : Mismatch)
  | serverRunning (name : String)
  | noServer (name : String)
  | checkpointTaken (name : String)
deriving DecidableEq, Repr

/-- The wording of an unmet condition. -/
def Unmet.message : Unmet → String
  | noDirectory path => "working directory " ++ path ++ " does not exist"
  | noFile path => "cannot patch " ++ path ++ ": file does not exist"
  | mismatch path cause => path ++ ": " ++ cause.message
  | serverRunning name => "server `" ++ name ++ "` is already running"
  | noServer name => "no server named `" ++ name ++ "` is running"
  | checkpointTaken name => "checkpoint `" ++ name ++ "` was already taken in this document"

/-- What went wrong with a process. -/
inductive ProcessFault where
  /-- It ended, but not as it should. -/
  | ended (status : ExitStatus)
  | notStarted
  | notAwaited
  /-- It ended well but did not take its input. -/
  | notFed
  /-- Its output ended without the text that it should print, and it may have ended too. -/
  | silent (expect : String) (status : Option ExitStatus)
deriving DecidableEq, Repr

/-- The wording of a fault. -/
def ProcessFault.message : ProcessFault → String
  | ended status => status.message
  | notStarted => "failed to spawn"
  | notAwaited => "failed to wait"
  | notFed => "failed to write stdin"
  | silent expect status =>
    "exited before printing `" ++ expect ++ "`: " ++
      match status with
      | some status => status.message
      | none => "output closed"

/-- What was waited for in vain. -/
inductive Waited where
  /-- The end of a command. -/
  | exit (label : String)
  /-- Some output of a server. -/
  | output (expect server : String)
deriving DecidableEq, Repr

/-- The wording of what was waited for. -/
def Waited.message : Waited → String
  | exit label => "`" ++ label ++ "` to exit"
  | output expect server => "`" ++ expect ++ "` from server `" ++ server ++ "`"

/-- Something that a block needs for what it makes. -/
inductive Missing where
  /-- The document has no name for its assets. -/
  | basename
  /-- A directory for assets cannot be made. -/
  | directory (path : String) (error : IoError)
  /-- What the browser wrote is no picture. -/
  | picture
deriving DecidableEq, Repr

/-- The wording of something missing. -/
def Missing.message : Missing → String
  | basename => "document has no basename to namespace its assets"
  | directory path error => "cannot create " ++ path ++ ": " ++ error.message
  | picture => "screenshot is not a valid PNG image"

/-- What can be wrong while a directory is walked through. -/
inductive WalkError where
  | io (path : String) (error : IoError)
  /-- A link leads to a directory that it is in. -/
  | loop (child ancestor : String)
deriving DecidableEq, Repr

namespace WalkError

/-- The wording of an error. -/
def message : WalkError → String
  | io path error => "IO error for operation on " ++ path ++ ": " ++ error.message
  | loop child ancestor =>
    "File system loop found: " ++ child ++ " points to an ancestor " ++ ancestor

end WalkError

/-- Why an operation on files fails: by itself or as a step of a walk. -/
inductive FileFault where
  | plain (error : IoError)
  | walk (error : WalkError)
deriving DecidableEq, Repr

/-- The wording of a fault. -/
def FileFault.message : FileFault → String
  | plain error => error.message
  | walk error => error.message

/-- Why a block or a document fails. -/
inductive Failure where
  | refused (cause : Refusal)
  | unmet (cause : Unmet)
  | process (command : String) (fault : ProcessFault) (output : String)
  | timeout (waited : Waited) (limit : Duration)
  | missing (cause : Missing)
  | io (path : String) (fault : FileFault)
  /-- Servers that a document started and did not stop. -/
  | leaked (names : List String)
deriving DecidableEq, Repr

namespace Failure

/-- A failed operation on a path. -/
def atPath (path : String) (error : IoError) : Failure := io path (.plain error)

/-- The wording of a failure. -/
def message : Failure → String
  | refused cause => cause.message
  | unmet cause => "precondition failed: " ++ cause.message
  | process command fault output =>
    "`" ++ command ++ "` failed (" ++ fault.message ++ ")\n" ++ output
  | timeout waited limit =>
    "timed out after " ++ limit.secondsText ++ "s waiting for " ++ waited.message
  | missing cause => "resource error: " ++ cause.message
  | io path fault => "I/O error at " ++ quotedPath path ++ ": " ++ fault.message
  | leaked names =>
    "servers still running at end of document: " ++ ", ".intercalate names

end Failure

end Runbook.Block
