import Runbook.Number.Duration
import Runbook.Text.Utf8
/-!
# Requests to a machine

What running a document asks of the machine that it runs on: to look at files and change them, and
to start processes, to watch them and to stop them. A `Request` is one such question, and
`Request.Reply` is the type of its answers. Nothing is said here about which answer comes; a machine
may refuse whatever it likes, and only the ways in which it may do so are fixed.

Three requests wait for something that a process does: `collect`, `readOutput` and `awaitExit`. A
run can be given up at these places and nowhere else, which is what the reply `abandoned` says.
-/

set_option autoImplicit false

namespace Runbook.Machine

open Number

/-! ### Values -/

/-- Why an operation on files or processes fails. -/
inductive IoError where
  /-- An error number of the operating system. -/
  | os (code : Nat)
  /-- The content of a file is not UTF-8. -/
  | notText
  /-- Something is neither a file nor a link to one. -/
  | notFile
deriving DecidableEq, Repr

namespace IoError

/-- The error number for something that does not exist. -/
def notFoundCode : Nat := 2

/-- The error number for a pipe that nobody reads. -/
def brokenPipeCode : Nat := 32

/-- Something does not exist. -/
def notFound : IoError := os notFoundCode

/-- The wording of an error. -/
def message : IoError → String
  | os code => "<os error " ++ toString code ++ ">"
  | notText => "stream did not contain valid UTF-8"
  | notFile => "the source path is neither a regular file nor a symlink to a regular file"

end IoError

/-- What an entry of a directory is. -/
inductive EntryKind where
  | file
  | directory
  | link
  /-- A device, a pipe or a socket. -/
  | special
deriving DecidableEq, Repr

/-- A moment of the clock of a machine, in nanoseconds. -/
abbrev Instant := Nat

/-- The number by which a machine knows a process. -/
abbrev ProcessId := Nat

/-- The signals that are sent to a group of processes. -/
inductive Signal where
  /-- Asks a process to end. -/
  | terminate
  /-- Ends a process. -/
  | kill
deriving DecidableEq, Repr

/-- How a process ended. -/
inductive ExitStatus where
  /-- By itself, with a number. -/
  | exited (code : Nat)
  /-- By a signal with a number. -/
  | signaled (number : Nat)
deriving DecidableEq, Repr

namespace ExitStatus

/-- Whether a process ended as it should. -/
def isSuccess (status : ExitStatus) : Bool := status = exited 0

/-- The names of signals by their numbers. -/
def signalNames : List (Nat × String) := [
  (1, "SIGHUP"), (2, "SIGINT"), (3, "SIGQUIT"), (4, "SIGILL"), (5, "SIGTRAP"), (6, "SIGABRT"),
  (7, "SIGBUS"), (8, "SIGFPE"), (9, "SIGKILL"), (10, "SIGUSR1"), (11, "SIGSEGV"),
  (12, "SIGUSR2"), (13, "SIGPIPE"), (14, "SIGALRM"), (15, "SIGTERM"), (16, "SIGSTKFLT"),
  (17, "SIGCHLD"), (18, "SIGCONT"), (19, "SIGSTOP"), (20, "SIGTSTP"), (21, "SIGTTIN"),
  (22, "SIGTTOU"), (23, "SIGURG"), (24, "SIGXCPU"), (25, "SIGXFSZ"), (26, "SIGVTALRM"),
  (27, "SIGPROF"), (28, "SIGWINCH"), (29, "SIGIO"), (30, "SIGPWR"), (31, "SIGSYS")]

/-- The wording of an exit status. -/
def message : ExitStatus → String
  | exited code => "exit status: " ++ toString code
  | signaled number =>
    "signal: " ++ toString number ++
      match signalNames.lookup number with
      | some name => " (" ++ name ++ ")"
      | none => ""

end ExitStatus

/-- How to start a process. -/
structure Invocation where
  program : String
  args : List String
  /-- The directory that it starts in. -/
  cwd : String
  /-- Variables of its environment besides those that are there anyway. -/
  environment : List (String × String)
  /-- Whether it reads what it is given rather than nothing. -/
  readsInput : Bool
  /-- Whether what it writes to its error output is kept rather than dropped. -/
  keepsErrors : Bool
  /-- Whether it leads a process group of its own. -/
  leadsGroup : Bool
deriving DecidableEq, Repr

/-- The answer to a request that waits. -/
inductive Awaited (α : Type) where
  | arrived (value : α)
  /-- The run is given up while it waits. -/
  | abandoned

/-- What came of waiting for a process and all of its output. -/
inductive Collected where
  | ended (status : ExitStatus) (output errors : Bytes) (inputError : Option IoError)
  /-- The deadline passed first. -/
  | elapsed
  | failed (error : IoError)

/-- What came of waiting for output. -/
inductive Chunk where
  | bytes (bytes : Bytes)
  /-- There will be no more. -/
  | closed
  /-- The deadline passed first. -/
  | elapsed

/-- What came of waiting for the end of a process. -/
inductive Ended where
  | status (status : ExitStatus)
  /-- The deadline passed first. -/
  | elapsed
  | failed (error : IoError)

/-- How important a message to the user is. -/
inductive Level where
  | info
  | warn
deriving DecidableEq, Repr

/-! ### Requests -/

/-- A question to the machine. -/
inductive Request where
  /-- What stands at a path; with `follow`, links are followed to what they point to. -/
  | entryKind (path : String) (follow : Bool)
  /-- The permission bits of the file that a path leads to. -/
  | mode (path : String)
  /-- The entries of a directory and what they are, links not followed. -/
  | entries (path : String)
  /-- The absolute path without links that leads to the same place. -/
  | canonical (path : String)
  /-- The content of a file as text. -/
  | readText (path : String)
  /-- The content of a file. -/
  | readBytes (path : String)
  /-- What a link points to. -/
  | readLink (path : String)
  /-- Makes a directory and those above it, as far as they are missing. -/
  | makeDirectories (path : String)
  /-- Makes an empty file of a new name that ends in a given way, open only to its owner. -/
  | makeTempFile (directory : String) (ending : String)
  /-- Makes an empty directory of a new name. -/
  | makeTempDirectory (directory : String)
  /-- Writes the content of a temporary file. -/
  | writeTemp (path : String) (content : Bytes)
  /-- Hands all that was written over to the operating system. -/
  | flush (path : String)
  /-- Makes sure that all that was written stays. -/
  | sync (path : String)
  | setMode (path : String) (mode : Nat)
  /-- Moves something to a path, over what is there. -/
  | rename (source target : String)
  /-- Removes a file, if that can be done. -/
  | discardFile (path : String)
  /-- Removes a directory with all that is in it, if that can be done. -/
  | discardTree (path : String)
  /-- Removes a directory with all that is in it. -/
  | removeTree (path : String)
  /-- Copies the content and the permission bits of a file. -/
  | copyFile (source target : String)
  | makeLink (content path : String)
  /-- Writes the content of a file in place. -/
  | writeFile (path : String) (content : Bytes)
  | clock
  | spawn (invocation : Invocation)
  /-- Gives a process its input and waits until it has ended and closed its output. -/
  | collect (process : ProcessId) (input : Bytes) (deadline : Option Instant)
  /-- Waits for output of a process. -/
  | readOutput (process : ProcessId) (deadline : Instant)
  /-- Reads all further output of a process and drops it. -/
  | drainOutput (process : ProcessId)
  /-- Looks whether a process has ended. -/
  | poll (process : ProcessId)
  /-- Waits for the end of a process. -/
  | awaitExit (process : ProcessId) (deadline : Option Instant)
  /-- Sends a signal to the process group that a process leads. -/
  | signalGroup (process : ProcessId) (signal : Signal)
  /-- Lets go of a process, which is killed unless it has been waited for. -/
  | release (process : ProcessId)
  /-- Tells the user something. -/
  | log (level : Level) (text : String)
deriving DecidableEq, Repr

/-- The type of the answers to a request. -/
def Request.Reply : Request → Type
  | entryKind _ _ => Except IoError EntryKind
  | mode _ => Except IoError Nat
  | entries _ => Except IoError (List (String × EntryKind))
  | canonical _ => Except IoError String
  | readText _ => Except IoError String
  | readBytes _ => Except IoError Bytes
  | readLink _ => Except IoError String
  | makeDirectories _ => Except IoError Unit
  | makeTempFile _ _ => Except IoError String
  | makeTempDirectory _ => Except IoError String
  | writeTemp _ _ => Except IoError Unit
  | flush _ => Except IoError Unit
  | sync _ => Except IoError Unit
  | setMode _ _ => Except IoError Unit
  | rename _ _ => Except IoError Unit
  | discardFile _ => Unit
  | discardTree _ => Unit
  | removeTree _ => Except IoError Unit
  | copyFile _ _ => Except IoError Unit
  | makeLink _ _ => Except IoError Unit
  | writeFile _ _ => Except IoError Unit
  | clock => Instant
  | spawn _ => Except IoError ProcessId
  | collect _ _ _ => Awaited Collected
  | readOutput _ _ => Awaited Chunk
  | drainOutput _ => Unit
  | poll _ => Option ExitStatus
  | awaitExit _ _ => Awaited Ended
  | signalGroup _ _ => Unit
  | release _ => Unit
  | log _ _ => Unit

/-- Whether a request waits for something that a process does. -/
def Request.waits : Request → Bool
  | collect _ _ _ => true
  | readOutput _ _ => true
  | awaitExit _ _ => true
  | _ => false

/-- The moment some time after another. -/
def Instant.after (start : Instant) (span : Duration) : Instant := start + span.nanos

end Runbook.Machine
