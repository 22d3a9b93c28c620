import Runbook.Machine.Request
import Runbook.Sandbox.ByteText
import Runbook.Sandbox.FileSystem
/-!
# Programs of a sandbox

A program is a tree of calls: it asks the system one thing after the other, and what it does next
depends on the answers. `Program.fork` starts a second process, which goes on with a program of its
own and shares what is open.

`Run` is a piece of a program that has a result: given what follows, it is a program. Pieces are put
together by `do`.
-/

set_option autoImplicit false

namespace Runbook.Sandbox

open Machine

/-! ### Calls -/

/-- The number by which a process knows something that it has open. -/
abbrev Descriptor := Nat

/-- What stands at a path. -/
structure FileStatus where
  node : NodeId
  kind : EntryKind
  mode : Nat
  size : Nat
deriving DecidableEq, Repr

/-- A change of the file system or of the directory that a process works in. -/
inductive FileChange where
  | makeDirectory (path : String)
  | removeDirectory (path : String)
  | unlink (path : String)
  | rename (source target : String)
  | makeLink (target path : String)
  | addName (source path : String)
  | changeMode (path : String) (mode : Nat)
  | workIn (path : String)
deriving DecidableEq, Repr

/-- What a process does about a signal. -/
inductive Disposition where
  | standard
  | ignored
  /-- The signal is kept until the process asks for it. -/
  | caught
deriving DecidableEq, Repr

/-- What a process asks of the system. -/
inductive Call where
  /-- Lets some time pass. -/
  | pause
  | openFile (path : String) (how : FileSystem.OpenHow) (append : Bool)
  | close (descriptor : Descriptor)
  /-- A second descriptor for the same: a given one, or the first free one from a number on. -/
  | duplicate (descriptor : Descriptor) (target : Option Descriptor) (least : Descriptor)
  /-- Two descriptors, one to read what is written to the other. -/
  | pipe
  | read (descriptor : Descriptor) (count : Nat)
  /-- Writes at least one byte of those given: how many were written. -/
  | write (descriptor : Descriptor) (bytes : Bytes)
  | status (path : String) (follow : Bool)
  /-- The program of the sandbox that a path leads to. -/
  | programAt (path : String)
  | list (path : String)
  | readLink (path : String)
  | canonical (path : String)
  | workingDirectory
  | change (change : FileChange)
  /-- The numbers of the process and of its parent. -/
  | identity
  /-- Sends a signal to a process, or to a group for a negative number. -/
  | signal (target : Int) (number : Nat)
  | handle (number : Nat) (disposition : Disposition)
  /-- The caught signals that have come. -/
  | takeSignals
  /-- Waits for the end of a child; of any child for no number. -/
  | wait (child : Option ProcessId) (block interruptible : Bool)
  | clock
  | sleepUntil (instant : Instant)
  /-- Sets the bits that new files do not get, and gives the old ones. -/
  | mask (mask : Option Nat)
  /-- Becomes another program: caught signals are no longer caught, and descriptors that the old
  program kept for itself are closed. -/
  | become
deriving DecidableEq, Repr

/-- The type of the answers to a call. -/
def Call.Reply : Call → Type
  | pause => Unit
  | openFile _ _ _ => Except Errno Descriptor
  | close _ => Unit
  | duplicate _ _ _ => Except Errno Descriptor
  | pipe => Descriptor × Descriptor
  | read _ _ => Except Errno Bytes
  | write _ _ => Except Errno Nat
  | status _ _ => Except Errno FileStatus
  | programAt _ => Option String
  | list _ => Except Errno (List String)
  | readLink _ => Except Errno String
  | canonical _ => Except Errno String
  | workingDirectory => String
  | change _ => Except Errno Unit
  | identity => ProcessId × ProcessId
  | signal _ _ => Except Errno Unit
  | handle _ _ => Unit
  | takeSignals => List Nat
  | wait _ _ _ => Except Errno (Option (ProcessId × ExitStatus))
  | clock => Instant
  | sleepUntil _ => Unit
  | mask _ => Nat
  | become => Unit

/-! ### Programs -/

/-- A program. -/
inductive Program where
  /-- Ends with a status. -/
  | exit (status : Nat)
  | call (call : Call) (next : call.Reply → Program)
  /-- Starts a second process. -/
  | fork (child : Program) (next : ProcessId → Program)

/-- A piece of a program that has a result. -/
def Run (α : Type) : Type := (α → Program) → Program

namespace Run

variable {α : Type}

instance : Monad Run where
  pure result := fun next => next result
  bind piece following := fun next => piece fun result => following result next

/-- Asks the system. -/
def call (c : Call) : Run c.Reply := Program.call c

/-- Ends the process. -/
def exit (status : Nat) : Run α := fun _ => .exit status

/-- Starts a second process, which ends with the result of its piece. -/
def fork (child : Run Nat) : Run ProcessId := Program.fork (child .exit)

/-- The number of bytes that are read at once. -/
def chunk : Nat := 65536

/-- A bound on the number of repetitions of a loop. -/
def maxRounds : Nat := 0x10000000000

/-- Writes bytes in a bounded number of steps. -/
def writeFrom (descriptor : Descriptor) : Nat → Bytes → Run (Except Errno Unit)
  | _, [] => return .ok ()
  | 0, _ => return .ok ()
  | steps + 1, bytes => do
    match ← call (.write descriptor bytes) with
    | .ok count => writeFrom descriptor steps (bytes.drop count)
    | .error code => return .error code

/-- Writes bytes. -/
def write (descriptor : Descriptor) (bytes : Bytes) : Run (Except Errno Unit) :=
  writeFrom descriptor bytes.length bytes

/-- Writes a text of bytes. -/
def print (descriptor : Descriptor) (text : String) : Run Unit := do
  let _ ← write descriptor (ByteText.toBytes text)

/-- Reads to the end in a bounded number of steps, after what has been read. -/
def readFrom (descriptor : Descriptor) : Nat → List Bytes → Run (Except Errno Bytes)
  | 0, read => return .ok read.reverse.flatten
  | steps + 1, read => do
    match ← call (.read descriptor chunk) with
    | .ok [] => return .ok read.reverse.flatten
    | .ok bytes => readFrom descriptor steps (bytes :: read)
    | .error code => return .error code

/-- Reads to the end. -/
def readAll (descriptor : Descriptor) : Run (Except Errno Bytes) :=
  readFrom descriptor maxRounds []

/-- Opens a file to read it. -/
def openToRead (path : String) : Run (Except Errno Descriptor) :=
  call (.openFile path ⟨false, false, false, false⟩ false)

/-- What a file holds. -/
def readFile (path : String) : Run (Except Errno Bytes) := do
  match ← openToRead path with
  | .error code => return .error code
  | .ok descriptor =>
    let bytes ← readAll descriptor
    call (.close descriptor)
    return bytes

end Run

end Runbook.Sandbox
