import Runbook.Sandbox.System
import Runbook.Shell.State
/-!
# Children of a shell

A shell starts copies of itself for subshells, for the stages of pipelines and for commands whose
output is a part of a word, and it waits for them.
-/

set_option autoImplicit false

namespace Runbook.Shell

open Machine Sandbox

/-- How the commands of a shell are run. -/
structure Interpreter where
  /-- Runs a command. -/
  run : Command → Sh Unit
  /-- Runs a command with which the shell ends, so that a program may take the place of the
  shell. -/
  runLast : Command → Sh Unit
  /-- Runs the text of a script. -/
  runText : String → Sh Unit

/-- Runs a command, with which the shell ends or not. -/
def Interpreter.runAs (interpreter : Interpreter) (isLast : Bool) : Command → Sh Unit :=
  if isLast then interpreter.runLast else interpreter.run

/-! ### Ends -/

/-- The status of a shell that a failure has ended. -/
def failureStatus : Nat := 2

/-- The status of a shell whose commands have been left in some way. -/
def endStatus (result : Except Jump Unit) (state : State) : Nat :=
  match result with
  | .ok () => state.status
  | .error (.exit status) => status
  | .error (.return status) => status
  | .error .failure => failureStatus
  | .error _ => state.status

/-- Ends a shell: its status once what is to be done at the end has been done. -/
def endShell (interpreter : Interpreter) (result : Except Jump Unit) (state : State) : Run Nat := do
  let status := endStatus result state
  match state.traps.lookup 0 with
  | none => return status
  | some text =>
    let left := { state with traps := state.traps.filter fun trap => trap.1 != 0, status }
    let (result, _) ← ((interpreter.runText text).run).run left
    return match result with
      | .error (.exit status) => status
      | .error .failure => failureStatus
      | _ => status

/-- Runs what a shell does, from a state on, to its end. -/
def runShell (interpreter : Interpreter) (body : Sh Unit) (state : State) : Run Nat := do
  let (result, state) ← (body.run).run state
  endShell interpreter result state

/-! ### Children -/

/-- Starts a copy of the shell. Signals that the shell ignores are ignored by the copy too. -/
def fork (interpreter : Interpreter) (body : Sh Unit) : Sh ProcessId := do
  let state ← get
  let copy := { state with
    traps := state.traps.filter fun trap => trap.1 != 0 && trap.2 = ""
    loops := 0
    ended := [] }
  Sh.lift (Run.fork (runShell interpreter body copy))

/-- The texts for signals that end a process; none for those that are passed over in silence. -/
def signalTexts : List (Nat × String) := [
  (1, "Hangup"), (3, "Quit"), (4, "Illegal instruction"), (5, "Trace/breakpoint trap"),
  (6, "Aborted"), (7, "Bus error"), (8, "Floating point exception"), (9, "Killed"),
  (10, "User defined signal 1"), (11, "Segmentation fault"), (12, "User defined signal 2"),
  (14, "Alarm clock"), (15, "Terminated"), (16, "Stack fault"), (24, "CPU time limit exceeded"),
  (25, "File size limit exceeded"), (26, "Virtual timer expired"), (27, "Profiling timer expired"),
  (29, "I/O possible"), (30, "Power failure"), (31, "Bad system call")]

/-- The status that a shell sees of a process that has ended. -/
def statusOf : ExitStatus → Nat
  | .exited code => code
  | .signaled number => 128 + number

/-- Tells of a process that a signal has ended. -/
def report (status : ExitStatus) : Sh Unit :=
  match status with
  | .exited _ => return
  | .signaled number =>
    match signalTexts.lookup number with
    | some text => Sh.lift (Run.print 2 (text ++ "\n"))
    | none => return

/-- The status of a child that has ended and has not been asked about. -/
def takeEnded (child : ProcessId) : Sh (Option ExitStatus) := do
  let state ← get
  set { state with ended := state.ended.filter fun entry => entry.1 != child }
  return state.ended.lookup child

/-- Waits until a child ends, within a bound. Others that end before it are kept for later. The
status, or why the wait has been left. -/
def waitUntil (child : ProcessId) (interruptible : Bool) : Nat → Sh (Except Errno ExitStatus)
  | 0 => return .error Errno.noChild
  | fuel + 1 => do
    match ← Sh.call (.wait none true interruptible) with
    | .ok (some (other, status)) =>
      if other = child then return .ok status
      else do
        modify fun state => { state with ended := state.ended ++ [(other, status)] }
        waitUntil child interruptible fuel
    | .ok none => return .error Errno.noChild
    | .error code => return .error code

/-- Waits for a child: the status that the shell sees, or why the wait has been left. A child that
a signal has ended is told of, unless it was gone before. -/
def waitFor (child : ProcessId) (interruptible : Bool) : Sh (Except Errno Nat) := do
  match ← takeEnded child with
  | some status => return .ok (statusOf status)
  | none =>
    match ← waitUntil child interruptible Run.maxRounds with
    | .ok status => do
      report status
      return .ok (statusOf status)
    | .error code => return .error code

/-- Waits for a child that is run in the foreground: the status that the shell sees. -/
def statusAfter (child : ProcessId) : Sh Nat := do
  match ← waitFor child false with
  | .ok status => return status
  | .error _ => return 127

/-- A text without the newlines at its end and without zeros. -/
def trimOutput (bytes : Bytes) : String :=
  let text := (ByteText.chars bytes).filter (· != '\x00')
  String.ofList (text.reverse.dropWhile (· = '\n')).reverse

/-- What a command prints, run in a copy of the shell. -/
def outputOf (interpreter : Interpreter) (command : Command) : Sh String := do
  let (reader, writer) ← Sh.call .pipe
  let child ← fork interpreter do
    Sh.call (.close reader)
    if writer != 1 then
      let _ ← Sh.call (.duplicate writer (some 1) 0)
      Sh.call (.close writer)
    interpreter.runLast command
  Sh.call (.close writer)
  let bytes ← Sh.lift (Run.readAll reader)
  Sh.call (.close reader)
  let status ← statusAfter child
  modify fun state => { state with status, substituted := some status }
  match bytes with
  | .ok bytes => return trimOutput bytes
  | .error _ => return ""

end Runbook.Shell
