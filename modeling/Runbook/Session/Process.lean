import Runbook.Session.Basic
/-!
# Running processes to their end

A command is given to a shell in a group whose error output joins its output. `runToEnd` starts a
process, gives it its input and waits for its end and for all of its output, at most for some time.
A process that is not waited for to its end is let go, which kills it.
-/

set_option autoImplicit false

namespace Runbook.Session

open Block Machine Number Work

/-- What a process that has ended leaves. -/
structure Finished where
  status : ExitStatus
  output : Bytes
  errors : Bytes
deriving DecidableEq, Repr

/-- What a process printed, as text. -/
def Finished.text (finished : Finished) : String :=
  Text.decodeLossy finished.output ++ Text.decodeLossy finished.errors

/-- The script that a shell is given for a command. -/
def groupScript (command : String) : String := "\x7b " ++ command ++ "\n\x7d 2>&1"

/-- A shell that runs a command. -/
def shellInvocation (shell command directory : String) : Invocation where
  program := shell
  args := ["-c", groupScript command]
  cwd := directory
  environment := []
  readsInput := false
  keepsErrors := true
  leadsGroup := false

/-- Runs a process to its end. The label names it in failures. -/
def runToEnd (invocation : Invocation) (label : String) (input : Bytes)
    (limit : Option Duration) : Work Finished := do
  let process ← orFail (← ask (.spawn invocation)) fun error =>
    .process label .notStarted error.message
  let deadline ← deadline? limit
  match ← ask (.collect process input deadline) with
  | .abandoned =>
    ask (.release process)
    throw .abandoned
  | .arrived .elapsed =>
    ask (.release process)
    fail (.timeout (.exit label) (limit.getD ⟨0⟩))
  | .arrived (.failed error) =>
    ask (.release process)
    fail (.process label .notAwaited error.message)
  | .arrived (.ended status output errors inputError) =>
    match inputError with
    | some error =>
      if status.isSuccess && error ≠ .os IoError.brokenPipeCode then
        fail (.process label .notFed error.message)
      else return ⟨status, output, errors⟩
    | none => return ⟨status, output, errors⟩

/-- Fails unless a process ended as it should. -/
def requireSuccess (label : String) (finished : Finished) : Work Unit :=
  if finished.status.isSuccess then pure ()
  else fail (.process label (.ended finished.status) finished.text)

end Runbook.Session
