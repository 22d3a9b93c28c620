import Runbook.Build.Run
import Runbook.CommandLine.Invocation
import Runbook.CommandLine.Report
/-!
# Running commands

What the program does for a command line on a host, and what it comes to: the exit status and what
is told on the error output. Progress is told through the host as it is made.
-/

set_option autoImplicit false

namespace Runbook.CommandLine

open Build Machine

variable {σ : Type} (host : Host σ)

/-- Why a command is not done to its end. -/
inductive Halt where
  | failed (cause : CommandError)
  /-- The program crashes. -/
  | crashed
deriving DecidableEq, Repr

/-- What is done on a host for a command. -/
abbrev Performed (σ α : Type) := ExceptT Halt (StateM σ) α

/-- Does an act on a host. -/
def perform {α : Type} (act : Act α) : Performed σ α := fun state =>
  let (result, state) := act.on host state
  (.ok result, state)

/-- The value of a result, or the error that its failure makes. -/
def orStop {α ε : Type} (result : Except ε α) (error : ε → CommandError) : Performed σ α :=
  match result with
  | .ok value => pure value
  | .error cause => throw (.failed (error cause))

/-- Tells the user something. -/
def say (text : String) : Performed σ Unit := perform host (Act.request (.log .info text))

/-- The settings of a project. -/
def settingsAt (path : String) : Performed σ Settings := do
  orStop (← perform host (Settings.load path)) .settings

/-- Builds a project, with the output directory and the number of chapters at once replaced where
they are given. -/
def runBuild (settingsPath : String) (outputDir : Option String) (jobs : Option Nat) :
    Performed σ Unit := do
  say host "Building chapters..."
  let settings := (← settingsAt host settingsPath).override outputDir jobs
  let begun : Instant ← perform host (Act.request .clock)
  let outcome ← fun state =>
    let (outcome, state) := attempt host settings state
    (.ok outcome, state)
  let summary ← match outcome with
    | .returned result => orStop result .build
    | .crashed => throw .crashed
  let ended : Instant ← perform host (Act.request .clock)
  say host ("Built " ++ toString summary.documents ++ " chapters with " ++
    toString summary.blocks ++ " runnable blocks in " ++ toString ((ended - begun) / 1000000) ++
    "ms")
  say host ("Output: " ++ summary.outputDir)

/-- Checks a project. -/
def runCheck (settingsPath : String) : Performed σ Unit := do
  let settings ← settingsAt host settingsPath
  let summary ← orStop (← perform host (check settings)) .build
  say host (toString summary.documents ++ " chapters OK, " ++ toString summary.blocks ++
    " runnable blocks")

/-- Does what a command line asks for. -/
def Invocation.perform (invocation : Invocation) : Performed σ Unit := do
  match invocation.command with
  | .init overwrite =>
    orStop (← CommandLine.perform host (start invocation.settingsPath overwrite).run) .starter
  | .build outputDir jobs => runBuild host invocation.settingsPath outputDir jobs
  | .check => runCheck host invocation.settingsPath

/-- What a run of the program comes to. -/
structure Exit where
  /-- The exit status. -/
  status : Nat
  /-- What is told on the error output; none where that is how the program is used. -/
  errors : Option String
deriving DecidableEq, Repr

/-- What is told of a crash, but for the place in the program. -/
def crashText : String :=
  "a semaphore may not have more than MAX_PERMITS permits (" ++ toString Schedule.maxTurns ++ ")\n"

/-- Runs the program with the words of a command line. -/
def run (words : List String) (state : σ) : Exit × σ :=
  match Invocation.parse words with
  | .error .told => (⟨0, some ""⟩, state)
  | .error .misused => (⟨2, none⟩, state)
  | .ok invocation =>
    match (invocation.perform host).run.run state with
    | (.ok (), state) => (⟨0, some ""⟩, state)
    | (.error (.failed cause), state) => (⟨1, some cause.report⟩, state)
    | (.error .crashed, state) => (⟨101, some crashText⟩, state)

end Runbook.CommandLine
