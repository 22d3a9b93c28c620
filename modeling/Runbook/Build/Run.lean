import Runbook.Build.Schedule
/-!
# Builds

A build finds all chapters, runs them and writes the finished chapters, each at its own path in the
output directory. Nothing is made before all chapters have been judged, and no chapter is written
before all of them are finished.

`build` does all this with any number of turns. Turns are not given out in every number, though, and
this is found only once they are about to be: `attempt` builds a project or crashes there.
-/

set_option autoImplicit false

namespace Runbook.Build

open Machine Session

/-- What is done for a build outside of its chapters. -/
abbrev BuildWork (α : Type) := ExceptT BuildError Act α

/-- Makes a directory and those above it. -/
def makeDirectory (path : String) (toldPath : Option String) : BuildWork Unit := do
  match ← Act.request (.makeDirectories path) with
  | .ok () => return ()
  | .error cause => throw (.write toldPath cause)

/-! ### Chapters -/

/-- What a chapter is run with. -/
def Chapter.options (settings : Settings) (chapter : Chapter) : Options where
  workdir := chapter.workdir
  assetsRoot := settings.assetsDir
  basename := some chapter.basename
  scope := settings.scope
  shell := settings.shell
  screenshotUrl := settings.screenshotUrl
  browser := settings.browser

/-- Runs a chapter: the finished chapter. -/
def Chapter.run (settings : Settings) (chapter : Chapter) : BuildWork String := do
  makeDirectory chapter.workdir (some chapter.workdir)
  let work := (runDocument chapter.document).run.run (Session.new (chapter.options settings))
  match (← work).1 with
  | .ok document => return document.render
  | .error (.failed cause) => throw (.chapter chapter.path cause)
  | .error .abandoned => throw .givenUp

/-! ### Builds -/

/-- Makes the directories that chapters are run with. -/
def prepare (settings : Settings) : BuildWork Unit := do
  makeDirectory settings.assetsDir (some settings.assetsDir)
  makeDirectory settings.projectDir (some settings.projectDir)

/-- Writes a finished chapter. -/
def Output.write (settings : Settings) (output : Output) : BuildWork Unit := do
  let path := Path.join settings.outputDir output.path
  match Path.parent? path with
  | some parent => makeDirectory parent none
  | none => pure ()
  match ← Act.request (.writeFile path (Text.encode output.markdown)) with
  | .ok () => return ()
  | .error cause => throw (.write (some path) cause)

/-- Writes finished chapters in order. -/
def writeAll (settings : Settings) : List Output → BuildWork Unit
  | [] => return ()
  | output :: outputs => do
    output.write settings
    writeAll settings outputs

/-- Finds the chapters of a project and makes what they are run with. -/
def begin (settings : Settings) : BuildWork (List Chapter) := do
  let chapters ← ExceptT.mk (discover settings)
  prepare settings
  return chapters

variable {σ : Type} (host : Host σ) (settings : Settings)

/-- Runs chapters on a host: the finished chapters, in order. -/
def runAll (chapters : List Chapter) (state : σ) : Except BuildError (List Output) × σ :=
  let schedule := Schedule.new settings.jobs (lineages chapters)
  let (schedule, state) := schedule.run (fun chapter => (chapter.run settings).run) host state
  (schedule.result, state)

/-- Builds a project on a host. Assumes: turns can be given out for as many chapters as may be run
at once. -/
def build (state : σ) : Except BuildError Summary × σ :=
  match (begin settings).run.on host state with
  | (.error error, state) => (.error error, state)
  | (.ok chapters, state) =>
    match runAll host settings chapters state with
    | (.error error, state) => (.error error, state)
    | (.ok outputs, state) =>
      match (writeAll settings outputs).run.on host state with
      | (.error error, state) => (.error error, state)
      | (.ok (), state) => (.ok (summarize settings chapters), state)

/-! ### Attempts -/

/-- What an attempt to build a project comes to. -/
inductive Outcome where
  | returned (result : Except BuildError Summary)
  /-- There are more turns than can be given out. -/
  | crashed

/-- Builds a project on a host, or crashes when it is about to give out turns. -/
def attempt (state : σ) : Outcome × σ :=
  if max settings.jobs 1 ≤ Schedule.maxTurns then
    let (result, state) := build host settings state
    (.returned result, state)
  else
    match (begin settings).run.on host state with
    | (.error error, state) => (.returned (.error error), state)
    | (.ok _, state) => (.crashed, state)

end Runbook.Build
