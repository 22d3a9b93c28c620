import Runbook.Machine.Act
import Runbook.Path.Basic
import Runbook.Text.Utf8
/-!
# New projects

A new project has a settings file that gives every setting its default, and one chapter that shows
the kinds of blocks. What is there already is kept unless it is to be overwritten.
-/

set_option autoImplicit false

namespace Runbook.CommandLine

open Machine

/-- Lines as a text. -/
def textOfLines (lines : List String) : String := String.join (lines.map (· ++ "\n"))

/-- The settings file of a new project. -/
def starterSettings : String := textOfLines [
  "# Galley Configuration",
  "",
  "[docs]",
  "# Source directory for chapters",
  "dir = \"chapters\"",
  "",
  "# Output directory for finished chapters",
  "output = \"dist\"",
  "",
  "[assets]",
  "# Screenshots and checkpoints are written here",
  "dir = \"dist/assets\"",
  "",
  "# URL prefix for screenshot references",
  "url = \"/screenshots\"",
  "",
  "[project]",
  "# Scratch project the chapters' commands run in",
  "dir = \"scratch\"",
  "",
  "[runner]",
  "# Code blocks tagged `<namespace>:<kind>` are executed",
  "namespace = \"run\"",
  "shell = \"sh\"",
  "jobs = 1",
  "",
  "[browser]",
  "# Reads the generated puppeteer program from stdin",
  "program = \"node\"",
  "args = []",
  "timeout = 120"]

/-- The chapter of a new project. -/
def starterChapter : String := textOfLines [
  "---",
  "title: Getting Started",
  "---",
  "",
  "# Getting Started",
  "",
  "Every block tagged `run:` is executed when the chapter is built, and its",
  "real output replaces it.",
  "",
  "```run:command",
  "mkdir -p hello && echo \"created hello/\"",
  "```",
  "",
  "```run:file:create path=hello/greet.sh",
  "echo \"Hello from galley\"",
  "```",
  "",
  "```run:command cwd=hello",
  "sh greet.sh",
  "```",
  "",
  "```run:checkpoint name=hello",
  "```"]

/-- The directory of the chapters of a new project. -/
def starterChapters : String := "chapters"

/-- The path of the chapter of a new project. -/
def starterChapterPath : String := Path.join starterChapters "01-getting-started.md"

/-- Why a new project cannot be made. -/
inductive StarterError where
  | settings (path : String) (cause : IoError)
  | chapters (cause : IoError)
  | chapter (cause : IoError)
deriving DecidableEq, Repr

namespace StarterError

/-- The wording of an error. -/
def message : StarterError → String
  | settings path _ => "Failed to write " ++ path
  | chapters _ => "Failed to create chapters directory"
  | chapter _ => "Failed to write sample chapter"

/-- What is behind an error. -/
def cause : StarterError → IoError
  | settings _ cause => cause
  | chapters cause => cause
  | chapter cause => cause

end StarterError

/-- Tells the user something. -/
def tell (text : String) : ExceptT StarterError Act Unit := Act.request (.log .info text)

/-- Whether something stands at a path. -/
def isThere (path : String) : Act Bool := do
  match ← Act.request (.entryKind path true) with
  | .ok _ => return true
  | .error _ => return false

/-- Writes a file of a new project. -/
def writeStarter (path content : String) (failure : IoError → StarterError) :
    ExceptT StarterError Act Unit := do
  match ← Act.request (.writeFile path (Text.encode content)) with
  | .ok () => tell ("Created " ++ path)
  | .error cause => throw (failure cause)

/-- Makes a new project. -/
def start (settingsPath : String) (overwrite : Bool) : ExceptT StarterError Act Unit := do
  tell "Initializing galley..."
  if overwrite || !(← isThere settingsPath) then
    writeStarter settingsPath starterSettings (.settings settingsPath)
  else
    Act.request (.log .warn (settingsPath ++ " already exists. Use --yes to overwrite."))
  match ← Act.request (.makeDirectories starterChapters) with
  | .ok () => pure ()
  | .error cause => throw (.chapters cause)
  if overwrite || !(← isThere starterChapterPath) then
    writeStarter starterChapterPath starterChapter .chapter
  tell "Initialization complete!"
  tell "Run 'galley build' to run the chapters."

end Runbook.CommandLine
