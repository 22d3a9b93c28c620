import Runbook.Machine.Act
import Runbook.Session.Options
import Runbook.Toml.Parse
/-!
# Settings

Where a project keeps its chapters and puts what it makes of them, and how it runs their blocks.
The settings of a file replace the defaults one by one. A section may also be given as an array,
whose items are then the values of its keys in order; keys and items beyond those of a section
count for nothing.

A project without a settings file has the default settings; a file that is there must be readable
and well formed.
-/

set_option autoImplicit false

namespace Runbook.Build

open Number Session Toml

/-- The settings of a project. -/
structure Settings where
  /-- The directory of the chapters. -/
  docsDir : String
  /-- The directory of the finished chapters. -/
  outputDir : String
  /-- The directory of screenshots and checkpoints. -/
  assetsDir : String
  /-- The directory that the blocks of chapters run in. -/
  projectDir : String
  /-- The word before the colon in the tags of runnable blocks. -/
  scope : String
  shell : String
  /-- Where screenshots are found by a reader of the finished chapters. -/
  screenshotUrl : String
  browser : Browser
  /-- How many chapters may run at once. -/
  jobs : Nat
deriving DecidableEq, Repr

namespace Settings

/-- The settings of a project that says nothing. -/
def default : Settings where
  docsDir := "chapters"
  outputDir := "dist"
  assetsDir := "dist/assets"
  projectDir := "scratch"
  scope := "run"
  shell := "sh"
  screenshotUrl := "/screenshots"
  browser := .default
  jobs := 1

/-! ### Reading -/

/-- The values of the keys of a section, in order; `none` for a section that is neither a table
nor an array. -/
def sectionValues? (entries : Entries) (name : String) (keys : List String) :
    Option (List (Option Item)) :=
  match Toml.get? entries name with
  | none => some (keys.map fun _ => none)
  | some (.table _ inner) => some (keys.map (Toml.get? inner))
  | some (.array items) => some ((List.range keys.length).map fun i => items[i]?)
  | some (.tables elements) =>
    some ((List.range keys.length).map fun i => (elements[i]?).map (Item.table .header))
  | some _ => none

/-- A text, or the default when there is no item. -/
def text? (default : String) : Option Item → Option String
  | none => some default
  | some (.text value) => some value
  | some _ => none

/-- A number that is not negative, or the default when there is no item. -/
def count? (default : Nat) : Option Item → Option Nat
  | none => some default
  | some (.integer n) => if 0 ≤ n then some n.toNat else none
  | some _ => none

/-- A list of texts, or the default when there is no item. -/
def texts? (default : List String) : Option Item → Option (List String)
  | none => some default
  | some (.array items) => items.mapM fun item => text? "" (some item)
  | some _ => none

/-- The settings that the entries of a file give, the others being the default. -/
def ofEntries? (entries : Entries) : Option Settings := do
  let docs ← sectionValues? entries "docs" ["dir", "output"]
  let assets ← sectionValues? entries "assets" ["dir", "url"]
  let project ← sectionValues? entries "project" ["dir"]
  let runner ← sectionValues? entries "runner" ["namespace", "shell", "jobs"]
  let browser ← sectionValues? entries "browser" ["program", "args", "timeout"]
  let item (values : List (Option Item)) (i : Nat) : Option Item := (values[i]?).join
  return {
    docsDir := ← text? default.docsDir (item docs 0)
    outputDir := ← text? default.outputDir (item docs 1)
    assetsDir := ← text? default.assetsDir (item assets 0)
    screenshotUrl := ← text? default.screenshotUrl (item assets 1)
    projectDir := ← text? default.projectDir (item project 0)
    scope := ← text? default.scope (item runner 0)
    shell := ← text? default.shell (item runner 1)
    jobs := ← count? default.jobs (item runner 2)
    browser := {
      program := ← text? Browser.default.program (item browser 0)
      args := ← texts? Browser.default.args (item browser 1)
      timeout := .ofWholeSeconds
          (← count? Browser.default.timeout.wholeSeconds (item browser 2)) } }

/-- The settings that a file gives; `none` when it is malformed. -/
def parse? (source : String) : Option Settings := (Toml.parse? source).bind ofEntries?

/-- The settings with the output directory and the number of chapters at once replaced, where they
are given. -/
def override (settings : Settings) (outputDir : Option String) (jobs : Option Nat) : Settings :=
  { settings with
    outputDir := outputDir.getD settings.outputDir, jobs := jobs.getD settings.jobs }

end Settings

/-! ### Settings files -/

open Machine

/-- Why the settings of a project cannot be had. -/
inductive SettingsError where
  | unreadable (path : String) (cause : IoError)
  | malformed (path : String)
deriving DecidableEq, Repr

namespace SettingsError

/-- The wording of an error. -/
def message : SettingsError → String
  | unreadable path _ => "Failed to read " ++ path
  | malformed path => "Failed to parse " ++ path

/-- The wording of what is behind an error. -/
def cause : SettingsError → String
  | unreadable _ cause => cause.message
  | malformed _ => "<toml error>"

end SettingsError

/-- Reads the settings of a project. -/
def Settings.load (path : String) : Act (Except SettingsError Settings) := do
  match ← Act.request (.entryKind path true) with
  | .error _ => return .ok default
  | .ok _ =>
    match ← Act.request (.readText path) with
    | .error cause => return .error (.unreadable path cause)
    | .ok source =>
      match Settings.parse? source with
      | none => return .error (.malformed path)
      | some settings =>
        Act.request (.log .info ("Loaded config from " ++ path))
        return .ok settings

end Runbook.Build
