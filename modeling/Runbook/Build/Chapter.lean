import Runbook.Build.Docs
import Runbook.Build.Failure
import Runbook.Build.Settings
/-!
# Chapters

A chapter is a document in the directory of chapters, with the name under which it keeps its assets
and the directory that its blocks run in. All chapters are read, parsed and planned before anything
else is done; the first that cannot be used is the failure of the whole.

`chaptersOf` judges what was found, in order; `discover` reads the directory first.
-/

set_option autoImplicit false

namespace Runbook.Build

open Document Machine Session

/-- A chapter. -/
structure Chapter where
  /-- Its path in the directory of chapters. -/
  path : String
  /-- The name under which it keeps its assets. -/
  basename : String
  /-- The directory that its blocks run in. -/
  workdir : String
  /-- The number of its runnable blocks. -/
  blocks : Nat
  document : Document
deriving DecidableEq, Repr

namespace Chapter

/-- The name under which a document keeps its assets: the one that it gives itself, or that of its
file. -/
def basenameOf (path : String) (document : Document) : String :=
  match document.frontmatter.bind Frontmatter.basename with
  | some name => name
  | none => (Path.fileStem? path).getD "chapter"

/-- The directory that the blocks of a document run in. -/
def workdirOf (settings : Settings) (document : Document) : String :=
  match document.frontmatter.bind Frontmatter.workdir with
  | some directory => Path.join settings.projectDir directory
  | none => settings.projectDir

/-- The chapter that a source is, given the chapters before it. -/
def ofSource (settings : Settings) (before : List Chapter) (path source : String) :
    Except BuildError Chapter :=
  match Document.parse source with
  | .error cause => .error (.malformed path cause)
  | .ok document =>
    let basename := basenameOf path document
    match before.find? fun chapter => chapter.basename = basename with
    | some other => .error (.nameTaken path basename other.path)
    | none =>
      match document.plan settings.scope with
      | .error refused => .error (.chapter path (.ofRefused refused))
      | .ok plan => .ok ⟨path, basename, workdirOf settings document, plan.length, document⟩

/-- The chapter that was found, given the chapters before it. -/
def ofFinding (settings : Settings) (before : List Chapter) :
    Finding → Except BuildError Chapter
  | .failed cause => .error (.walk cause)
  | .chapter path (.error cause) => .error (.unreadable (Path.join settings.docsDir path) cause)
  | .chapter path (.ok source) => ofSource settings before path source

end Chapter

/-- The chapters that were found, after those before them. -/
def chaptersFrom (settings : Settings) (before : List Chapter) :
    List Finding → Except BuildError (List Chapter)
  | [] => .ok before
  | finding :: findings =>
    match Chapter.ofFinding settings before finding with
    | .error error => .error error
    | .ok chapter => chaptersFrom settings (before ++ [chapter]) findings

/-- The chapters in a tree. -/
def chaptersOf (settings : Settings) (tree : DocsTree) : Except BuildError (List Chapter) :=
  chaptersFrom settings [] (tree.findings "")

/-- Reads the chapters of a project. -/
def discover (settings : Settings) : Act (Except BuildError (List Chapter)) := do
  match ← Act.request (.entryKind settings.docsDir true) with
  | .ok .directory => return chaptersOf settings (← readTree settings.docsDir)
  | _ => return .error (.noDocs settings.docsDir)

/-- What a build or a check has come to. -/
structure Summary where
  /-- The number of chapters. -/
  documents : Nat
  /-- The number of runnable blocks in all chapters. -/
  blocks : Nat
  outputDir : String
deriving DecidableEq, Repr

/-- What is told about chapters. -/
def summarize (settings : Settings) (chapters : List Chapter) : Summary :=
  ⟨chapters.length, chapters.foldr (fun chapter n => chapter.blocks + n) 0, settings.outputDir⟩

/-- Checks the chapters of a project without running anything. -/
def check (settings : Settings) : Act (Except BuildError Summary) := do
  match ← discover settings with
  | .error error => return .error error
  | .ok chapters => return .ok (summarize settings chapters)

end Runbook.Build
