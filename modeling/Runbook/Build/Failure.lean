import Runbook.Session.Run
/-!
# Build failures

Why the chapters of a project cannot be found, read, run or written.
-/

set_option autoImplicit false

namespace Runbook.Build

open Block Document Machine Session

/-- Why a build or a check fails. -/
inductive BuildError where
  /-- There is no directory of chapters. -/
  | noDocs (path : String)
  | walk (cause : WalkError)
  /-- The source of a chapter cannot be read. -/
  | unreadable (path : String) (cause : IoError)
  /-- The settings of a chapter cannot be read. -/
  | malformed (path : String) (cause : FrontmatterError)
  /-- Two chapters would keep their assets under one name. -/
  | nameTaken (path basename other : String)
  /-- A chapter is refused or fails. -/
  | chapter (path : String) (cause : RunError)
  /-- Something cannot be written, at a path if that is told. -/
  | write (path : Option String) (cause : IoError)
  /-- The run of a chapter was given up. -/
  | givenUp
deriving DecidableEq, Repr

namespace BuildError

/-- The wording of a failure. -/
def message : BuildError → String
  | noDocs path => "Failed to read chapters: Docs directory not found: " ++ path
  | walk cause => "Failed to read chapters: " ++ cause.message
  | unreadable path cause => "Failed to read chapters: " ++ path ++ ": " ++ cause.message
  | malformed path cause => "Failed to parse chapter: " ++ path ++ ": " ++ sourceErrorMessage cause
  | nameTaken path basename other =>
    "Failed to parse chapter: " ++ path ++ ": basename `" ++ basename ++ "` is already used by " ++
      other
  | chapter path cause => path ++ ": " ++ cause.message
  | write none cause => "Failed to write output: " ++ cause.message
  | write (some path) cause => "Failed to write output: " ++ path ++ ": " ++ cause.message
  | givenUp => "Build task failed: the run was given up"

end BuildError

end Runbook.Build
