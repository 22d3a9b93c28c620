import Runbook.Number.Duration
/-!
# Session options

What one document is run with: the directory that its blocks share, where its assets go and under
which name, the shell of its commands and the browser of its screenshots.
-/

set_option autoImplicit false

namespace Runbook.Session

open Number

/-- The program that takes screenshots. -/
structure Browser where
  /-- The program, which reads what it has to do from its input. -/
  program : String
  args : List String
  /-- How long one screenshot may take. -/
  timeout : Duration
deriving DecidableEq, Repr

/-- The browser that is used when nothing else is said. -/
def Browser.default : Browser := ⟨"node", [], .ofWholeSeconds 120⟩

/-- What a document is run with. -/
structure Options where
  /-- The directory that all blocks of the document share. -/
  workdir : String
  /-- The directory of screenshots and checkpoints. -/
  assetsRoot : String
  /-- The name of the document among its assets. -/
  basename : Option String
  /-- The word before the colon in the tags of runnable blocks. -/
  scope : String
  shell : String
  /-- Where screenshots are found by a reader of the finished document. -/
  screenshotUrl : String
  browser : Browser
deriving DecidableEq, Repr

end Runbook.Session
