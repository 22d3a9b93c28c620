/-!
# Kinds of runnable blocks

A code block whose tag is the namespace, a colon and one of seven words is runnable. `ofTag?` and
`tag` are inverse to each other: `ofTag?_eq_some_iff`.
-/

set_option autoImplicit false

namespace Runbook.Block

/-- What a runnable block does. -/
inductive Kind where
  /-- Runs shell commands and shows their output. -/
  | command
  /-- Applies a patch to a file. -/
  | patchFile
  /-- Writes a file. -/
  | createFile
  /-- Starts a background process. -/
  | startServer
  /-- Stops a background process. -/
  | stopServer
  /-- Captures a page in a browser. -/
  | screenshot
  /-- Copies the working directory into the assets. -/
  | checkpoint
deriving DecidableEq, Repr

namespace Kind

/-- The word for a kind in a tag. -/
def tag : Kind → String
  | .command => "command"
  | .patchFile => "file:patch"
  | .createFile => "file:create"
  | .startServer => "server:start"
  | .stopServer => "server:stop"
  | .screenshot => "screenshot"
  | .checkpoint => "checkpoint"

/-- All kinds. -/
def all : List Kind :=
  [.command, .patchFile, .createFile, .startServer, .stopServer, .screenshot, .checkpoint]

/-- The kind that a word stands for. -/
def ofTag? (word : String) : Option Kind := all.find? fun kind => kind.tag == word

theorem ofTag?_tag (kind : Kind) : ofTag? kind.tag = some kind := by
  cases kind <;> decide

/-- A word stands for a kind exactly when it is the tag of that kind. -/
theorem ofTag?_eq_some_iff {word : String} {kind : Kind} :
    ofTag? word = some kind ↔ word = kind.tag := by
  constructor
  · intro h
    unfold ofTag? at h
    have found := List.find?_some h
    simp only [beq_iff_eq] at found
    exact found.symm
  · rintro rfl
    exact ofTag?_tag kind

end Kind

end Runbook.Block
