import Runbook.Sandbox.Workspace
/-!
# What a sandbox holds

Entries say what stands below the directory of a workspace: files, directories and links. They can
be put there one after the other, and all that is there can be listed, in the order of the paths.
-/

set_option autoImplicit false

namespace Runbook.Sandbox

open Machine

/-- What an entry is. -/
inductive EntryContent where
  | file (bytes : Bytes)
  | directory
  | link (target : String)
deriving DecidableEq, Repr

/-- An entry below the directory of a workspace. -/
structure Entry where
  path : String
  content : EntryContent
  /-- Its permission bits; none for those that are given without being asked for. -/
  mode : Option Nat
deriving DecidableEq, Repr

namespace Workspace

/-- The workspace after a request, whatever the answer is. -/
def after (workspace : Workspace) (request : Request) : Workspace := (workspace.answer request).2

/-- Puts an entry in its place, and makes the directories above it. -/
def put (workspace : Workspace) (entry : Entry) : Workspace :=
  let above := match Path.parent? entry.path with
    | some parent => workspace.after (.makeDirectories parent)
    | none => workspace
  let placed := match entry.content with
    | .file bytes => above.after (.writeFile entry.path bytes)
    | .directory => above.after (.makeDirectories entry.path)
    | .link target => above.after (.makeLink target entry.path)
  match entry.mode with
  | some mode => placed.after (.setMode entry.path mode)
  | none => placed

/-- Puts entries in their places. -/
def putAll (workspace : Workspace) (entries : List Entry) : Workspace := entries.foldl put workspace

/-- What a node is as an entry. -/
def contentOf : Content → EntryContent
  | .file bytes => .file bytes
  | .directory _ _ => .directory
  | .link target => .link (ByteText.toText target)
  | .device _ => .file []
  | .program _ => .file []

/-- All entries, in the order of their paths. -/
def contents (workspace : Workspace) : List Entry :=
  workspace.tree.map fun (path, node) =>
    ⟨ByteText.toText path, contentOf node.content, some node.mode⟩

end Workspace

end Runbook.Sandbox
