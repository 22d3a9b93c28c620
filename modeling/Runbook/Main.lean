import Runbook.CommandLine.Run
import Runbook.Sandbox.Entry
/-!
# The program

Runs a command line in the directory that the program is started in. The run happens in a sandbox
that holds a copy of the directory; what the run has changed is written back when it is over.
-/

set_option autoImplicit false

namespace Runbook

open Sandbox

/-- The files and directories below a directory, with paths that start with a given text. -/
partial def entriesBelow (directory start : String) : IO (List Entry) := do
  let mut entries : List Entry := []
  for found in ← (← IO.FS.realPath directory).readDir do
    let path := start ++ found.fileName
    if ← found.path.isDir then
      let below ← entriesBelow found.path.toString (path ++ "/")
      entries := entries ++ [⟨path, .directory, none⟩] ++ below
    else
      let bytes ← IO.FS.readBinFile found.path
      entries := entries ++ [⟨path, .file bytes.toList, none⟩]
  return entries

/-- Writes an entry into the directory that the program is started in. -/
def writeBack (entry : Entry) : IO Unit :=
  match entry.content with
  | .directory => IO.FS.createDirAll entry.path
  | .file bytes => IO.FS.writeBinFile entry.path ⟨bytes.toArray⟩
  | .link _ => return ()

/-- Removes an entry from the directory that the program is started in. -/
def removeEntry (entry : Entry) : IO Unit :=
  match entry.content with
  | .directory => IO.FS.removeDirAll entry.path
  | _ => IO.FS.removeFile entry.path

/-- How the program is used. -/
def usage : String := "Usage: galley [OPTIONS] <COMMAND>"

end Runbook

open Runbook in
/-- Runs the program. -/
def main (words : List String) : IO UInt32 := do
  let before ← entriesBelow "." ""
  let workspace := (Sandbox.Workspace.new "galley").putAll before
  let (exit, workspace) := CommandLine.run Sandbox.Workspace.host words workspace
  for (level, text) in workspace.messages.reverse do
    match level with
    | .info => IO.println ("INFO " ++ text)
    | .warn => IO.println ("WARN " ++ text)
  IO.eprint (exit.errors.getD (usage ++ "\n"))
  let contents := workspace.contents
  for entry in before.reverse do
    unless contents.any fun kept => kept.path = entry.path do
      removeEntry entry
  for entry in contents do
    unless before.any fun old => old.path = entry.path && old.content = entry.content do
      writeBack entry
  return exit.status.toUInt32
