import Runbook.Shell.Expand
import Runbook.Shell.Reader
/-!
# Redirections

What a command has open is changed before it runs and changed back after it. The old descriptors
are kept under numbers that no script uses.
-/

set_option autoImplicit false

namespace Runbook.Shell

open Sandbox

/-- How a file is opened for a use. -/
def howOf : FileUse → FileSystem.OpenHow
  | .read => ⟨false, false, false, false⟩
  | .write => ⟨true, false, true, true⟩
  | .overwrite => ⟨true, false, true, true⟩
  | .append => ⟨true, false, false, true⟩
  | .readWrite => ⟨true, false, false, true⟩

/-- The wording of a failure to open a file. -/
def openFailure (usage : FileUse) (path : String) (code : Errno) : String :=
  let missing := code = Errno.noEntry || code = Errno.notDirectory
  if usage = .read then
    "cannot open " ++ path ++ ": " ++ (if missing then "No such file" else Errno.text code)
  else
    "cannot create " ++ path ++ ": " ++
      (if missing then "Directory nonexistent" else Errno.text code)

/-- Makes a descriptor stand for what another one stands for, which is closed. -/
def moveDescriptor (source target : Descriptor) : Sh Unit := do
  if source != target then
    let _ ← Sh.call (.duplicate source (some target) 0)
    Sh.call (.close source)

/-- A text that can be read from a new descriptor. -/
def openText (interpreter : Interpreter) (text : String) : Sh Descriptor := do
  let (reader, writer) ← Sh.call .pipe
  let bytes := ByteText.toBytes text
  if bytes.length ≤ System.pipeSize then
    let _ ← Sh.lift (Run.write writer bytes)
  else
    let _ ← fork interpreter do
      Sh.call (.close reader)
      let _ ← Sh.lift (Run.write writer bytes)
  Sh.call (.close writer)
  return reader

/-- Whether a file is not to be written to because it is there. -/
def isKept (usage : FileUse) (path : String) : Sh Bool := do
  if usage = .write && (← get).has 'C' then
    match ← Sh.call (.status path true) with
    | .ok status => return status.kind = .file
    | .error _ => return false
  else return false

/-- Changes what a descriptor stands for: what is wrong, if anything is. -/
def redirect? (interpreter : Interpreter) : Redirection → Sh (Option String)
  | .file descriptor usage target => do
    let path ← expandText interpreter target
    if ← isKept usage path then return some (openFailure usage path Errno.present)
    match ← Sh.call (.openFile path (howOf usage) (usage = .append)) with
    | .error code => return some (openFailure usage path code)
    | .ok opened =>
      moveDescriptor opened descriptor
      return none
  | .copy descriptor target => do
    let text ← expandText interpreter target
    if text = "-" then
      Sh.call (.close descriptor)
      return none
    else
      match (if text.length = 1 then text.toNat? else none) with
      | none => do
        modify fun state => { state with line := state.reached }
        Sh.failWith ("Syntax error: " ++ Fault.descriptor.message)
      | some source =>
        match ← Sh.call (.duplicate source (some descriptor) 0) with
        | .ok _ => return none
        | .error code => return some (text ++ ": " ++ Errno.text code)
  | .here descriptor number => do
    let word := ((← get).documents.lookup number).getD []
    let text := textOf (← expandPieces interpreter maxDepth true false word)
    let reader ← openText interpreter text
    moveDescriptor reader descriptor
    return none

/-- The descriptor that a redirection changes. -/
def Redirection.descriptor : Redirection → Descriptor
  | .file descriptor _ _ => descriptor
  | .copy descriptor _ => descriptor
  | .here descriptor _ => descriptor

/-- What descriptors stood for before, under other numbers; none for those that were closed. -/
abbrev Saved := List (Descriptor × Option Descriptor)

/-- Keeps what a descriptor stands for. -/
def saveDescriptor (descriptor : Descriptor) : Sh (Descriptor × Option Descriptor) := do
  match ← Sh.call (.duplicate descriptor none System.leastPrivate) with
  | .ok kept => return (descriptor, some kept)
  | .error _ => return (descriptor, none)

/-- Changes descriptors one after the other: what they stood for before, the last one first, and
what is wrong. -/
def redirectAll (interpreter : Interpreter) : List Redirection → Saved → Sh (Saved × Option String)
  | [], saved => return (saved, none)
  | redirection :: rest, saved => do
    let kept ← saveDescriptor redirection.descriptor
    match ← redirect? interpreter redirection with
    | some text => return (kept :: saved, some text)
    | none => redirectAll interpreter rest (kept :: saved)

/-- Changes descriptors back. -/
def restore : Saved → Sh Unit
  | [] => return
  | (descriptor, kept) :: rest => do
    match kept with
    | some kept => moveDescriptor kept descriptor
    | none => Sh.call (.close descriptor)
    restore rest

/-- Forgets what descriptors stood for. -/
def forget : Saved → Sh Unit
  | [] => return
  | (_, kept) :: rest => do
    match kept with
    | some kept => Sh.call (.close kept)
    | none => pure ()
    forget rest

/-- Does something with changed descriptors: its result, or none if they cannot be changed. -/
def withRedirections {α : Type} (interpreter : Interpreter) (redirections : List Redirection)
    (body : Sh α) : Sh (Option α) := do
  if redirections.isEmpty then return some (← body)
  else
    let (saved, wrong) ← redirectAll interpreter redirections []
    match wrong with
    | some text =>
      Sh.warn text
      restore saved
      Sh.setStatus 2
      return none
    | none =>
      try
        let result ← body
        restore saved
        return some result
      catch jump =>
        restore saved
        throw jump

end Runbook.Shell
