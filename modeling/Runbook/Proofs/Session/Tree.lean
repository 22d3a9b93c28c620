import Runbook.Proofs.Path.Normal
import Runbook.Proofs.Sandbox.Filling
import Runbook.Proofs.Sandbox.Replacing
import Runbook.Proofs.Session.Yields
import Runbook.Sandbox.System
/-!
# A tree of files as a world

The steps of a tree say what the requests of checkpoint blocks do (`Tree.Step`). What is asked about
files is answered as it is, and each operation is done as on the file system of a sandbox, or the
machine refuses it. A file that is refused on the way can be left half written, and of a directory
that is removed any part can be left. The steps are taken for a set of requests that the machine may
refuse, so that it can be said that work stops only where it does.

A new directory gets a name that nothing else has and that is spelled nowhere: in no link, and in no
path that is known beforehand.

`Work.Alters` is `Evolving` for work on a tree: what it leaves of the tree when it succeeds and when
it stops.
-/

set_option autoImplicit false

namespace Runbook.Session

open Machine Sandbox Work

namespace Tree

/-! ### Steps -/

/-- An operation is done, or it is refused and nothing has changed. -/
def DoneOrRefused {α : Type} (refused : Prop) (files : FileSystem) (done : α → FileSystem → Prop)
    (reply : Except IoError α) (after : FileSystem) : Prop :=
  match reply with
  | .ok value => done value after
  | .error _ => refused ∧ after = files

/-- What a directory is found to hold: each of its names once, as a text, with what has it. -/
structure Lists (files : FileSystem) (id : NodeId) (found : List (String × EntryKind)) : Prop where
  nodup : (found.map fun entry ↦ ByteText.ofText entry.1).Nodup
  named : ∀ entry ∈ found, Path.IsEntryName entry.1 ∧ ∃ child,
    files.named (id, ByteText.ofText entry.1) = some child ∧
      entry.2 = System.kindOf (files.content child)
  complete : ∀ name child, files.named (id, name) = some child →
    ∃ entry ∈ found, ByteText.ofText entry.1 = name

/-- A name that nothing has and that is spelled in no link and in none of some paths. -/
structure IsNew (files : FileSystem) (known : List String) (name : String) : Prop where
  isEntryName : Path.IsEntryName name
  named : ∀ spot id, files.named spot = some id → spot.2 ≠ ByteText.ofText name
  links : ∀ id target, files.content id = .link target →
    ByteText.ofText name ∉ FileSystem.pieces target
  paths : ∀ path ∈ known, ByteText.ofText name ∉ FileSystem.pieces (ByteText.ofText path)

/-- How a file is opened that a copy is written to. -/
def copyHow : FileSystem.OpenHow := ⟨true, false, true, true⟩

/-- What a request does to files, with the reply that it gets. Requests that no checkpoint block
asks may do anything. -/
def Effect (refuses : Request → Prop) (known : List String) (here : NodeId) (files : FileSystem) :
    (request : Request) → request.Reply → FileSystem → Prop
  | .entryKind path follow, reply, after => after = files ∧
      (∀ kind, reply = Except.ok kind →
        ∃ id, files.find here (ByteText.ofText path) follow = .ok id ∧
          kind = System.kindOf (files.content id)) ∧
      (∀ error, reply = Except.error error → refuses (.entryKind path follow) ∨
        ∀ id, files.find here (ByteText.ofText path) follow ≠ .ok id)
  | .canonical path, reply, after => after = files ∧ Except.toOption reply =
      (files.canonical here (ByteText.ofText path)).toOption.map ByteText.toText
  | .entries path, reply, after => DoneOrRefused (refuses (.entries path)) files
      (fun found after ↦ after = files ∧ ∃ id,
        files.find here (ByteText.ofText path) true = .ok id ∧ Lists files id found)
      reply after
  | .readLink path, reply, after => DoneOrRefused (refuses (.readLink path)) files
      (fun text after ↦ after = files ∧
        files.readLink here (ByteText.ofText path) = .ok (ByteText.ofText text))
      reply after
  | .makeDirectories path, reply, after => files.Makes here (ByteText.ofText path) after ∧
      (reply = Except.ok () → path ≠ "" → files.MakesAll here (ByteText.ofText path) after) ∧
      (∀ error, reply = Except.error error → refuses (.makeDirectories path))
  | .makeTempDirectory directory, reply, after =>
      DoneOrRefused (refuses (.makeTempDirectory directory)) files
        (fun temp after ↦ ∃ name mode, IsNew files known name ∧ temp = Path.join directory name ∧
          files.makeDirectory here (ByteText.ofText temp) mode = .ok after)
        reply after
  | .copyFile source target, reply, after =>
      (reply = Except.ok () → ∃ id bytes copy opened mode,
        files.find here (ByteText.ofText source) true = .ok id ∧ files.content id = .file bytes ∧
        files.openNode here (ByteText.ofText target) copyHow mode = .ok (copy, opened) ∧
        after = opened.filled copy bytes mode) ∧
      (∀ error, reply = Except.error error → refuses (.copyFile source target) ∧
        (after = files ∨ ∃ part copy opened mode,
          files.openNode here (ByteText.ofText target) copyHow mode = .ok (copy, opened) ∧
          after = opened.filled copy part mode))
  | .makeLink content path, reply, after => DoneOrRefused (refuses (.makeLink content path)) files
      (fun (_ : Unit) after ↦ files.makeLink here (ByteText.ofText content)
        (ByteText.ofText path) = .ok after)
      reply after
  | .removeTree path, _, after => files.Removal here (ByteText.ofText path) after
  | .discardTree path, _, after => files.Removal here (ByteText.ofText path) after
  | .rename source target, reply, after => DoneOrRefused (refuses (.rename source target)) files
      (fun (_ : Unit) after ↦
        files.rename here (ByteText.ofText source) (ByteText.ofText target) = .ok after)
      reply after
  | _, _, _ => True

/-- A step of a tree: what a request can do. -/
def Step (refuses : Request → Prop) (known : List String) (here : NodeId) : Steps FileSystem :=
  fun files request reply after ↦ Effect refuses known here files request reply after

end Tree

/-! ### Work on a tree -/

variable {α β : Type} {step : Steps FileSystem} {safe : FileSystem → Prop} {session : Session}
  {files : FileSystem}

/-- Work that keeps a tree safe: what it leaves when it succeeds and when it stops. -/
def Work.Alters (step : Steps FileSystem) (safe : FileSystem → Prop) (session : Session)
    (work : Work α) (files : FileSystem) (succeeded : α → FileSystem → Prop)
    (stopped : Stop → FileSystem → Prop) : Prop :=
  Evolving step safe work session files fun result _ after ↦
    match result with
    | .ok value => succeeded value after
    | .error stop => stopped stop after

namespace Work.Alters

variable {succeeded : α → FileSystem → Prop} {stopped : Stop → FileSystem → Prop}

protected theorem pure {value : α} (h : succeeded value files) :
    (Pure.pure value : Work α).Alters step safe session files succeeded stopped :=
  h

protected theorem fail {cause : Block.Failure} (h : stopped (.failed cause) files) :
    (Work.fail cause : Work α).Alters step safe session files succeeded stopped :=
  h

protected theorem bind {work : Work α} {next : α → Work β} {done : β → FileSystem → Prop}
    (h : work.Alters step safe session files succeeded stopped)
    (hnext : ∀ value session reached, succeeded value reached →
      (next value).Alters step safe session reached done stopped) :
    (work >>= next).Alters step safe session files done stopped :=
  Evolving.bind h (fun value session reached hvalue ↦ hnext value session reached hvalue)
    fun _ _ _ hstop ↦ hstop

theorem imp {work : Work α} {better : α → FileSystem → Prop} {left : Stop → FileSystem → Prop}
    (h : work.Alters step safe session files better left)
    (hsucceeded : ∀ value reached, better value reached → succeeded value reached)
    (hstopped : ∀ stop reached, left stop reached → stopped stop reached) :
    work.Alters step safe session files succeeded stopped := by
  refine Evolving.imp h fun result _ reached hends ↦ ?_
  cases result with
  | ok value => exact hsucceeded value reached hends
  | error stop => exact hstopped stop reached hends

theorem safer {work : Work α} {looser : FileSystem → Prop}
    (h : work.Alters step safe session files succeeded stopped)
    (hsafe : ∀ reached, safe reached → looser reached) :
    work.Alters step looser session files succeeded stopped :=
  Act.Evolves.safer h hsafe

protected theorem get {next : Session → Work β} {done : β → FileSystem → Prop}
    (h : (next session).Alters step safe session files done stopped) :
    (MonadState.get >>= next : Work β).Alters step safe session files done stopped :=
  Evolving.get h

/-- A request, and then the work that goes on with its reply. -/
theorem ask_bind {request : Request} {next : request.Reply → Work β}
    {done : β → FileSystem → Prop}
    (h : ∀ reply reached, step files request reply reached →
      safe reached ∧ (next reply).Alters step safe session reached done stopped) :
    (Work.ask request >>= next).Alters step safe session files done stopped :=
  Evolving.ask h

/-- A request whose error stops the work. -/
theorem askOr {request : Request} {answer : request.Reply → Except IoError α}
    {cause : IoError → Block.Failure}
    (h : ∀ reply reached, step files request reply reached → safe reached ∧
      match answer reply with
      | .ok value => succeeded value reached
      | .error error => stopped (.failed (cause error)) reached) :
    (Work.ask request >>= fun reply ↦ Work.orFail (answer reply) cause).Alters step safe session
      files succeeded stopped := by
  refine ask_bind fun reply reached hstep ↦ ?_
  obtain ⟨hsafe, hends⟩ := h reply reached hstep
  refine ⟨hsafe, ?_⟩
  cases hanswer : answer reply with
  | error error =>
    rw [hanswer] at hends
    exact hends
  | ok value =>
    rw [hanswer] at hends
    exact hends

/-- A request whose error stops the work, which else goes on with its value. -/
theorem askOr_bind {request : Request} {answer : request.Reply → Except IoError α}
    {cause : IoError → Block.Failure} {next : α → Work β} {done : β → FileSystem → Prop}
    (hsafe : ∀ reply reached, step files request reply reached → safe reached)
    (hstopped : ∀ reply reached error, step files request reply reached →
      answer reply = .error error → stopped (.failed (cause error)) reached)
    (hnext : ∀ reply reached value, step files request reply reached → answer reply = .ok value →
      (next value).Alters step safe session reached done stopped) :
    (Work.ask request >>= fun reply ↦ Work.orFail (answer reply) cause >>= next).Alters step safe
      session files done stopped := by
  refine ask_bind fun reply reached hstep ↦ ⟨hsafe reply reached hstep, ?_⟩
  cases hanswer : answer reply with
  | error error => exact hstopped reply reached error hstep hanswer
  | ok value => exact hnext reply reached value hstep hanswer

/-- Work that removes a directory when it stops early. -/
theorem onStop_discardTree {path : String} {work : Work α}
    {stopping : Stop → FileSystem → Prop}
    (h : work.Alters step safe session files succeeded stopping)
    (hclean : ∀ stop reached after, stopping stop reached →
      step reached (.discardTree path) () after → safe after ∧ stopped stop after) :
    (onStop (Work.ask (.discardTree path)) work).Alters step safe session files succeeded
      stopped := by
  refine Evolving.tryCatch h (fun _ _ _ hvalue ↦ hvalue) fun stop session reached hstop ↦ ?_
  refine Evolving.ask fun reply after hstep ↦ ?_
  obtain ⟨hsafe, hstopped⟩ := hclean stop reached after hstop hstep
  exact ⟨hsafe, Evolving.throw hstopped⟩

end Work.Alters

end Runbook.Session
