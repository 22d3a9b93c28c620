import Runbook.Proofs.Sandbox.Paths
import Runbook.Proofs.Session.Yields
import Runbook.Sandbox.System
import Runbook.Screenshot.Program
/-!
# A disk as a world

The steps of a disk say what the requests of work on files do (`Disk.Step`). Each operation either
is done, as on the file system of a sandbox, or fails; when writing fails, some of the bytes can
have been written. What is asked about files is answered as it is, and removing a file that is no
longer needed is done whenever it can be.

A temporary file gets a name that is free and that nobody else uses, in particular not that of the
`target` of the work. A program that has been handed a path may write there at any time until it is
known to have ended or has been let go, and to no other place. What such programs leave behind is
described by a parameter (`leaves`): a property of the bytes of the file at the path of a program
that has ended.

`Work.Takes` is `Evolving` for work that is begun and ends with no such program running: what it can
leave on the disk when it succeeds and when it stops.
-/

set_option autoImplicit false

namespace Runbook.Session

open Machine Sandbox Work

/-! ### Steps -/

/-- The files of a machine, and the paths that running programs have been handed to write to. -/
structure Disk where
  files : FileSystem
  writers : List (ProcessId × String)

namespace Disk

/-- A file system with some programs at work: the same, or one of them has written to its path. -/
def Scribbled (disk : Disk) (here : NodeId) (after : FileSystem) : Prop :=
  after = disk.files ∨ ∃ writer ∈ disk.writers, ∃ spot,
    disk.files.spot here (ByteText.ofText writer.2) = .ok spot ∧
      disk.files.AgreesOutside {spot} after ∧ after.IsSpare spot

/-- An operation is done, or it fails and nothing has changed. -/
def DoneOrNot {α : Type} (files : FileSystem) (done : α → FileSystem → Prop)
    (reply : Except IoError α) (after : FileSystem) : Prop :=
  (∀ value, reply = .ok value → done value after) ∧ (∀ error, reply = .error error → after = files)

/-- A new file of some name. -/
def MakesTemp (here : NodeId) (target : String) (files : FileSystem) (temp : String)
    (after : FileSystem) : Prop :=
  ∃ spot mode, files.spot here (ByteText.ofText temp) = .ok spot ∧
    FileSystem.isDots spot.2 = false ∧ FileSystem.endsInSlash (ByteText.ofText temp) = false ∧
      files.named spot = none ∧ files.spot here (ByteText.ofText target) ≠ .ok spot ∧
        after = (files.addNamed spot.1 spot.2 (.file []) mode).2

/-- What a request does to files, with the reply that it gets. Requests that no work on single files
asks may do anything. -/
def Effect (here : NodeId) (target : String) (files : FileSystem) :
    (request : Request) → request.Reply → FileSystem → Prop
  | .entryKind path follow, reply, after => after = files ∧
      ∀ kind, reply = Except.ok kind →
        ∃ id, files.find here (ByteText.ofText path) follow = .ok id ∧
          kind = System.kindOf (files.content id)
  | .mode path, reply, after => after = files ∧
      Except.toOption reply = files.mode? here (ByteText.ofText path)
  | .readText path, reply, after => after = files ∧
      (∀ text, reply = Except.ok text → ∃ bytes,
        files.readFile here (ByteText.ofText path) = .ok bytes ∧ Text.decode? bytes = some text) ∧
      (reply = Except.error IoError.notFound →
        ∀ id, files.find here (ByteText.ofText path) true ≠ .ok id)
  | .readBytes path, reply, after => after = files ∧
      ∀ bytes, reply = Except.ok bytes → files.readFile here (ByteText.ofText path) = .ok bytes
  | .makeDirectories path, _, after => files.Makes here (ByteText.ofText path) after
  | .makeTempFile _ _, reply, after => DoneOrNot files (MakesTemp here target files) reply after
  | .writeTemp path content, reply, after =>
      (reply = Except.ok () →
        ∃ mode, files.writeFile here (ByteText.ofText path) content mode = .ok after) ∧
      (∀ error, reply = Except.error error → after = files ∨
        ∃ part mode, files.writeFile here (ByteText.ofText path) part mode = .ok after)
  | .flush _, _, after => after = files
  | .sync _, _, after => after = files
  | .setMode path mode, reply, after => DoneOrNot files
      (fun (_ : Unit) after ↦ files.changeMode here (ByteText.ofText path) mode = .ok after)
      reply after
  | .rename source path, reply, after => DoneOrNot files
      (fun (_ : Unit) after ↦
        files.rename here (ByteText.ofText source) (ByteText.ofText path) = .ok after)
      reply after
  | .discardFile path, _, after =>
      after = (files.unlink here (ByteText.ofText path)).toOption.getD files
  | .clock, _, after => after = files
  | .spawn _, _, after => after = files
  | .collect _ _ _, _, after => after = files
  | .release _, _, after => after = files
  | _, _, _ => True

/-- The programs at work after a request, with the paths that they have been handed. -/
def writersAfter (writers : List (ProcessId × String)) :
    (request : Request) → request.Reply → List (ProcessId × String)
  | .spawn invocation, .ok process =>
      (invocation.environment.lookup Screenshot.pathVariable).toList.map (process, ·) ++ writers
  | .collect process _ _, .arrived (.ended _ _ _ _) => writers.filter (·.1 != process)
  | .release process, _ => writers.filter (·.1 != process)
  | _, _ => writers

/-- When a program that has been handed a path has ended, the bytes of a file at the path are as
`leaves` says. -/
def Left (here : NodeId) (leaves : Bytes → Prop) (writers : List (ProcessId × String))
    (after : FileSystem) : (request : Request) → request.Reply → Prop
  | .collect process _ _, .arrived (.ended _ _ _ _) => ∀ path, (process, path) ∈ writers →
      ∀ bytes, after.readFile here (ByteText.ofText path) = .ok bytes → leaves bytes
  | _, _ => True

/-- A step of a disk: programs that are at work write first, and then the request has its effect. -/
def Step (here : NodeId) (target : String) (leaves : Bytes → Prop) : Steps Disk :=
  fun disk request reply reached ↦
    ∃ between, disk.Scribbled here between ∧
      Effect here target between request reply reached.files ∧
      reached.writers = writersAfter disk.writers request reply ∧
      Left here leaves disk.writers reached.files request reply

variable {here : NodeId} {target : String} {leaves : Bytes → Prop} {files : FileSystem}

theorem Step.left {disk reached : Disk} {request : Request} {reply : request.Reply}
    (h : Step here target leaves disk request reply reached) :
    Left here leaves disk.writers reached.files request reply := by
  obtain ⟨-, -, -, -, hleft⟩ := h
  exact hleft

/-- Where no program is at work, only the request has an effect. -/
theorem Step.effect {request : Request} {reply : request.Reply} {reached : Disk}
    (h : Step here target leaves ⟨files, []⟩ request reply reached) :
    Effect here target files request reply reached.files ∧
      reached.writers = writersAfter [] request reply := by
  obtain ⟨between, rfl | ⟨writer, hwriter, -⟩, heffect, hwriters, -⟩ := h
  · exact ⟨heffect, hwriters⟩
  · cases hwriter

end Disk

/-! ### Work on files -/

variable {α β : Type} {step : Steps Disk} {safe : Disk → Prop} {session : Session}
  {files : FileSystem}

/-- Work that is begun with no program at work keeps the disk safe, and it ends with the same
session and with no program at work. -/
def Work.Takes (step : Steps Disk) (safe : Disk → Prop) (session : Session) (work : Work α)
    (files : FileSystem) (succeeded : α → FileSystem → Prop) (stopped : FileSystem → Prop) : Prop :=
  Evolving step safe work session ⟨files, []⟩ fun result reached disk ↦
    reached = session ∧ disk.writers = [] ∧
      (∀ value, result = .ok value → succeeded value disk.files) ∧
      (∀ stop, result = .error stop → stopped disk.files)

namespace Work.Takes

variable {succeeded : α → FileSystem → Prop} {stopped : FileSystem → Prop}

protected theorem pure {value : α} (h : succeeded value files) :
    (Pure.pure value : Work α).Takes step safe session files succeeded stopped :=
  ⟨rfl, rfl, fun _ heq ↦ Except.ok.inj heq ▸ h, nofun⟩

protected theorem throw {stop : Stop} (h : stopped files) :
    (throw stop : Work α).Takes step safe session files succeeded stopped :=
  ⟨rfl, rfl, nofun, fun _ _ ↦ h⟩

protected theorem fail {cause : Block.Failure} (h : stopped files) :
    (Work.fail cause : Work α).Takes step safe session files succeeded stopped :=
  .throw h

protected theorem bind {work : Work α} {next : α → Work β} {done : β → FileSystem → Prop}
    (h : work.Takes step safe session files succeeded stopped)
    (hnext : ∀ value reached, succeeded value reached →
      (next value).Takes step safe session reached done stopped) :
    (work >>= next).Takes step safe session files done stopped := by
  refine Evolving.bind h (fun value reached disk hok ↦ ?_) fun cause reached disk herror ↦ ?_
  · obtain ⟨files, writers⟩ := disk
    obtain ⟨rfl, rfl, hvalue, -⟩ := hok
    exact hnext value files (hvalue value rfl)
  · obtain ⟨hsession, hwriters, -, hstop⟩ := herror
    exact ⟨hsession, hwriters, nofun, fun _ _ ↦ hstop cause rfl⟩

theorem imp {work : Work α} {better : α → FileSystem → Prop} {left : FileSystem → Prop}
    (h : work.Takes step safe session files better left)
    (hsucceeded : ∀ value reached, better value reached → succeeded value reached)
    (hstopped : ∀ reached, left reached → stopped reached) :
    work.Takes step safe session files succeeded stopped :=
  Evolving.imp h fun _ _ _ ⟨hsession, hwriters, hvalue, hstop⟩ ↦ ⟨hsession, hwriters,
    fun value hresult ↦ hsucceeded value _ (hvalue value hresult),
    fun stop hresult ↦ hstopped _ (hstop stop hresult)⟩

/-- A request that starts no program. -/
protected theorem ask {request : Request} {here : NodeId} {target : String}
    {leaves : Bytes → Prop}
    (hwriters : ∀ reply, Disk.writersAfter [] request reply = [])
    (h : ∀ reply reached, Disk.Effect here target files request reply reached →
      safe ⟨reached, []⟩) :
    (Work.ask request).Takes (Disk.Step here target leaves) safe session files
      (Disk.Effect here target files request) stopped := by
  intro reply disk hstep
  obtain ⟨reached, writers⟩ := disk
  obtain ⟨heffect, rfl⟩ := hstep.effect
  rw [hwriters]
  refine ⟨h reply reached heffect, rfl, rfl, fun value heq ↦ ?_, nofun⟩
  cases heq
  exact heffect

/-- The value of an answer of the machine, unless that is an error. -/
protected theorem orFail {answer : Except IoError α} {cause : IoError → Block.Failure}
    (h : ∀ error, answer = .error error → stopped files) :
    (Work.orFail answer cause).Takes step safe session files
      (fun value reached ↦ answer = .ok value ∧ reached = files) stopped := by
  cases answer with
  | ok value => exact .pure ⟨rfl, rfl⟩
  | error error => exact .throw (h error rfl)

section AskOr

variable {request : Request} {answer : request.Reply → Except IoError α}
  {cause : IoError → Block.Failure} {here : NodeId} {target : String} {leaves : Bytes → Prop}
  (hwriters : ∀ reply, Disk.writersAfter [] request reply = [])
  (hsafe : ∀ reply reached, Disk.Effect here target files request reply reached →
    safe ⟨reached, []⟩)
  (hstopped : ∀ reply reached, Disk.Effect here target files request reply reached →
    ∀ error, answer reply = .error error → stopped reached)
include hwriters hsafe hstopped

/-- A request whose error stops the work. -/
protected theorem askOr
    (hdone : ∀ reply reached, Disk.Effect here target files request reply reached →
      ∀ value, answer reply = .ok value → succeeded value reached) :
    (Work.ask request >>= fun reply ↦ Work.orFail (answer reply) cause).Takes
      (Disk.Step here target leaves) safe session files succeeded stopped := by
  refine .bind (.ask hwriters hsafe) fun reply reached heffect ↦ ?_
  refine imp (.orFail (hstopped reply reached heffect)) (fun value left ⟨hvalue, heq⟩ ↦ ?_)
    fun _ h ↦ h
  exact heq ▸ hdone reply reached heffect value hvalue

/-- A request whose error stops the work, which else goes on with its value. -/
theorem askOr_bind {next : α → Work β} {done : β → FileSystem → Prop}
    (hnext : ∀ reply reached, Disk.Effect here target files request reply reached →
      ∀ value, answer reply = .ok value →
        (next value).Takes (Disk.Step here target leaves) safe session reached done stopped) :
    (Work.ask request >>= fun reply ↦ Work.orFail (answer reply) cause >>= next).Takes
      (Disk.Step here target leaves) safe session files done stopped := by
  refine .bind (.ask hwriters hsafe) fun reply reached heffect ↦ ?_
  refine .bind (.orFail (hstopped reply reached heffect)) fun value left ⟨hvalue, heq⟩ ↦ ?_
  exact heq ▸ hnext reply reached heffect value hvalue

end AskOr

/-- Work that cleans up when it stops early. -/
protected theorem onStop {cleanUp : Work Unit} {work : Work α} {stopping : FileSystem → Prop}
    (h : work.Takes step safe session files succeeded stopping)
    (hclean : ∀ reached, stopping reached →
      cleanUp.Takes step safe session reached (fun _ ↦ stopped) stopped) :
    (onStop cleanUp work).Takes step safe session files succeeded stopped := by
  refine Evolving.tryCatch h (fun value reached disk hok ↦ ?_) fun cause reached disk herror ↦ ?_
  · obtain ⟨hsession, hwriters, hvalue, -⟩ := hok
    exact ⟨hsession, hwriters, hvalue, nofun⟩
  · obtain ⟨reached, writers⟩ := disk
    obtain ⟨rfl, rfl, -, hstop⟩ := herror
    exact (hclean reached (hstop cause rfl)).bind fun _ _ hstopped ↦ .throw hstopped

protected theorem get {next : Session → Work β} {done : β → FileSystem → Prop}
    (h : (next session).Takes step safe session files done stopped) :
    (MonadState.get >>= next : Work β).Takes step safe session files done stopped :=
  Evolving.get h

end Work.Takes

end Runbook.Session
