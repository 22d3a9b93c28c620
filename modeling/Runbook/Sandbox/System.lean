import Runbook.Sandbox.Program
/-!
# The system of a sandbox

A system is a file system together with processes and what they have open. `System.perform` answers
one call of a process, unless the call has to wait or ends the process. `System.advance` lets every
process take one step; when none of them can, the clock moves on to the next moment at which one
can.
-/

set_option autoImplicit false

namespace Runbook.Sandbox

open Machine

/-! ### State -/

/-- The number of something open. -/
abbrev OpenId := Nat

/-- The number of a pipe. -/
abbrev PipeId := Nat

/-- What is open. -/
inductive OpenTarget where
  | node (id : NodeId)
  | pipeExit (pipe : PipeId)
  | pipeEntry (pipe : PipeId)
deriving DecidableEq, Repr

/-- Something open, which descriptors share. -/
structure OpenFile where
  target : OpenTarget
  offset : Nat
  /-- Writing goes to the end. -/
  append : Bool
  /-- How many descriptors there are for it. -/
  users : Nat
deriving DecidableEq, Repr

/-- Whether a process runs or has ended. -/
inductive Activity where
  | running (program : Program)
  | ended (status : ExitStatus)

/-- A process. -/
structure Process where
  id : ProcessId
  parent : ProcessId
  group : ProcessId
  activity : Activity
  /-- The directory that it works in. -/
  directory : NodeId
  mask : Nat
  descriptors : List (Descriptor × OpenId)
  dispositions : List (Nat × Disposition)
  /-- Signals that have been caught and not yet asked for. -/
  caught : List Nat

namespace Process

/-- How a process that has ended did so. -/
def exitStatus? (process : Process) : Option ExitStatus :=
  match process.activity with
  | .running _ => none
  | .ended status => some status

/-- What a process does about a signal. -/
def disposition (process : Process) (number : Nat) : Disposition :=
  (process.dispositions.lookup number).getD .standard

/-- The first free descriptor from a number on, within a bound. -/
def freeFrom (process : Process) : Nat → Descriptor → Descriptor
  | 0, least => least
  | fuel + 1, least =>
    if (process.descriptors.lookup least).isSome then freeFrom process fuel (least + 1) else least

/-- The first free descriptor from a number on. -/
def free (process : Process) (least : Descriptor) : Descriptor :=
  process.freeFrom process.descriptors.length least

/-- The permission bits that a process gives something new. -/
def modeFor (process : Process) (mode : Nat) : Nat := mode ^^^ (mode &&& process.mask)

end Process

/-- A system. -/
structure System where
  files : FileSystem
  processes : List Process
  opened : List (OpenId × OpenFile)
  pipes : List (PipeId × Bytes)
  /-- The next number for something open and for pipes. -/
  fresh : Nat
  nextProcess : ProcessId
  clock : Instant

/-- The answer to a call: none yet, or the answer with the system after it, or the signal that ends
the process. -/
inductive Outcome (α : Type) where
  | blocked
  | answered (answer : α) (system : System)
  | killed (signal : Nat)

namespace System

/-! ### Constants -/

/-- The parent of the processes that are started from outside. -/
def outside : ProcessId := 0

/-- The process that takes over processes whose parent has ended. -/
def orphanage : ProcessId := 1

/-- How many bytes a pipe holds. -/
def pipeSize : Nat := 65536

/-- How long a step takes. -/
def stepTime : Nat := 20000

/-- The first descriptor that a program keeps for itself. -/
def leastPrivate : Descriptor := 10

/-- The number of the signal that ends a process in any case. -/
def killSignal : Nat := 9

/-- The number of the signal for a pipe that nobody reads. -/
def pipeSignal : Nat := 13

/-- The number of the signal that asks a process to end. -/
def terminateSignal : Nat := 15

/-- The signals that do nothing unless they are caught. -/
def quietSignals : List Nat := [0, 17, 18, 19, 20, 21, 22, 23, 28]

variable (system : System)

/-! ### What is open -/

/-- Something open by its number. -/
def open? (id : OpenId) : Option OpenFile := system.opened.lookup id

/-- The system with something open changed. -/
def updateOpen (id : OpenId) (change : OpenFile → OpenFile) : System :=
  { system with
    opened := system.opened.map fun entry =>
      if entry.1 = id then (id, change entry.2) else entry }

/-- Something new that is open. -/
def addOpen (target : OpenTarget) (append : Bool) (users : Nat) : OpenId × System :=
  (system.fresh,
    { system with
      opened := (system.fresh, ⟨target, 0, append, users⟩) :: system.opened
      fresh := system.fresh + 1 })

/-- A new pipe: its exit and its entry, each with one user. -/
def addPipe : OpenId × OpenId × System :=
  let pipe := system.fresh
  let system := { system with pipes := (pipe, []) :: system.pipes, fresh := pipe + 1 }
  let (exit, system) := system.addOpen (.pipeExit pipe) false 1
  let (entry, system) := system.addOpen (.pipeEntry pipe) false 1
  (exit, entry, system)

/-- One more descriptor for something open. -/
def retain (id : OpenId) : System :=
  system.updateOpen id fun file => { file with users := file.users + 1 }

/-- One descriptor less for something open, which is closed with the last one. -/
def drop (id : OpenId) : System :=
  let system := system.updateOpen id fun file => { file with users := file.users - 1 }
  { system with opened := system.opened.filter fun entry => entry.2.users != 0 }

/-- Whether something is open. -/
def hasOpen (target : OpenTarget) : Bool :=
  system.opened.any fun entry => entry.2.target = target

/-- What a pipe holds. -/
def pipeBytes (pipe : PipeId) : Bytes := (system.pipes.lookup pipe).getD []

/-- The system with what a pipe holds replaced. -/
def setPipe (pipe : PipeId) (bytes : Bytes) : System :=
  { system with
    pipes := system.pipes.map fun entry => if entry.1 = pipe then (pipe, bytes) else entry }

/-! ### Processes -/

/-- A process by its number. -/
def process? (id : ProcessId) : Option Process :=
  system.processes.find? fun process => process.id = id

/-- The system with a process changed. -/
def update (id : ProcessId) (change : Process → Process) : System :=
  { system with
    processes := system.processes.map fun process =>
      if process.id = id then change process else process }

/-- The system without a process. -/
def remove (id : ProcessId) : System :=
  { system with processes := system.processes.filter fun process => process.id != id }

/-- The system in which a process has ended. What it had open is closed, and its children are taken
over. -/
def finish (id : ProcessId) (status : ExitStatus) : System :=
  match system.process? id with
  | none => system
  | some process =>
    let closed := process.descriptors.foldl (fun system entry => system.drop entry.2) system
    let kept := closed.processes.filterMap fun other =>
      if other.id = id then
        if other.parent = orphanage then none
        else some { other with activity := .ended status, descriptors := [] }
      else if other.parent = id then
        if other.exitStatus?.isSome then none else some { other with parent := orphanage }
      else some other
    { closed with processes := kept }

/-- The system in which a signal has come to a process. -/
def deliver (id : ProcessId) (number : Nat) : System :=
  match system.process? id with
  | none => system
  | some process =>
    if process.exitStatus?.isSome then system
    else if number = killSignal then system.finish id (.signaled number)
    else
      match process.disposition number with
      | .ignored => system
      | .caught => system.update id fun process =>
          { process with caught := process.caught ++ [number] }
      | .standard =>
        if number ∈ quietSignals then system else system.finish id (.signaled number)

/-- The system in which a signal has come to all processes of a group. -/
def deliverGroup (group : ProcessId) (number : Nat) : System :=
  let members := system.processes.filter fun process => process.group = group
  members.foldl (fun system process => system.deliver process.id number) system

/-! ### Descriptors -/

/-- What a process has open under a descriptor. -/
def openOf? (process : Process) (descriptor : Descriptor) : Option (OpenId × OpenFile) := do
  let id ← process.descriptors.lookup descriptor
  return (id, ← system.open? id)

/-- The system in which a process knows something open by a descriptor. -/
def setDescriptor (id : ProcessId) (descriptor : Descriptor) (file : OpenId) : System :=
  system.update id fun process =>
    { process with
      descriptors := (descriptor, file) ::
        process.descriptors.filter fun entry => entry.1 != descriptor }

/-- The system in which a process has closed a descriptor. -/
def closeDescriptor (process : Process) (descriptor : Descriptor) : System :=
  match process.descriptors.lookup descriptor with
  | none => system
  | some file =>
    (system.drop file).update process.id fun process =>
      { process with
        descriptors := process.descriptors.filter fun entry => entry.1 != descriptor }

/-- A second descriptor for what a process has open. -/
def duplicate (process : Process) (descriptor : Descriptor) (target : Option Descriptor)
    (least : Descriptor) : Except Errno Descriptor × System :=
  match process.descriptors.lookup descriptor with
  | none => (.error .badDescriptor, system)
  | some file =>
    match target with
    | none =>
      let free := process.free least
      (.ok free, (system.retain file).setDescriptor process.id free file)
    | some target =>
      if target = descriptor then (.ok target, system)
      else
        (.ok target,
          ((system.retain file).closeDescriptor process target).setDescriptor
              process.id target file)

/-- The descriptors that stand for a path. -/
def devicePaths : List (String × Descriptor) :=
  [("/dev/stdin", 0), ("/dev/stdout", 1), ("/dev/stderr", 2)]

/-- Opens a file for a process. -/
def openFile (process : Process) (path : String) (how : FileSystem.OpenHow) (append : Bool) :
    Except Errno Descriptor × System :=
  match devicePaths.lookup path with
  | some descriptor => system.duplicate process descriptor none 0
  | none =>
    match system.files.openNode process.directory path how (process.modeFor 0o666) with
    | .error code => (.error code, system)
    | .ok (node, files) =>
      let (file, system) := { system with files }.addOpen (.node node) append 1
      let free := process.free 0
      (.ok free, system.setDescriptor process.id free file)

/-- Makes a pipe for a process. -/
def openPipe (process : Process) : (Descriptor × Descriptor) × System :=
  let (exit, entry, system) := system.addPipe
  let reader := process.free 0
  let writer := process.free (reader + 1)
  ((reader, writer),
    (system.setDescriptor process.id reader exit).setDescriptor process.id writer entry)

/-! ### Reading and writing -/

/-- Reads from a node. -/
def readNode (id : OpenId) (file : OpenFile) (node : NodeId) (count : Nat) :
    Except Errno Bytes × System :=
  match system.files.content node with
  | .file bytes =>
    let read := (bytes.drop file.offset).take count
    (.ok read, system.updateOpen id fun file => { file with offset := file.offset + read.length })
  | .device .zero => (.ok (List.replicate count 0), system)
  | .directory _ _ => (.error .isDirectory, system)
  | _ => (.ok [], system)

/-- Reads for a process. -/
def read (process : Process) (descriptor : Descriptor) (count : Nat) :
    Outcome (Except Errno Bytes) :=
  match system.openOf? process descriptor with
  | none => .answered (.error .badDescriptor) system
  | some (id, file) =>
    match file.target with
    | .node node =>
      let (answer, system) := system.readNode id file node count
      .answered answer system
    | .pipeExit pipe =>
      let held := system.pipeBytes pipe
      if held = [] then
        if system.hasOpen (.pipeEntry pipe) then .blocked else .answered (.ok []) system
      else .answered (.ok (held.take count)) (system.setPipe pipe (held.drop count))
    | .pipeEntry _ => .answered (.error .badDescriptor) system

/-- Bytes with others written over them from a place on. -/
def overwrite (bytes : Bytes) (place : Nat) (written : Bytes) : Bytes :=
  let before := bytes.take place
  before ++ List.replicate (place - before.length) 0 ++ written ++
      bytes.drop (place + written.length)

/-- Writes to a node. -/
def writeNode (id : OpenId) (file : OpenFile) (node : NodeId) (bytes : Bytes) :
    Except Errno Nat × System :=
  match system.files.content node with
  | .file held =>
    let place := if file.append then held.length else file.offset
    let system := { system with
      files := system.files.setContent node (.file (overwrite held place bytes)) }
    (.ok bytes.length,
      system.updateOpen id fun file => { file with offset := place + bytes.length })
  | .device _ => (.ok bytes.length, system)
  | _ => (.error .badDescriptor, system)

/-- Writes for a process. -/
def write (process : Process) (descriptor : Descriptor) (bytes : Bytes) :
    Outcome (Except Errno Nat) :=
  match system.openOf? process descriptor with
  | none => .answered (.error .badDescriptor) system
  | some (id, file) =>
    match file.target with
    | .node node =>
      let (answer, system) := system.writeNode id file node bytes
      .answered answer system
    | .pipeEntry pipe =>
      if !system.hasOpen (.pipeExit pipe) then
        if process.disposition pipeSignal = .standard then .killed pipeSignal
        else .answered (.error .brokenPipe) system
      else
        let held := system.pipeBytes pipe
        let room := pipeSize - held.length
        if room = 0 then .blocked
        else
          .answered (.ok (min room bytes.length)) (system.setPipe pipe (held ++ bytes.take room))
    | .pipeExit _ => .answered (.error .badDescriptor) system

/-! ### Files -/

/-- What kind of entry a node is. -/
def kindOf : Content → EntryKind
  | .file _ => .file
  | .directory _ _ => .directory
  | .link _ => .link
  | .device _ => .special
  | .program _ => .file

/-- How many bytes a node holds. -/
def sizeOf : Content → Nat
  | .file bytes => bytes.length
  | .link target => target.length
  | _ => 0

/-- What stands at a path. -/
def status (here : NodeId) (path : String) (follow : Bool) : Except Errno FileStatus := do
  let id ← system.files.find here path follow
  let node := system.files.node id
  return ⟨id, kindOf node.content, node.mode, sizeOf node.content⟩

/-- The program of the sandbox that a path leads to. -/
def programAt (here : NodeId) (path : String) : Option String :=
  match system.files.find here path true with
  | .ok id =>
    match system.files.content id with
    | .program name => some name
    | _ => none
  | .error _ => none

/-- The names in a directory. -/
def list (here : NodeId) (path : String) : Except Errno (List String) := do
  let id ← system.files.find here path true
  if system.files.isDirectory id then return (system.files.entries id).map Prod.fst
  else .error .notDirectory

/-- The file system after a change; a change of the working directory leaves it as it is. -/
def changeFiles (process : Process) : FileChange → Except Errno FileSystem
  | .makeDirectory path =>
    system.files.makeDirectory process.directory path (process.modeFor 0o777)
  | .removeDirectory path => system.files.removeDirectory process.directory path
  | .unlink path => system.files.unlink process.directory path
  | .rename source target => system.files.rename process.directory source target
  | .makeLink target path => system.files.makeLink process.directory target path
  | .addName source path => system.files.addName process.directory source path
  | .changeMode path mode => system.files.changeMode process.directory path mode
  | .workIn _ => .ok system.files

/-- Makes a change for a process. -/
def change (process : Process) (change : FileChange) : Except Errno Unit × System :=
  match change with
  | .workIn path =>
    match system.files.find process.directory path true with
    | .error code => (.error code, system)
    | .ok id =>
      if system.files.isDirectory id then
        (.ok (), system.update process.id fun process => { process with directory := id })
      else (.error .notDirectory, system)
  | _ =>
    match system.changeFiles process change with
    | .error code => (.error code, system)
    | .ok files => (.ok (), { system with files })

/-! ### Signals and children -/

/-- Sends a signal for a process, which may be among those that it ends. -/
def signal (process : Process) (target : Int) (number : Nat) : Outcome (Except Errno Unit) :=
  let group := if target = 0 then process.group else target.natAbs
  let reached := system.processes.filter fun other =>
    if 0 < target then other.id = target.toNat else other.group = group
  if reached.isEmpty then .answered (.error .noProcess) system
  else
    .answered (.ok ())
      (reached.foldl (fun system other => system.deliver other.id number) system)

/-- Looks for a child that has ended. -/
def wait (process : Process) (child : Option ProcessId) (block interruptible : Bool) :
    Outcome (Except Errno (Option (ProcessId × ExitStatus))) :=
  let children := system.processes.filter fun other =>
    other.parent = process.id && (child.isNone || child = some other.id)
  let ended := children.findSome? fun other =>
      other.exitStatus?.map fun status => (other.id, status)
  match ended with
  | some (id, status) => .answered (.ok (some (id, status))) (system.remove id)
  | none =>
    if children.isEmpty then .answered (.error .noChild) system
    else if interruptible && process.caught ≠ [] then .answered (.error .interrupted) system
    else if block then .blocked
    else .answered (.ok none) system

/-! ### Steps -/

/-- Answers a call of a process. -/
def perform (process : Process) : (call : Call) → Outcome call.Reply
  | .pause => .answered () system
  | .openFile path how append =>
    let (answer, system) := system.openFile process path how append
    .answered answer system
  | .close descriptor => .answered () (system.closeDescriptor process descriptor)
  | .duplicate descriptor target least =>
    let (answer, system) := system.duplicate process descriptor target least
    .answered answer system
  | .pipe =>
    let (answer, system) := system.openPipe process
    .answered answer system
  | .read descriptor count => system.read process descriptor count
  | .write descriptor bytes => system.write process descriptor bytes
  | .status path follow => .answered (system.status process.directory path follow) system
  | .programAt path => .answered (system.programAt process.directory path) system
  | .list path => .answered (system.list process.directory path) system
  | .readLink path => .answered (system.files.readLink process.directory path) system
  | .canonical path => .answered (system.files.canonical process.directory path) system
  | .workingDirectory => .answered (system.files.pathTo process.directory) system
  | .change change =>
    let (answer, system) := system.change process change
    .answered answer system
  | .identity => .answered (process.id, process.parent) system
  | .signal target number => system.signal process target number
  | .handle number disposition =>
    .answered () (system.update process.id fun process =>
      { process with
        dispositions := (number, disposition) ::
          process.dispositions.filter fun entry => entry.1 != number })
  | .takeSignals =>
    .answered process.caught (system.update process.id fun process => { process with caught := [] })
  | .wait child block interruptible => system.wait process child block interruptible
  | .clock => .answered system.clock system
  | .sleepUntil instant => if instant ≤ system.clock then .answered () system else .blocked
  | .mask mask =>
    .answered process.mask (system.update process.id fun process =>
      { process with mask := mask.getD process.mask })
  | .become =>
    let kept := process.descriptors.filter fun entry => leastPrivate ≤ entry.1
    .answered () (kept.foldl (fun system entry => system.closeDescriptor process entry.1)
      (system.update process.id fun process =>
        { process with
          caught := []
          dispositions := process.dispositions.filter fun entry => entry.2 = .ignored }))

/-- The system in which a process goes on with a program, unless it has ended. -/
def goOn (id : ProcessId) (program : Program) : System :=
  system.update id fun process =>
    match process.activity with
    | .running _ => { process with activity := .running program }
    | .ended _ => process

/-- The system in which a process has started another one. What it has open is shared, and what it
catches is not caught by the other one. -/
def startChild (process : Process) (program : Program) : ProcessId × System :=
  let id := system.nextProcess
  let child : Process :=
    { process with
      id
      parent := process.id
      activity := .running program
      dispositions := process.dispositions.filter fun entry => entry.2 = .ignored
      caught := [] }
  let shared := process.descriptors.foldl (fun system entry => system.retain entry.2) system
  (id, { shared with processes := shared.processes ++ [child], nextProcess := id + 1 })

/-- Lets a process take a step; none if it has to wait. -/
def step? (id : ProcessId) : Option System :=
  match system.process? id with
  | none => none
  | some process =>
    match process.activity with
    | .ended _ => none
    | .running (.exit status) => some (system.finish id (.exited (status % 256)))
    | .running (.fork child next) =>
      let (started, system) := system.startChild process child
      some (system.goOn id (next started))
    | .running (.call call next) =>
      match system.perform process call with
      | .blocked => none
      | .answered answer system => some (system.goOn id (next answer))
      | .killed signal => some (system.finish id (.signaled signal))

/-- Lets each of some processes take a step: whether one could. -/
def stepAll : List ProcessId → System → Bool × System
  | [], system => (false, system)
  | id :: ids, system =>
    match system.step? id with
    | none => stepAll ids system
    | some system => (true, (stepAll ids system).2)

/-- The moment that a process sleeps to. -/
def wakeTime? (process : Process) : Option Instant :=
  match process.activity with
  | .running (.call (.sleepUntil instant) _) => some instant
  | _ => none

/-- The first of some moments. -/
def earliest? (moments : List Instant) : Option Instant :=
  moments.foldl (fun first moment => some (min (first.getD moment) moment)) none

/-- Lets every process take a step. When none can, the clock goes on to the first moment at which
one can, but not past a limit; `none` if that moment never comes. -/
def advance? (limit : Option Instant) : Option System :=
  let (moved, after) := stepAll (system.processes.map Process.id) system
  if moved then some { after with clock := after.clock + stepTime }
  else
    let moments := system.processes.filterMap wakeTime? ++ limit.toList
    (earliest? moments).map fun moment => { system with clock := max system.clock moment }

end System

end Runbook.Sandbox
