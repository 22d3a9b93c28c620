import Runbook.Machine.Act
import Runbook.Path.Basic
import Runbook.Utility.Table
/-!
# Sandboxes as machines

A workspace is a system together with what is known from outside about the processes that were
started from there. It answers the requests of acts, so documents can be run in memory. While a
request waits, the processes go on step by step.
-/

set_option autoImplicit false

namespace Runbook.Sandbox

open Machine

/-! ### State -/

/-- What is done with the output of a process. -/
inductive Keeping where
  /-- It stays until it is read. -/
  | kept
  /-- It is read and dropped. -/
  | dropped
  /-- It is read and gathered. -/
  | gathered
deriving DecidableEq, Repr

/-- What is known from outside about a process that was started from there. -/
structure Attachment where
  /-- Where its input is written. -/
  input : Option OpenId
  /-- Where its output is read. -/
  output : OpenId
  /-- Where its error output is read, if it is kept. -/
  errors : Option OpenId
  keeping : Keeping
  /-- What it has still to be given. -/
  toFeed : Bytes
  inputError : Option IoError
  /-- What it has written, the last piece first. -/
  outputRead : List Bytes
  errorsRead : List Bytes
  /-- How it ended, once that has been asked for. -/
  status : Option ExitStatus

/-- A sandbox as it is seen from outside. -/
structure Workspace where
  system : System
  /-- The directory that relative paths start from. -/
  directory : NodeId
  attachments : List (ProcessId × Attachment)
  /-- The number for the next temporary file. -/
  nextTemporary : Nat
  /-- What the user has been told, the last message first. -/
  messages : List (Level × String)

namespace Workspace

variable (workspace : Workspace)

/-! ### Files -/

/-- The file system. -/
def files : FileSystem := workspace.system.files

/-- The workspace with its file system replaced. -/
def setFiles (files : FileSystem) : Workspace :=
  { workspace with system := { workspace.system with files } }

/-- An error number as an error. -/
def asError {α : Type} : Except Errno α → Except IoError α
  | .ok value => .ok value
  | .error code => .error (.os code)

/-- The answer to an operation that changes files. -/
def changed (result : Except Errno FileSystem) : Except IoError Unit × Workspace :=
  match result with
  | .ok files => (.ok (), workspace.setFiles files)
  | .error code => (.error (.os code), workspace)

/-- Makes a directory and those above it, as far as they are missing, within a bound. -/
def makeDirectories : Nat → FileSystem → String → Except Errno FileSystem
  | 0, _, _ => .error .loop
  | fuel + 1, files, path =>
    let here := workspace.directory
    let isDirectory (files : FileSystem) : Bool :=
      match files.find here path true with
      | .ok id => files.isDirectory id
      | .error _ => false
    let attempt (files : FileSystem) : Except Errno FileSystem :=
      match files.makeDirectory here path 0o755 with
      | .ok made => .ok made
      | .error code => if isDirectory files then .ok files else .error code
    if path = "" then .ok files
    else
      match files.makeDirectory here path 0o755 with
      | .ok made => .ok made
      | .error code =>
        if code = Errno.noEntry then
          match Path.parent? path with
          | none => .error code
          | some parent =>
            match makeDirectories fuel files parent with
            | .ok files => attempt files
            | .error code => .error code
        else if isDirectory files then .ok files
        else .error code

/-- The letters of the names of temporary files. -/
def temporaryName (number : Nat) : String :=
  let digits := toString number
  ".tmp" ++ String.ofList (List.replicate (6 - digits.length) '0') ++ digits

/-- A new name in a directory. -/
def freshPath (directory ending : String) : String × Workspace :=
  (Path.join directory (temporaryName workspace.nextTemporary ++ ending),
    { workspace with nextTemporary := workspace.nextTemporary + 1 })

/-- Makes an empty file of a new name. -/
def makeTempFile (directory ending : String) : Except IoError String × Workspace :=
  let (path, workspace) := workspace.freshPath directory ending
  match workspace.files.openNode workspace.directory (ByteText.ofText path)
      ⟨true, true, false, true⟩
      0o600 with
  | .ok (_, files) => (.ok path, workspace.setFiles files)
  | .error code => (.error (.os code), workspace)

/-- Makes an empty directory of a new name. -/
def makeTempDirectory (directory : String) : Except IoError String × Workspace :=
  let (path, workspace) := workspace.freshPath directory ""
  match workspace.files.makeDirectory workspace.directory (ByteText.ofText path) 0o700 with
  | .ok files => (.ok path, workspace.setFiles files)
  | .error code => (.error (.os code), workspace)

/-- Removes a directory with all that is in it, as far as that can be done. -/
def removeTree (path : String) : Except IoError Unit × Workspace :=
  let (result, files) := workspace.files.removeTree workspace.directory path
  (asError result, workspace.setFiles files)

/-- Copies the content and the permission bits of a file. -/
def copyFile (source target : String) : Except IoError FileSystem := do
  let files := workspace.files
  let id ← asError (files.find workspace.directory source true)
  match files.content id with
  | .file bytes =>
    let mode := (files.node id).mode
    let (copy, files) ← asError
      (files.openNode workspace.directory target ⟨true, false, true, true⟩ mode)
    match files.content copy with
    | .file _ => return (files.setContent copy (.file bytes)).setMode copy mode
    | _ => return files
  | _ => .error .notFile

/-- The entries of a directory and what they are. -/
def entries (path : String) : Except Errno (List (String × EntryKind)) := do
  let files := workspace.files
  let id ← files.find workspace.directory path true
  if files.isDirectory id then
    return (files.entries id).map fun (name, child) =>
      (ByteText.toText name, System.kindOf (files.content child))
  else .error .notDirectory

/-- What a file holds, as text. -/
def readText (path : String) : Except IoError String := do
  let bytes ← asError (workspace.files.readFile workspace.directory path)
  match Text.decode? bytes with
  | some text => return text
  | none => .error .notText

/-! ### Starting processes -/

/-- The variables that every process is given. -/
def environment : List (String × String) := [
  ("PATH", "/usr/local/sbin:/usr/local/bin:/usr/sbin:/usr/bin:/sbin:/bin"), ("HOME", "/root")]

/-- The first path of some directories at which something stands. -/
def searchProgram (files : FileSystem) (name : String) : List String → Option String
  | [] => none
  | directory :: rest =>
    let path := directory ++ "/" ++ name
    match files.find FileSystem.root path true with
    | .ok id => if files.isDirectory id then searchProgram files name rest else some path
    | .error _ => searchProgram files name rest

/-- The path of a program, looked at from a directory. -/
def programPath (files : FileSystem) (here : NodeId) (program : String) : Except Errno String := do
  let path ←
    if '/' ∈ program.toList then pure program
    else
      match if program = "" then none else
          searchProgram files program (((environment.lookup "PATH").getD "").splitOn ":") with
      | some path => pure path
      | none => .error .noEntry
  let id ← files.find here path true
  if files.isDirectory id || (files.node id).mode &&& 0o111 = 0 then .error .denied
  else
    match files.content id with
    | .file bytes =>
      if (Shell.interpreterLine? bytes).isSome then return path else .error .notExecutable
    | _ => return path

/-- The program that a process from outside runs. -/
def programOf (path : String) (arguments : List String) (environment : List (String × String)) :
    Program :=
  Shell.start (Utility.programs Utility.maxProgramDepth) path arguments environment fun
    | .ok status => .exit status
    | .error _ => .exit 127

/-- What is open for a process that reads nothing, or drops what it writes. -/
def openNull (system : System) : OpenId × System :=
  match system.files.find FileSystem.root "/dev/null" true with
  | .ok node => system.addOpen (.node node) false 1
  | .error _ => system.addOpen (.node FileSystem.root) false 1

/-- Starts a process. -/
def spawn (invocation : Invocation) : Except IoError ProcessId × Workspace :=
  let system := workspace.system
  let found := do
    let here ← system.files.find workspace.directory (ByteText.ofText invocation.cwd) true
    if system.files.isDirectory here then
      let path ← programPath system.files here (ByteText.ofText invocation.program)
      return (here, path)
    else .error Errno.notDirectory
  match found with
  | .error code => (.error (.os code), workspace)
  | .ok (here, path) =>
    let id := system.nextProcess
    let (stdin, input, system) :=
      if invocation.readsInput then
        let (exit, entry, system) := system.addPipe
        (exit, some entry, system)
      else
        let (null, system) := openNull system
        (null, none, system)
    let (output, stdout, system) := system.addPipe
    let (errors, stderr, system) :=
      if invocation.keepsErrors then
        let (exit, entry, system) := system.addPipe
        (some exit, entry, system)
      else
        let (null, system) := openNull system
        (none, null, system)
    let arguments := invocation.program :: invocation.args
    let assigned := invocation.environment.foldl (fun environment (name, value) =>
      Shell.State.replaceValue name (ByteText.ofText value) environment) environment
    let process : Process := {
      id
      parent := System.outside
      group := if invocation.leadsGroup then id else System.outside
      activity := .running (programOf path (arguments.map ByteText.ofText) assigned)
      directory := here
      mask := 0o022
      descriptors := [(0, stdin), (1, stdout), (2, stderr)]
      dispositions := []
      caught := [] }
    let attachment : Attachment :=
      ⟨input, output, errors, .kept, [], none, [], [], none⟩
    (.ok id,
      { workspace with
        system := { system with
          processes := system.processes ++ [process], nextProcess := id + 1 }
        attachments := (id, attachment) :: workspace.attachments })

/-! ### Attending to processes -/

/-- What is known about a process. -/
def attachment? (process : ProcessId) : Option Attachment := workspace.attachments.lookup process

/-- The workspace with what is known about a process replaced. -/
def setAttachment (process : ProcessId) (attachment : Attachment) : Workspace :=
  { workspace with
    attachments := workspace.attachments.map fun entry =>
      if entry.1 = process then (process, attachment) else entry }

/-- All that can be read at an end of a pipe, and the system after it. -/
def readPipe (system : System) (id : OpenId) : Bytes × System :=
  match (system.open? id).map OpenFile.target with
  | some (.pipeExit pipe) => (system.pipeBytes pipe, system.setPipe pipe [])
  | _ => ([], system)

/-- Whether there will be nothing more to read. -/
def isClosed (system : System) (id : OpenId) : Bool :=
  match (system.open? id).map OpenFile.target with
  | some (.pipeExit pipe) => system.pipeBytes pipe = [] && !system.hasOpen (.pipeEntry pipe)
  | _ => true

/-- Gives a process of its input what can be given now. -/
def feed (system : System) (attachment : Attachment) : Attachment × System :=
  match attachment.input with
  | none => (attachment, system)
  | some id =>
    match (system.open? id).map OpenFile.target with
    | some (.pipeEntry pipe) =>
      if attachment.toFeed = [] then ({ attachment with input := none }, system.drop id)
      else if !system.hasOpen (.pipeExit pipe) then
        ({ attachment with
          input := none, toFeed := [], inputError := some (.os Errno.brokenPipe) }, system.drop id)
      else
        let held := system.pipeBytes pipe
        let room := System.pipeSize - held.length
        ({ attachment with toFeed := attachment.toFeed.drop room },
          system.setPipe pipe (held ++ attachment.toFeed.take room))
    | _ => ({ attachment with input := none }, system)

/-- Attends to one process: gives it input, and reads what is not kept. -/
def attendOne (system : System) (attachment : Attachment) : Attachment × System :=
  match attachment.keeping with
  | .kept => (attachment, system)
  | .dropped => (attachment, (readPipe system attachment.output).2)
  | .gathered =>
    let (attachment, system) := feed system attachment
    let (output, system) := readPipe system attachment.output
    let (errors, system) := match attachment.errors with
      | some id => readPipe system id
      | none => ([], system)
    ({ attachment with
      outputRead := if output = [] then attachment.outputRead else output :: attachment.outputRead
      errorsRead :=
        if errors = [] then attachment.errorsRead else errors :: attachment.errorsRead },
      system)

/-- Attends to all processes. -/
def attend : Workspace :=
  workspace.attachments.foldl (fun workspace entry =>
    match workspace.attachment? entry.1 with
    | none => workspace
    | some attachment =>
      let (attachment, system) := attendOne workspace.system attachment
      { workspace with system }.setAttachment entry.1 attachment) workspace

/-- How a process has ended, if it has. -/
def statusOf? (process : ProcessId) : Option ExitStatus :=
  match (workspace.attachment? process).bind Attachment.status with
  | some status => some status
  | none => (workspace.system.process? process).bind Process.exitStatus?

/-- Notes how a process has ended, after which its number is free. -/
def settle (process : ProcessId) : Option ExitStatus × Workspace :=
  match workspace.statusOf? process, workspace.attachment? process with
  | some status, some attachment =>
    (some status,
      { workspace with system := workspace.system.remove process }.setAttachment process
        { attachment with status := some status })
  | other, _ => (other, workspace)

/-- Closes what is open towards a process. -/
def detach (process : ProcessId) : Workspace :=
  match workspace.attachment? process with
  | none => workspace
  | some attachment =>
    let ids := attachment.input.toList ++ [attachment.output] ++ attachment.errors.toList
    { workspace with
      system := ids.foldl System.drop workspace.system
      attachments := workspace.attachments.filter fun entry => entry.1 != process }

/-- Lets go of a process. -/
def release (process : ProcessId) : Workspace :=
  let ended := (workspace.statusOf? process).isSome
  let system := if ended then workspace.system.remove process
    else (workspace.system.deliver process System.killSignal).remove process
  { workspace with system }.detach process

/-! ### Waiting -/

/-- The moment up to which a request waits. -/
def deadlineOf? : Request → Option Instant
  | .collect _ _ deadline => deadline
  | .readOutput _ deadline => some deadline
  | .awaitExit _ deadline => deadline
  | _ => none

/-- Makes ready to wait for a request. -/
def prepare : Request → Workspace
  | .collect process input _ =>
    match workspace.attachment? process with
    | some attachment =>
      if attachment.keeping = .gathered then workspace
      else workspace.setAttachment process { attachment with keeping := .gathered, toFeed := input }
    | none => workspace
  | _ => workspace

/-- Whether a process has ended and closed all of its output. -/
def isCollected (process : ProcessId) : Bool :=
  match workspace.attachment? process with
  | none => true
  | some attachment =>
    (workspace.statusOf? process).isSome && isClosed workspace.system attachment.output &&
      attachment.errors.all (isClosed workspace.system)

/-- Whether there is output of a process, or there will be no more. -/
def hasOutput (process : ProcessId) : Bool :=
  match workspace.attachment? process with
  | none => true
  | some attachment =>
    isClosed workspace.system attachment.output ||
      (readPipe workspace.system attachment.output).1 ≠ []

/-- Whether what a request waits for is there. -/
def hasArrived : Request → Bool
  | .collect process _ _ => workspace.isCollected process
  | .readOutput process _ => workspace.hasOutput process
  | .awaitExit process _ => (workspace.statusOf? process).isSome
  | _ => true

/-- Whether a request can be answered now. -/
def isReady (request : Request) : Bool :=
  workspace.hasArrived request || (deadlineOf? request).any (· ≤ workspace.system.clock)

/-- The place of the first request that can be answered now. -/
def readyPlace? (requests : List Request) : Option Nat :=
  requests.findIdx? workspace.isReady

/-- Lets the processes go on, within a bound, until one of some requests can be answered: its
place, unless that never happens. -/
def goOnFor (requests : List Request) : Nat → Workspace → Option Nat × Workspace
  | 0, workspace => (none, workspace)
  | fuel + 1, workspace =>
    let workspace := workspace.attend
    match workspace.readyPlace? requests with
    | some place => (some place, workspace)
    | none =>
      match workspace.system.advance? (System.earliest? (requests.filterMap deadlineOf?)) with
      | none => (none, workspace)
      | some system => goOnFor requests fuel { workspace with system }

/-- A bound on the number of rounds of steps. -/
def maxRounds : Nat := 0x10000000000

/-- The step, among those that can be taken, that is taken first: one that waits for nothing, or
else one whose request can be answered first. -/
def choose (steps : List PossibleStep) : Nat × Workspace :=
  match steps.findIdx? fun step => !step.any Request.waits with
  | some place => (place, workspace)
  | none =>
    let requests := steps.filterMap id
    let prepared := requests.foldl prepare workspace
    let (place?, after) := goOnFor requests maxRounds prepared
    (place?.getD 0, after)

/-! ### Answers -/

/-- What has come of collecting the output of a process. -/
def collected (process : ProcessId) : Collected × Workspace :=
  match workspace.attachment? process, workspace.statusOf? process with
  | some attachment, some status =>
    if workspace.isCollected process then
      (.ended status attachment.outputRead.reverse.flatten attachment.errorsRead.reverse.flatten
          attachment.inputError,
        { workspace with system := workspace.system.remove process }.detach process)
    else (.elapsed, workspace)
  | _, _ => (.elapsed, workspace)

/-- The next output of a process. -/
def nextOutput (process : ProcessId) : Chunk × Workspace :=
  match workspace.attachment? process with
  | none => (.closed, workspace)
  | some attachment =>
    let (bytes, system) := readPipe workspace.system attachment.output
    if bytes ≠ [] then (.bytes bytes, { workspace with system })
    else if isClosed workspace.system attachment.output then (.closed, workspace)
    else (.elapsed, workspace)

/-- The answer to a request that has been waited for. -/
def conclude (arrived : Bool) : (request : Request) → Option request.Reply × Workspace
  | .collect process _ _ =>
    if !arrived then (some (.arrived (.failed (.os Errno.stuck))), workspace)
    else
      let (collected, workspace) := workspace.collected process
      (some (.arrived collected), workspace)
  | .readOutput process _ =>
    let (chunk, workspace) := workspace.nextOutput process
    (some (.arrived chunk), workspace)
  | .awaitExit process _ =>
    match workspace.settle process with
    | (some status, workspace) => (some (.arrived (.status status)), workspace)
    | (none, workspace) =>
      (some (.arrived (if arrived then .elapsed else .failed (.os Errno.stuck))), workspace)
  | _ => (none, workspace)

/-- Waits until a request can be answered. -/
def awaited (request : Request) : Option request.Reply × Workspace :=
  let (place?, after) := goOnFor [request] maxRounds (workspace.prepare request)
  after.conclude place?.isSome request

/-- Answers a request. -/
def answer : (request : Request) → request.Reply × Workspace
  | .entryKind path follow =>
    (asError ((workspace.files.find workspace.directory (ByteText.ofText path) follow).map fun id =>
      System.kindOf (workspace.files.content id)), workspace)
  | .mode path =>
    (asError ((workspace.files.find workspace.directory (ByteText.ofText path) true).map fun id =>
      (workspace.files.node id).mode), workspace)
  | .entries path => (asError (workspace.entries (ByteText.ofText path)), workspace)
  | .canonical path =>
    (asError ((workspace.files.canonical workspace.directory (ByteText.ofText path)).map
      ByteText.toText), workspace)
  | .readText path => (workspace.readText (ByteText.ofText path), workspace)
  | .readBytes path =>
    (asError (workspace.files.readFile workspace.directory (ByteText.ofText path)), workspace)
  | .readLink path =>
    (asError ((workspace.files.readLink workspace.directory (ByteText.ofText path)).map
      ByteText.toText), workspace)
  | .makeDirectories path =>
    workspace.changed
      (workspace.makeDirectories (path.length + 1) workspace.files (ByteText.ofText path))
  | .makeTempFile directory ending => workspace.makeTempFile directory ending
  | .makeTempDirectory directory => workspace.makeTempDirectory directory
  | .writeTemp path content =>
    workspace.changed
      (workspace.files.writeFile workspace.directory (ByteText.ofText path) content 0o600)
  | .flush _ => (.ok (), workspace)
  | .sync _ => (.ok (), workspace)
  | .setMode path mode =>
    workspace.changed
      (workspace.files.changeMode workspace.directory (ByteText.ofText path) mode)
  | .rename source target =>
    workspace.changed
      (workspace.files.rename workspace.directory (ByteText.ofText source) (ByteText.ofText target))
  | .discardFile path =>
    ((), (workspace.changed
      (workspace.files.unlink workspace.directory (ByteText.ofText path))).2)
  | .discardTree path => ((), (workspace.removeTree (ByteText.ofText path)).2)
  | .removeTree path => workspace.removeTree (ByteText.ofText path)
  | .copyFile source target =>
    match workspace.copyFile (ByteText.ofText source) (ByteText.ofText target) with
    | .ok files => (.ok (), workspace.setFiles files)
    | .error error => (.error error, workspace)
  | .makeLink content path =>
    workspace.changed (workspace.files.makeLink workspace.directory (ByteText.ofText content)
      (ByteText.ofText path))
  | .writeFile path content =>
    workspace.changed
      (workspace.files.writeFile workspace.directory (ByteText.ofText path) content 0o644)
  | .clock => (workspace.system.clock, workspace)
  | .spawn invocation => workspace.spawn invocation
  | .collect process input deadline =>
    match workspace.awaited (.collect process input deadline) with
    | (some reply, workspace) => (reply, workspace)
    | (none, workspace) => (.abandoned, workspace)
  | .readOutput process deadline =>
    match workspace.awaited (.readOutput process deadline) with
    | (some reply, workspace) => (reply, workspace)
    | (none, workspace) => (.abandoned, workspace)
  | .awaitExit process deadline =>
    match workspace.awaited (.awaitExit process deadline) with
    | (some reply, workspace) => (reply, workspace)
    | (none, workspace) => (.abandoned, workspace)
  | .drainOutput process =>
    match workspace.attachment? process with
    | some attachment => ((), workspace.setAttachment process
        { attachment with keeping := .dropped })
    | none => ((), workspace)
  | .poll process => workspace.settle process
  | .signalGroup process signal =>
    let number := match signal with
      | .terminate => System.terminateSignal
      | .kill => System.killSignal
    ((), { workspace with system := workspace.system.deliverGroup process number })
  | .release process => ((), workspace.release process)
  | .log level text => ((), { workspace with messages := (level, text) :: workspace.messages })

/-- A sandbox as a host for acts. -/
def host : Host Workspace where
  choose := choose
  answer := answer

/-! ### New sandboxes -/

/-- A file system with the directories and programs that are expected anywhere. -/
def standardFiles : FileSystem :=
  let (usr, files) := FileSystem.empty.addNamed FileSystem.root "usr"
      (.directory FileSystem.root []) 0o755
  let (bin, files) := files.addNamed usr "bin" (.directory usr []) 0o755
  let files := Utility.names.foldl (fun files name =>
    (files.addNamed bin name (.program name) 0o755).2) files
  let (_, files) := files.addNamed FileSystem.root "bin" (.link "usr/bin") 0o777
  let (dev, files) := files.addNamed FileSystem.root "dev" (.directory FileSystem.root []) 0o755
  let (_, files) := files.addNamed dev "null" (.device .null) 0o666
  let (_, files) := files.addNamed dev "zero" (.device .zero) 0o666
  let (_, files) := files.addNamed FileSystem.root "root" (.directory FileSystem.root []) 0o700
  let (_, files) := files.addNamed FileSystem.root "tmp" (.directory FileSystem.root []) 0o1777
  files

/-- A workspace in which nothing runs, in a new directory of a given name among the temporary
files. -/
def new (name : String) : Workspace :=
  let files := standardFiles
  let (directory, files) := match files.find FileSystem.root "/tmp" true with
    | .ok tmp => files.addNamed tmp name (.directory tmp []) 0o700
    | .error _ => (FileSystem.root, files)
  { system := {
      files, processes := [], opened := [], pipes := [], fresh := 0,
      nextProcess := 100, clock := 0 }
    directory
    attachments := []
    nextTemporary := 0
    messages := [] }

/-- The absolute path of the directory that relative paths start from. -/
def directoryPath : String := ByteText.toText (workspace.files.pathTo workspace.directory)

/-- All that is below the directory of a workspace, in the order of the paths. -/
def tree : List (String × Node) :=
  (workspace.files.below 4096 "" workspace.directory).mergeSort fun a b => !(b.1 < a.1)

end Workspace

end Runbook.Sandbox
