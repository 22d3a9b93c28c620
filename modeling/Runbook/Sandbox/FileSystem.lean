import Runbook.Text.Line
import Runbook.Text.Utf8
/-!
# File systems in memory

A file system is an array of nodes, each known by its place in the array. A directory holds names
for nodes and knows the directory that it is in. A node stays when its last name is removed, so
that what is open or worked in stays usable.

`locate` follows a path, and `spot` cuts off its last name without looking at what it stands for.
Each operation either gives the changed file system or an error number; `Errno.text` is the wording
of an error number for the programs of a sandbox.
-/

set_option autoImplicit false

namespace Runbook.Sandbox

open Text

/-! ### Error numbers -/

/-- An error number. -/
abbrev Errno := Nat

namespace Errno

def notPermitted : Errno := 1
def noEntry : Errno := 2
def noProcess : Errno := 3
def interrupted : Errno := 4
def notExecutable : Errno := 8
def badDescriptor : Errno := 9
def noChild : Errno := 10
def denied : Errno := 13
def busy : Errno := 16
def present : Errno := 17
def notDirectory : Errno := 20
def isDirectory : Errno := 21
def invalid : Errno := 22
def brokenPipe : Errno := 32
def stuck : Errno := 35
def notEmpty : Errno := 39
def loop : Errno := 40

/-- The wordings of error numbers. -/
def texts : List (Errno × String) := [
  (notPermitted, "Operation not permitted"), (noEntry, "No such file or directory"),
  (noProcess, "No such process"), (interrupted, "Interrupted system call"),
  (notExecutable, "Exec format error"), (badDescriptor, "Bad file descriptor"),
  (noChild, "No child processes"), (denied, "Permission denied"),
  (busy, "Device or resource busy"), (present, "File exists"),
  (notDirectory, "Not a directory"), (isDirectory, "Is a directory"),
  (invalid, "Invalid argument"), (brokenPipe, "Broken pipe"),
  (stuck, "Resource deadlock avoided"), (notEmpty, "Directory not empty"),
  (loop, "Too many levels of symbolic links")]

/-- The wording of an error number. -/
def text (code : Errno) : String :=
  (texts.lookup code).getD ("Unknown error " ++ toString code)

end Errno

/-! ### Nodes -/

/-- The number of a node. -/
abbrev NodeId := Nat

/-- A device. -/
inductive Device where
  /-- Holds nothing and drops what is written. -/
  | null
  /-- Holds zeros without end. -/
  | zero
deriving DecidableEq, Repr

/-- What a node holds. -/
inductive Content where
  | file (bytes : Bytes)
  | directory (parent : NodeId) (entries : List (String × NodeId))
  | link (target : String)
  | device (device : Device)
  /-- A program that the sandbox provides. -/
  | program (name : String)
deriving DecidableEq, Repr

/-- A node: what it holds and its permission bits. -/
structure Node where
  content : Content
  mode : Nat
deriving DecidableEq, Repr

/-- A file system. -/
structure FileSystem where
  nodes : Array Node
deriving Repr

namespace FileSystem

/-- The node of the directory at the top. -/
def root : NodeId := 0

/-- A file system that holds nothing. -/
def empty : FileSystem := ⟨#[⟨.directory root [], 0o755⟩]⟩

variable (fs : FileSystem)

/-- A node. -/
def node (id : NodeId) : Node := fs.nodes.getD id ⟨.file [], 0⟩

/-- What a node holds. -/
def content (id : NodeId) : Content := (fs.node id).content

/-- The file system with what a node holds replaced. -/
def setContent (id : NodeId) (content : Content) : FileSystem :=
  ⟨fs.nodes.setIfInBounds id { fs.node id with content }⟩

/-- The file system with the permission bits of a node replaced. -/
def setMode (id : NodeId) (mode : Nat) : FileSystem :=
  ⟨fs.nodes.setIfInBounds id { fs.node id with mode }⟩

/-- The file system with one more node, and the node. -/
def add (content : Content) (mode : Nat) : NodeId × FileSystem :=
  (fs.nodes.size, ⟨fs.nodes.push ⟨content, mode⟩⟩)

/-- Whether a node is a directory. -/
def isDirectory (id : NodeId) : Bool :=
  match fs.content id with
  | .directory _ _ => true
  | _ => false

/-- The names in a directory, in order; none for other nodes. -/
def entries (id : NodeId) : List (String × NodeId) :=
  match fs.content id with
  | .directory _ entries => entries
  | _ => []

/-- The directory that a directory is in. -/
def parentOf (id : NodeId) : NodeId :=
  match fs.content id with
  | .directory parent _ => parent
  | _ => root

/-! ### Names -/

/-- A name put among the names of a directory, in order, instead of an equal one. -/
def insertName (name : String) (id : NodeId) : List (String × NodeId) → List (String × NodeId)
  | [] => [(name, id)]
  | (first, other) :: rest =>
    if name < first then (name, id) :: (first, other) :: rest
    else if name = first then (name, id) :: rest
    else (first, other) :: insertName name id rest

/-- Gives a node a name in a directory. -/
def setName (directory : NodeId) (name : String) (id : NodeId) : FileSystem :=
  match fs.content directory with
  | .directory parent entries =>
    fs.setContent directory (.directory parent (insertName name id entries))
  | _ => fs

/-- Removes a name from a directory. -/
def removeName (directory : NodeId) (name : String) : FileSystem :=
  match fs.content directory with
  | .directory parent entries =>
    fs.setContent directory (.directory parent (entries.filter fun entry => entry.1 != name))
  | _ => fs

/-- Adds a node under a name in a directory. -/
def addNamed (directory : NodeId) (name : String) (content : Content) (mode : Nat) :
    NodeId × FileSystem :=
  let (id, added) := fs.add content mode
  (id, added.setName directory name id)

/-! ### Paths -/

/-- The names in a path. -/
def pieces (path : String) : List String :=
  ((splitAt '/' path.toList).filter (· ≠ [])).map String.ofList

/-- Whether a path ends in a slash. -/
def endsInSlash (path : String) : Bool := path.toList.getLast? = some '/'

/-- Where a path starts that is looked at from a directory. -/
def start (here : NodeId) (path : String) : NodeId :=
  if path.toList.head? = some '/' then root else here

/-- Where a path leads: to a node, or to a free name in a directory. -/
inductive Place where
  | node (id : NodeId)
  | free (directory : NodeId) (name : String)
deriving DecidableEq, Repr

/-- The greatest number of links that are followed on one path. -/
def maxLinks : Nat := 40

/-- The greatest number of names that are followed on one path. -/
def maxNames : Nat := 0x40000

/-- Follows names from a node, with bounds on the names and on the links. With `follow`, a link at
the end is followed too. -/
def walk (follow : Bool) : Nat → Nat → NodeId → List String → Except Errno Place
  | 0, _, _, _ => .error .loop
  | _ + 1, _, here, [] => .ok (.node here)
  | fuel + 1, links, here, name :: names =>
    match fs.content here with
    | .directory parent entries =>
      if name = "." then walk follow fuel links here names
      else if name = ".." then walk follow fuel links parent names
      else
        match entries.lookup name with
        | none => if names = [] then .ok (.free here name) else .error .noEntry
        | some id =>
          match fs.content id with
          | .link target =>
            if names = [] && !follow then .ok (.node id)
            else if links = 0 then .error .loop
            else walk follow fuel (links - 1) (start here target) (pieces target ++ names)
          | _ => walk follow fuel links id names
    | _ => .error .notDirectory

/-- Where a path leads that is looked at from a directory. -/
def locate (here : NodeId) (path : String) (follow : Bool) : Except Errno Place :=
  if path = "" then .error .noEntry
  else
    let slash := endsInSlash path
    match fs.walk (follow || slash) maxNames maxLinks (start here path) (pieces path) with
    | .ok (.node id) =>
      if slash && !fs.isDirectory id then .error .notDirectory else .ok (.node id)
    | other => other

/-- The node that a path leads to. -/
def find (here : NodeId) (path : String) (follow : Bool) : Except Errno NodeId := do
  match ← fs.locate here path follow with
  | .node id => return id
  | .free _ _ => .error .noEntry

/-- The directory in which the last name of a path stands, and that name. -/
def spot (here : NodeId) (path : String) : Except Errno (NodeId × String) := do
  if path = "" then .error .noEntry
  else
    let names := pieces path
    match ← fs.walk true maxNames maxLinks (start here path) names.dropLast with
    | .node id =>
      if fs.isDirectory id then return (id, names.getLast?.getD ".") else .error .notDirectory
    | .free _ _ => .error .noEntry

/-- Whether a name stands for a directory itself or the one above it. -/
def isDots (name : String) : Bool := name = "." || name = ".."

/-- The names that lead to a directory from the top, within a bound. -/
def namesTo : Nat → NodeId → List String
  | 0, _ => []
  | fuel + 1, id =>
    if id = root then []
    else
      let parent := fs.parentOf id
      let name := (fs.entries parent).find? fun entry => entry.2 = id
      namesTo fuel parent ++ [(name.map Prod.fst).getD "(unreachable)"]

/-- The absolute path of a directory. -/
def pathTo (id : NodeId) : String :=
  "/" ++ "/".intercalate (fs.namesTo fs.nodes.size id)

/-- Whether a directory is another one or in it, within a bound. -/
def isInside (outer : NodeId) : Nat → NodeId → Bool
  | 0, _ => false
  | fuel + 1, id => id = outer || (id != root && isInside outer fuel (fs.parentOf id))

/-! ### Operations -/

/-- Makes a directory. -/
def makeDirectory (here : NodeId) (path : String) (mode : Nat) : Except Errno FileSystem := do
  let (directory, name) ← fs.spot here path
  if isDots name || ((fs.entries directory).lookup name).isSome then .error .present
  else return (fs.addNamed directory name (.directory directory []) mode).2

/-- How a file is opened. -/
structure OpenHow where
  /-- A missing file is made. -/
  create : Bool
  /-- A file that is there is refused. -/
  exclusive : Bool
  /-- What a file holds is dropped. -/
  truncate : Bool
  write : Bool
deriving DecidableEq, Repr

/-- The node that a path is opened as. -/
def openNode (here : NodeId) (path : String) (how : OpenHow) (mode : Nat) :
    Except Errno (NodeId × FileSystem) := do
  match ← fs.locate here path true with
  | .free directory name =>
    if !how.create then .error .noEntry
    else if endsInSlash path then .error .isDirectory
    else return fs.addNamed directory name (.file []) mode
  | .node id =>
    if how.create && how.exclusive then .error .present
    else if fs.isDirectory id && (how.write || how.create) then .error .isDirectory
    else
      match fs.content id with
      | .file _ => return (id, if how.truncate then fs.setContent id (.file []) else fs)
      | _ => return (id, fs)

/-- Removes the name of something that is no directory. -/
def unlink (here : NodeId) (path : String) : Except Errno FileSystem := do
  let (directory, name) ← fs.spot here path
  if isDots name then .error .isDirectory
  else
    match (fs.entries directory).lookup name with
    | none => .error .noEntry
    | some id =>
      if fs.isDirectory id then .error .isDirectory
      else if endsInSlash path then .error .notDirectory
      else return fs.removeName directory name

/-- Removes an empty directory. -/
def removeDirectory (here : NodeId) (path : String) : Except Errno FileSystem := do
  let (directory, name) ← fs.spot here path
  if name = "." then .error .invalid
  else if name = ".." then .error .notEmpty
  else
    match (fs.entries directory).lookup name with
    | none => .error .noEntry
    | some id =>
      if !fs.isDirectory id then .error .notDirectory
      else if fs.entries id ≠ [] then .error .notEmpty
      else return fs.removeName directory name

/-- The file system once nothing is left in a directory and in those below it. -/
def emptied (id : NodeId) : FileSystem :=
  ⟨fs.nodes.mapIdx fun place node =>
    match node.content with
    | .directory parent _ =>
      if fs.isInside id fs.nodes.size place then { node with content := .directory parent [] }
      else node
    | _ => node⟩

/-- Removes a directory: first all that is in it, and then itself. A link is removed as such. With
the outcome comes what is left, also when the directory cannot be removed in the end. -/
def removeTree (here : NodeId) (path : String) : Except Errno Unit × FileSystem :=
  match fs.find here path false with
  | .error code => (.error code, fs)
  | .ok id =>
    match fs.content id with
    | .directory _ _ =>
      let left := fs.emptied id
      match left.removeDirectory here path with
      | .ok files => (.ok (), files)
      | .error code => (if code = Errno.noEntry then .ok () else .error code, left)
    | .link _ =>
      match fs.unlink here path with
      | .ok files => (.ok (), files)
      | .error code => (.error code, fs)
    | _ => (.error .notDirectory, fs)

/-- Why a node cannot take the name of another one. -/
def replaceError? (id other : NodeId) : Option Errno :=
  if fs.isDirectory id then
    if !fs.isDirectory other then some .notDirectory
    else if fs.entries other ≠ [] then some .notEmpty
    else none
  else if fs.isDirectory other then some .isDirectory
  else none

/-- Gives a node another name in place of the one that it has. -/
def moveName (id : NodeId) (source : NodeId × String) (target : NodeId × String) : FileSystem :=
  let moved := (fs.removeName source.1 source.2).setName target.1 target.2 id
  match moved.content id with
  | .directory _ entries => moved.setContent id (.directory target.1 entries)
  | _ => moved

/-- Moves something to another path, over what is there. -/
def rename (here : NodeId) (source target : String) : Except Errno FileSystem := do
  let old ← fs.spot here source
  let new ← fs.spot here target
  if isDots old.2 || isDots new.2 then .error .busy
  else
    match (fs.entries old.1).lookup old.2 with
    | none => .error .noEntry
    | some id =>
      if !fs.isDirectory id && (endsInSlash source || endsInSlash target) then .error .notDirectory
      else if fs.isDirectory id && fs.isInside id fs.nodes.size new.1 then .error .invalid
      else
        match (fs.entries new.1).lookup new.2 with
        | none => return fs.moveName id old new
        | some other =>
          if id = other then return fs
          else
            match fs.replaceError? id other with
            | some code => .error code
            | none => return fs.moveName id old new

/-- Makes a link. -/
def makeLink (here : NodeId) (target path : String) : Except Errno FileSystem := do
  if target = "" then .error .noEntry
  else
    let (directory, name) ← fs.spot here path
    if isDots name || ((fs.entries directory).lookup name).isSome then .error .present
    else if endsInSlash path then .error .noEntry
    else return (fs.addNamed directory name (.link target) 0o777).2

/-- Gives something that is no directory a further name. -/
def addName (here : NodeId) (source path : String) : Except Errno FileSystem := do
  let id ← fs.find here source false
  let (directory, name) ← fs.spot here path
  if isDots name || ((fs.entries directory).lookup name).isSome then .error .present
  else if fs.isDirectory id then .error .notPermitted
  else return fs.setName directory name id

/-- Changes the permission bits of what a path leads to. -/
def changeMode (here : NodeId) (path : String) (mode : Nat) : Except Errno FileSystem := do
  return fs.setMode (← fs.find here path true) mode

/-- What a link points to. -/
def readLink (here : NodeId) (path : String) : Except Errno String := do
  match fs.content (← fs.find here path false) with
  | .link target => return target
  | _ => .error .invalid

/-- What a file holds; a device holds nothing. -/
def readFile (here : NodeId) (path : String) : Except Errno Bytes := do
  match fs.content (← fs.find here path true) with
  | .file bytes => return bytes
  | .directory _ _ => .error .isDirectory
  | _ => return []

/-- Makes a file hold some bytes. A device drops them. -/
def writeFile (here : NodeId) (path : String) (bytes : Bytes) (mode : Nat) :
    Except Errno FileSystem := do
  let (id, opened) ← fs.openNode here path ⟨true, false, true, true⟩ mode
  match opened.content id with
  | .file _ => return opened.setContent id (.file bytes)
  | _ => return opened

/-- The spot of what a path leads to, which is no directory, within a bound on the links. -/
def spotOf : Nat → NodeId → String → Except Errno (NodeId × String)
  | 0, _, _ => .error .loop
  | links + 1, here, path => do
    let (directory, name) ← fs.spot here path
    match (fs.entries directory).lookup name with
    | none => .error .noEntry
    | some id =>
      match fs.content id with
      | .link target => spotOf links directory target
      | _ => return (directory, name)

/-- The absolute path without links that leads to the same place. -/
def canonical (here : NodeId) (path : String) : Except Errno String := do
  let id ← fs.find here path true
  if fs.isDirectory id then return fs.pathTo id
  else
    let (directory, name) ← fs.spotOf (maxLinks + 1) here path
    return if directory = root then "/" ++ name else fs.pathTo directory ++ "/" ++ name

/-! ### Listing -/

/-- All that is in a directory, with the paths from there, within a bound on the depth. -/
def below : Nat → String → NodeId → List (String × Node)
  | 0, _, _ => []
  | fuel + 1, before, id =>
    (fs.entries id).flatMap fun (name, child) =>
      (before ++ name, fs.node child) :: below fuel (before ++ name ++ "/") child

end FileSystem

end Runbook.Sandbox
