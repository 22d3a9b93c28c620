import Runbook.Document.CodeBlock
/-!
# Document nodes

A document is a sequence of nodes: runs of plain Markdown and the fenced code blocks between them.
Running a block replaces its node by what the block shows, which may also be an image or raw
markup. A node read from a source keeps the place of its opening fence and the text that has to
start each further line of what stands there, so that it stays inside its containers.
-/

set_option autoImplicit false

namespace Runbook.Document

/-- The place of an opening fence: its line, counted from one, and its byte offset. -/
structure Position where
  line : Nat
  offset : Nat
deriving DecidableEq, Repr

/-- What a node shows. -/
inductive Content where
  /-- Markdown source as it stands. -/
  | markdown (text : String)
  /-- A fenced code block. -/
  | code (block : CodeBlock)
  /-- A Markdown image. -/
  | image (url alt : String)
  /-- Raw markup. -/
  | html (markup : String)
deriving DecidableEq, Repr

/-- Facts about a node for later tools, by name. -/
abbrev Data := List (String × String)

/-- The data with one entry set. -/
def Data.set (data : Data) (key value : String) : Data :=
  data.filter (fun entry => entry.1 != key) ++ [(key, value)]

/-- The entries of both, where those of the second win. -/
def Data.union (first second : Data) : Data :=
  second.foldl (fun data entry => data.set entry.1 entry.2) first

/-- A node of a document. -/
structure Node where
  content : Content
  position : Option Position
  /-- What each line after the first starts with when the node is written. -/
  indent : String
  data : Data
deriving DecidableEq, Repr

namespace Node

/-- A node with no place in a source. -/
def ofContent (content : Content) : Node := ⟨content, none, "", []⟩

/-- A run of Markdown. -/
def markdown (text : String) : Node := ofContent (.markdown text)

/-- A code block made of an info string and a body. -/
def code (info body : String) : Node := ofContent (.code (.ofText info body))

/-- An image. -/
def image (url alt : String) : Node := ofContent (.image url alt)

/-- Raw markup. -/
def html (markup : String) : Node := ofContent (.html markup)

/-- The node with one more fact. -/
def withData (node : Node) (key value : String) : Node :=
  { node with data := Data.set node.data key value }

/-- The code block of a node that is one. -/
def codeBlock? (node : Node) : Option CodeBlock :=
  match node.content with
  | .code block => some block
  | _ => none

end Node

end Runbook.Document
