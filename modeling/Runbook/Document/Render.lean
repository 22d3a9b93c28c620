import Runbook.Document.Node
import Runbook.Text.Line
/-!
# Writing nodes as Markdown

Plain Markdown and code blocks that come from a source are written as they stood. A new code block
gets a fence that is longer than every run of backticks in its body, `length_fence`; an image has
the brackets of its alternative text escaped. Everything new is then moved into the containers of
its place: each line after the first that is not empty starts with the indent of the node.
-/

set_option autoImplicit false

namespace Runbook.Document

open Runbook.Text

/-- The length of the longest run of backticks that starts in a text, when a run of a given length
stands right before it. -/
def longestBacktickRun : Nat → List Char → Nat
  | run, [] => run
  | run, c :: rest =>
    if c = '`' then longestBacktickRun (run + 1) rest
    else max run (longestBacktickRun 0 rest)

/-- The length of the fence for a body: three, or one more than its longest run of backticks. -/
def fenceLength (body : List Char) : Nat := max (longestBacktickRun 0 body + 1) 3

/-- The fence for a body. -/
def fence (body : List Char) : List Char := List.replicate (fenceLength body) '`'

/-- A body with a newline at its end unless it is empty or has one. -/
def closeLine (body : List Char) : List Char :=
  if body.isEmpty || body.getLast? = some '\n' then body else body ++ ['\n']

/-- A code block written with backtick fences. -/
def fenced (info body : List Char) : List Char :=
  fence body ++ info ++ '\n' :: closeLine body ++ fence body

/-- The alternative text of an image with its square brackets escaped. -/
def escapeAlt (alt : List Char) : List Char :=
  alt.flatMap fun c => if c = '[' ∨ c = ']' then ['\\', c] else [c]

/-- A value for a double-quoted attribute of markup: angle brackets and quotes are replaced. -/
def escapeAttribute (value : String) : String :=
  String.join (value.toList.map fun c =>
    match c with
    | '<' => "&lt;"
    | '>' => "&gt;"
    | '"' => "&quot;"
    | c => c.toString)

/-- A text in which every line after the first that is not empty starts with an indent. -/
def indentContinuation (indent text : List Char) : List Char :=
  match splitAt '\n' text with
  | [] => []
  | first :: rest =>
    joinWith ['\n'] (first :: rest.map fun line => if line.isEmpty then line else indent ++ line)

/-- What a node shows, before it is moved into its containers. -/
def Content.render : Content → List Char
  | .markdown text => text.toList
  | .code ⟨_, _, some raw⟩ => raw.toList
  | .code ⟨info, body, none⟩ => fenced info.toList body.toList
  | .image url alt => "![".toList ++ escapeAlt alt.toList ++ "](".toList ++ url.toList ++ [')']
  | .html markup => markup.toList

/-- Whether a content is written as it stands, whatever its containers. -/
def Content.isVerbatim : Content → Bool
  | .markdown _ => true
  | .code ⟨_, _, some _⟩ => true
  | _ => false

/-- A node as Markdown. -/
def Node.render (node : Node) : String :=
  if node.content.isVerbatim then String.ofList node.content.render
  else String.ofList (indentContinuation node.indent.toList node.content.render)

/-- Nodes written one after the other. -/
def renderAll (nodes : List Node) : String := String.join (nodes.map Node.render)

/-- A fence has at least three backticks and more than any run in the body. -/
theorem length_fence (body : List Char) :
    3 ≤ (fence body).length ∧ longestBacktickRun 0 body < (fence body).length := by
  simp only [fence, fenceLength, List.length_replicate]
  omega

end Runbook.Document
