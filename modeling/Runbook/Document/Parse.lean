import Runbook.Document.Frontmatter
import Runbook.Document.Render
import Runbook.Markdown.Fence
/-!
# Reading documents

A document is its settings and its nodes. Reading a source cuts it at its fenced code blocks: each
block becomes a node with its source text, and what stands between two blocks, the settings
included, becomes a node of plain Markdown. `Document.cut` does the cutting for a list of spans,
and `renderAll_cut` says that writing the nodes gives the source back whenever the spans follow
each other inside the source.
-/

set_option autoImplicit false

namespace Runbook

open Text

/-- A document. -/
structure Document where
  /-- The settings, if the source has a block of them. -/
  frontmatter : Option Document.Frontmatter
  /-- The nodes in the order of the source. -/
  nodes : List Document.Node
deriving DecidableEq, Repr

namespace Document

/-- A fenced block in a source: the number of characters before its opening fence, the number of
its characters up to the line end after it, its info string and its body. -/
structure Span where
  start : Nat
  length : Nat
  info : List Char
  body : List Char
deriving DecidableEq, Repr

/-- The number of bytes of a text in UTF-8. -/
def byteLength (text : List Char) : Nat := text.foldr (fun c n => c.utf8Size + n) 0

/-- The place after some text. -/
def Position.after (before : List Char) : Position := ⟨newlineCount before + 1, byteLength before⟩

/-- What starts the further lines of a block after the text before its fence: the start of its own
line, with the marks of quotations and the tabs kept and everything else blank. -/
def continuationIndent (before : List Char) : List Char :=
  (before.reverse.takeWhile (· != '\n')).reverse.map fun c =>
    if c = '>' ∨ c = '\t' then c else ' '

/-- The characters of a text from one place to another. -/
def slice (text : List Char) (start stop : Nat) : List Char := (text.drop start).take (stop - start)

/-- The source text of a block. -/
def rawText (source : List Char) (span : Span) : List Char :=
  slice source span.start (span.start + span.length)

/-- The node of a block. -/
def blockNode (source : List Char) (span : Span) : Node :=
  let before := source.take span.start
  { content := .code ⟨String.ofList span.info, String.ofList span.body,
      some (String.ofList (rawText source span))⟩
    position := some (.after before)
    indent := String.ofList (continuationIndent before)
    data := [] }

/-- The node of what stands between two places, none if nothing does. -/
def markdownBetween (source : List Char) (start stop : Nat) : List Node :=
  if start < stop then [.markdown (String.ofList (slice source start stop))] else []

/-- The nodes of a source from a place on, cut at the blocks that follow. -/
def cut (source : List Char) : Nat → List Span → List Node
  | cursor, [] => markdownBetween source cursor source.length
  | cursor, span :: rest =>
    markdownBetween source cursor span.start ++
      blockNode source span :: cut source (span.start + span.length) rest

/-- The span of a fence of the content, which follows so many characters of the source. Line ends
after the fence stay outside. -/
def spanOfFence (content : List Char) (offset : Nat) (fence : Markdown.Fence) : Span :=
  let start := content.length - fence.remaining
  let text := slice content start (content.length - fence.remainingAfter)
  let raw := dropTrailing (fun c => c = '\n' || c = '\r') text
  ⟨offset + start, raw.length, fence.info, fence.body⟩

/-- The spans of the fenced blocks of a source with some content. -/
def spans (source content : List Char) : List Span :=
  (Markdown.fences content).map (spanOfFence content (source.length - content.length))

/-- The document that a source holds. -/
def ofSource (source : List Char) : Except FrontmatterError Document :=
  match Frontmatter.read source with
  | .error e => .error e
  | .ok (frontmatter, content) => .ok ⟨frontmatter, cut source 0 (spans source content)⟩

/-- The document that a text holds. -/
def parse (source : String) : Except FrontmatterError Document := ofSource source.toList

/-- The wording of the error for a source whose settings cannot be read. -/
def sourceErrorMessage (e : FrontmatterError) : String := "Frontmatter error: " ++ e.message

/-- A document as Markdown. -/
def render (document : Document) : String := renderAll document.nodes

/-- The code blocks of a document in order. -/
def codeBlocks (document : Document) : List CodeBlock := document.nodes.filterMap Node.codeBlock?

/-! ### Writing what was cut -/

/-- Spans that follow each other from a place on, inside a text of some length. -/
def Follow : Nat → Nat → List Span → Prop
  | cursor, size, [] => cursor ≤ size
  | cursor, size, span :: rest =>
    cursor ≤ span.start ∧ Follow (span.start + span.length) size rest

theorem Follow.le {cursor size : Nat} {spans : List Span} (h : Follow cursor size spans) :
    cursor ≤ size := by
  induction spans generalizing cursor with
  | nil => exact h
  | cons span rest ih => exact Nat.le_trans h.1 (Nat.le_trans (Nat.le_add_right _ _) (ih h.2))

theorem renderAll_cons (node : Node) (nodes : List Node) :
    renderAll (node :: nodes) = node.render ++ renderAll nodes := by
  simp [renderAll, String.join_cons]

theorem renderAll_append (first second : List Node) :
    renderAll (first ++ second) = renderAll first ++ renderAll second := by
  simp [renderAll]

theorem renderAll_markdownBetween (source : List Char) {start stop : Nat} (h : start ≤ stop) :
    renderAll (markdownBetween source start stop) = String.ofList (slice source start stop) := by
  unfold markdownBetween
  split
  · simp [renderAll, Node.render, Node.markdown, Node.ofContent, Content.isVerbatim,
      Content.render]
  · have : start = stop := by omega
    simp [renderAll, slice, this]

theorem render_blockNode (source : List Char) (span : Span) :
    (blockNode source span).render = String.ofList (rawText source span) := by
  simp [blockNode, Node.render, Content.isVerbatim, Content.render]

theorem slice_append_drop (text : List Char) {start stop : Nat} (h : start ≤ stop) :
    slice text start stop ++ text.drop stop = text.drop start := by
  unfold slice
  have : text.drop stop = (text.drop start).drop (stop - start) := by
    rw [List.drop_drop]; congr 1; omega
  rw [this, List.take_append_drop]

/-- Writing the nodes that a source was cut into gives the source from that place on. -/
theorem renderAll_cut (source : List Char) {cursor : Nat} {spans : List Span}
    (h : Follow cursor source.length spans) :
    renderAll (cut source cursor spans) = String.ofList (source.drop cursor) := by
  induction spans generalizing cursor with
  | nil =>
    rw [cut, renderAll_markdownBetween source h, slice, List.take_of_length_le (by simp)]
  | cons span rest ih =>
    rw [cut, renderAll_append, renderAll_cons, render_blockNode, ih h.2,
      renderAll_markdownBetween source h.1, ← String.ofList_append, ← String.ofList_append,
      rawText, slice_append_drop source (Nat.le_add_right _ _), slice_append_drop source h.1]

end Document

end Runbook
