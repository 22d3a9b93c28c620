import Mathlib.Data.List.DropRight
import Mathlib.Data.Nat.Find
import Mathlib.Order.Monotone.Defs
import Runbook.Document.Parse
import Runbook.Proofs.Markdown.FenceOrder
import Runbook.Proofs.Text.Line
/-!
# The nodes of a source tile it

A source that can be read is cut into nodes, and the nodes written one after the other are the
source again, byte for byte. `Tiles` says this together with what it means for the places that are
recorded: the text of each node stands in the source exactly where the texts of the nodes before it
end, a code node records that place in bytes and in lines, the recorded places increase, and every
byte belongs to one node and to no other. `parse_tiles` proves it of every source.

The proof has three layers. `spans_follow` turns the order of the fenced blocks (`fences_inOrder`)
into an order of spans of the whole source: the content is a suffix of the source
(`Frontmatter.read_suffix`), so a place in it moves by the length of the settings, and the line ends
that are cut off after a block only shorten its span. `cut_code` follows the cutting and finds the
text before each code node, and `cut_tiles` holds of every list of spans in order, whatever reader
of Markdown they come from. `startOf` is the number of bytes before a node; it grows along the
nodes, and the owner of a byte is the node before the first one that starts behind it.
-/

set_option autoImplicit false

namespace Runbook.Document

open Text

/-! ### Places of spans -/

/-- The content of a source is a suffix of it. -/
theorem Frontmatter.read_suffix {source content : List Char} {frontmatter : Option Frontmatter}
    (h : Frontmatter.read source = .ok (frontmatter, content)) : content <:+ source := by
  unfold Frontmatter.read at h
  split at h
  · cases h
    exact List.suffix_refl _
  · cases h
  · rename_i settings rest hsplit
    split at h
    · cases h
      obtain ⟨opening, closing, -, rfl⟩ := Frontmatter.split_opening hsplit
      exact List.suffix_append _ _
    · cases h

/-- Trailing characters are cut off from a text, not others. -/
theorem length_dropTrailing_le (drop : Char → Bool) (text : List Char) :
    (dropTrailing drop text).length ≤ text.length :=
  (List.rdropWhile_prefix drop (l := text)).length_le

/-- A text whose first character stays is not cut off as a whole. -/
theorem length_dropTrailing_pos {drop : Char → Bool} {c : Char} (h : drop c = false)
    (text : List Char) : 0 < (dropTrailing drop (c :: text)).length := by
  refine List.length_pos_iff.2 fun hnil ↦ ?_
  have hall := (List.rdropWhile_eq_nil_iff (p := drop) (l := c :: text)).1 hnil c List.mem_cons_self
  rw [h] at hall
  exact Bool.false_ne_true hall

/-- The span of a fenced block is not empty and ends before what is left after the block. Assumes:
the block opens in the content. -/
theorem length_spanOfFence {content : List Char} {fence : Markdown.Fence}
    (h : fence.OpensIn content) (offset : Nat) :
    0 < (spanOfFence content offset fence).length ∧
      (spanOfFence content offset fence).length ≤ fence.remaining - fence.remainingAfter := by
  obtain ⟨mark, below, hmark, hsuffix, hremaining, hafter⟩ := h
  have hlength := hsuffix.length_le
  have hdrop : content.drop (content.length - fence.remaining) = mark :: below := by
    rw [hremaining]
    exact (List.suffix_iff_eq_drop.1 hsuffix).symm
  have hcount : content.length - fence.remainingAfter - (content.length - fence.remaining) =
      fence.remaining - fence.remainingAfter := by omega
  have htake : fence.remaining - fence.remainingAfter =
      below.length - fence.remainingAfter + 1 := by
    rw [hremaining, List.length_cons]
    omega
  have hkept : (mark = '\n' || mark = '\r') = false := by
    rcases hmark with rfl | rfl <;> decide
  simp only [spanOfFence, slice, hdrop, hcount, htake, List.take_succ_cons]
  refine ⟨length_dropTrailing_pos hkept _, (length_dropTrailing_le _ _).trans ?_⟩
  simp only [List.length_cons, List.length_take]
  omega

theorem Follow.of_le {cursor later size : Nat} {spans : List Span} (h : Follow later size spans)
    (hle : cursor ≤ later) : Follow cursor size spans := by
  cases spans with
  | nil => exact Nat.le_trans hle h
  | cons span rest => exact ⟨Nat.le_trans hle h.1, h.2⟩

/-- A span ends inside the text. Assumes: spans that follow each other inside it. -/
theorem Follow.stop_le {cursor size : Nat} {spans : List Span} (h : Follow cursor size spans)
    {span : Span} (hspan : span ∈ spans) : span.start + span.length ≤ size := by
  induction spans generalizing cursor with
  | nil => cases hspan
  | cons first rest ih =>
    rcases List.mem_cons.1 hspan with rfl | hspan
    · exact h.2.le
    · exact ih h.2 hspan

/-- Blocks in order have spans in order, which lie behind the text before the content. Assumes:
blocks in order in a suffix of the content. -/
theorem follow_spanOfFence {content text : List Char} {fences : List Markdown.Fence}
    (h : Markdown.InOrder text fences) (htext : text <:+ content) (offset : Nat) :
    Follow (offset + (content.length - text.length)) (offset + content.length)
      (fences.map (spanOfFence content offset)) := by
  induction fences generalizing text with
  | nil => exact Nat.add_le_add_left (Nat.sub_le _ _) _
  | cons fence fences ih =>
    obtain ⟨hopens, rest, hrest, hleft, htail⟩ := h
    have hspan := (length_spanOfFence (hopens.mono htext) offset).2
    obtain ⟨mark, below, -, hsuffix, hremaining, hafter⟩ := hopens
    have hstart : (spanOfFence content offset fence).start =
        offset + (content.length - fence.remaining) := rfl
    have hlength := hsuffix.length_le
    have hcontent := htext.length_le
    rw [List.length_cons] at hremaining hlength
    refine ⟨by omega, (ih htail (hrest.trans htext)).of_le ?_⟩
    omega

/-- The spans of a source follow each other inside it. -/
theorem spans_follow {source content : List Char} (h : content <:+ source) :
    Follow 0 source.length (spans source content) := by
  have hfollow := follow_spanOfFence (Markdown.fences_inOrder content) (List.suffix_refl content)
    (source.length - content.length)
  have hlength := h.length_le
  rw [Nat.sub_add_cancel hlength] at hfollow
  exact hfollow.of_le (Nat.zero_le _)

theorem length_pos_of_mem_map {content text : List Char} {fences : List Markdown.Fence}
    (h : Markdown.InOrder text fences) (htext : text <:+ content) (offset : Nat) :
    ∀ span ∈ fences.map (spanOfFence content offset), 0 < span.length := by
  induction fences generalizing text with
  | nil => nofun
  | cons fence fences ih =>
    obtain ⟨hopens, rest, hrest, -, htail⟩ := h
    intro span hspan
    rcases List.mem_cons.1 hspan with rfl | hspan
    · exact (length_spanOfFence (hopens.mono htext) offset).1
    · exact ih htail (hrest.trans htext) span hspan

/-- No span of a source is empty. -/
theorem spans_length_pos (source content : List Char) :
    ∀ span ∈ spans source content, 0 < span.length :=
  length_pos_of_mem_map (Markdown.fences_inOrder content) (List.suffix_refl _) _

/-! ### The code nodes of a cut -/

theorem codeBlock?_of_mem_markdownBetween {source : List Char} {start stop : Nat} {node : Node}
    (h : node ∈ markdownBetween source start stop) : node.codeBlock? = none := by
  unfold markdownBetween at h
  split at h
  · rw [List.mem_singleton.1 h]
    rfl
  · cases h

/-- Two slices that meet are one. -/
theorem slice_append_slice (text : List Char) {start middle stop : Nat} (hstart : start ≤ middle)
    (hstop : middle ≤ stop) :
    slice text start middle ++ slice text middle stop = slice text start stop := by
  have hcount : stop - start = (middle - start) + (stop - middle) := by omega
  have hplace : start + (middle - start) = middle := by omega
  rw [slice, slice, slice, hcount, List.take_add, List.drop_drop, hplace]

/-- A code node of a cut is the node of one of its spans, and the nodes before it hold the source up
to the start of that span. Assumes: spans that follow each other inside the source. -/
theorem cut_code {source : List Char} {cursor : Nat} {spans : List Span}
    (hfollow : Follow cursor source.length spans) {before after : List Node} {node : Node}
    {block : CodeBlock} (hnodes : cut source cursor spans = before ++ node :: after)
    (hblock : node.codeBlock? = some block) :
    ∃ span ∈ spans, cursor ≤ span.start ∧ node = blockNode source span ∧
      renderAll before = String.ofList (slice source cursor span.start) := by
  induction spans generalizing cursor before with
  | nil =>
    rw [cut] at hnodes
    have hmem : node ∈ markdownBetween source cursor source.length := by
      rw [hnodes]
      simp
    rw [codeBlock?_of_mem_markdownBetween hmem] at hblock
    cases hblock
  | cons span rest ih =>
    rw [cut] at hnodes
    have hgap := renderAll_markdownBetween source hfollow.1
    rcases List.append_eq_append_iff.1 hnodes with ⟨more, hbefore, hmore⟩ | ⟨more, hgapped, hmore⟩
    · cases more with
      | nil =>
        -- The node is that of the first span.
        rw [List.nil_append] at hmore
        obtain ⟨rfl, -⟩ := List.cons.inj hmore
        rw [List.append_nil] at hbefore
        exact ⟨span, List.mem_cons_self, hfollow.1, rfl, by rw [hbefore, hgap]⟩
      | cons first more =>
        obtain ⟨rfl, hrest⟩ := List.cons.inj hmore
        obtain ⟨found, hfound, hle, hnode, hrender⟩ := ih hfollow.2 hrest
        have hstart : span.start ≤ span.start + span.length := Nat.le_add_right _ _
        refine ⟨found, List.mem_cons_of_mem _ hfound, ?_, hnode, ?_⟩
        · exact Nat.le_trans hfollow.1 (Nat.le_trans hstart hle)
        · rw [hbefore, renderAll_append, renderAll_cons, hgap, hrender, render_blockNode, rawText,
            ← String.ofList_append, ← String.ofList_append]
          congr 1
          rw [slice_append_slice source hstart hle,
            slice_append_slice source hfollow.1 (Nat.le_trans hstart hle)]
    · -- A node of the gap before the first span is no code node.
      cases more with
      | nil =>
        rw [List.nil_append] at hmore
        obtain ⟨rfl, -⟩ := List.cons.inj hmore
        rw [List.append_nil] at hgapped
        exact ⟨span, List.mem_cons_self, hfollow.1, rfl, by rw [← hgapped, hgap]⟩
      | cons first more =>
        obtain ⟨rfl, -⟩ := List.cons.inj hmore
        have hmem : node ∈ markdownBetween source cursor span.start := by
          rw [hgapped]
          simp
        rw [codeBlock?_of_mem_markdownBetween hmem] at hblock
        cases hblock

/-! ### Bytes -/

/-- The number of bytes of characters is that of the text that they make. -/
theorem byteLength_eq (text : List Char) : byteLength text = (String.ofList text).utf8ByteSize := by
  induction text with
  | nil => rfl
  | cons c rest ih => rw [utf8ByteSize_ofList_cons, ← ih]; rfl

/-- The number of bytes before a node. -/
def startOf (nodes : List Node) (index : Nat) : Nat :=
  (renderAll (nodes.take index)).utf8ByteSize

/-- A byte belongs to the text of a node. -/
def Owns (nodes : List Node) (index byte : Nat) : Prop :=
  index < nodes.length ∧ startOf nodes index ≤ byte ∧ byte < startOf nodes (index + 1)

theorem startOf_zero (nodes : List Node) : startOf nodes 0 = 0 := rfl

theorem startOf_length (nodes : List Node) :
    startOf nodes nodes.length = (renderAll nodes).utf8ByteSize := by
  rw [startOf, List.take_length]

theorem startOf_mono (nodes : List Node) : Monotone (startOf nodes) := by
  intro first second hle
  have hsplit :
      nodes.take second = nodes.take first ++ (nodes.drop first).take (second - first) := by
    rw [← List.take_add, Nat.add_sub_cancel' hle]
  rw [startOf, startOf, hsplit, renderAll_append, String.utf8ByteSize_append]
  exact Nat.le_add_right _ _

/-- Every byte of the texts of nodes belongs to exactly one of them. -/
theorem existsUnique_owns (nodes : List Node) {byte : Nat}
    (hbyte : byte < (renderAll nodes).utf8ByteSize) : ∃! index, Owns nodes index byte := by
  rw [← startOf_length] at hbyte
  -- The owner is the node before the first one that starts behind the byte.
  have hexists : ∃ index, byte < startOf nodes index := ⟨nodes.length, hbyte⟩
  obtain ⟨owner, howner⟩ : ∃ owner, Nat.find hexists = owner + 1 := by
    refine Nat.exists_eq_succ_of_ne_zero fun hzero ↦ ?_
    have hfirst := Nat.find_spec hexists
    rw [hzero, startOf_zero] at hfirst
    exact Nat.not_lt_zero _ hfirst
  have hafter : byte < startOf nodes (owner + 1) := howner ▸ Nat.find_spec hexists
  have hbefore : startOf nodes owner ≤ byte :=
    Nat.le_of_not_lt (Nat.find_min hexists (howner ▸ Nat.lt_succ_self owner))
  have hlast : owner < nodes.length := by
    by_contra hbeyond
    exact Nat.not_lt.2 hbefore
      (Nat.lt_of_lt_of_le hbyte (startOf_mono nodes (Nat.le_of_not_lt hbeyond)))
  refine ⟨owner, ⟨hlast, hbefore, hafter⟩, fun other hother ↦ ?_⟩
  obtain ⟨-, hstart, hstop⟩ := hother
  by_contra hne
  rcases Nat.lt_or_gt_of_ne hne with hlt | hgt
  · have hle := startOf_mono nodes (show other + 1 ≤ owner from hlt)
    omega
  · have hle := startOf_mono nodes (show owner + 1 ≤ other from hgt)
    omega

/-! ### Whole sources -/

/-- The place of a code node is where the text before it ends, and its text is not empty. Assumes:
spans that follow each other inside the source, none of them empty. -/
theorem cut_place {source : List Char} {spans : List Span}
    (hfollow : Follow 0 source.length spans) (hpos : ∀ span ∈ spans, 0 < span.length)
    {before after : List Node} {node : Node} {block : CodeBlock}
    (hnodes : cut source 0 spans = before ++ node :: after)
    (hblock : node.codeBlock? = some block) :
    block.raw = some node.render ∧ node.render ≠ "" ∧
      node.position = some ⟨1 + (renderAll before).toList.count '\n',
        (renderAll before).utf8ByteSize⟩ := by
  obtain ⟨span, hspan, -, rfl, hbefore⟩ := cut_code hfollow hnodes hblock
  have hraw := render_blockNode source span
  cases hblock
  refine ⟨congrArg some hraw.symm, ?_, ?_⟩
  · intro hempty
    have hlength : (rawText source span).length = span.length := by
      have hstop := hfollow.stop_le hspan
      rw [rawText, slice, List.length_take, List.length_drop]
      omega
    have hnil : rawText source span = [] := by
      rw [hraw] at hempty
      simpa using congrArg String.toList hempty
    have hspanPos := hpos span hspan
    rw [← hlength, hnil] at hspanPos
    exact Nat.lt_irrefl 0 hspanPos
  · have hslice : slice source 0 span.start = source.take span.start := by
      rw [slice, List.drop_zero, Nat.sub_zero]
    rw [hslice] at hbefore
    simp only [blockNode, Position.after, hbefore, byteLength_eq, newlineCount,
      String.toList_ofList, Nat.add_comm]

/-- The recorded places of the code nodes, in bytes. -/
def codeOffsets (nodes : List Node) : List Nat :=
  (nodes.filter fun node ↦ node.codeBlock?.isSome).filterMap fun node ↦
    node.position.map Position.offset

/-- Each code node is written as its source text, which is not empty, and is recorded where the text
before it ends, counted from a number of bytes on. -/
def Placed (start : Nat) (nodes : List Node) : Prop :=
  ∀ before node after block, nodes = before ++ node :: after → node.codeBlock? = some block →
    block.raw = some node.render ∧ node.render ≠ "" ∧
      ∃ line, node.position = some ⟨line, start + (renderAll before).utf8ByteSize⟩

theorem Placed.tail {start : Nat} {first : Node} {nodes : List Node}
    (h : Placed start (first :: nodes)) : Placed (start + first.render.utf8ByteSize) nodes := by
  intro before node after block hnodes hblock
  obtain ⟨hraw, htext, line, hposition⟩ :=
    h (first :: before) node after block (by rw [hnodes]; rfl) hblock
  rw [renderAll_cons, String.utf8ByteSize_append, ← Nat.add_assoc] at hposition
  exact ⟨hraw, htext, line, hposition⟩

/-- The nodes of a cut are placed in its source. Assumes: spans that follow each other inside the
source, none of them empty. -/
theorem cut_placed {source : List Char} {spans : List Span}
    (hfollow : Follow 0 source.length spans) (hpos : ∀ span ∈ spans, 0 < span.length) :
    Placed 0 (cut source 0 spans) := by
  intro before node after block hnodes hblock
  obtain ⟨hraw, htext, hposition⟩ := cut_place hfollow hpos hnodes hblock
  exact ⟨hraw, htext, _, by rw [hposition, Nat.zero_add]⟩

/-- Places that are recorded where the texts before them end increase. -/
theorem Placed.codeOffsets_pairwise {start : Nat} {nodes : List Node} (h : Placed start nodes) :
    (codeOffsets nodes).Pairwise (· < ·) ∧ ∀ offset ∈ codeOffsets nodes, start ≤ offset := by
  induction nodes generalizing start with
  | nil => exact ⟨List.Pairwise.nil, nofun⟩
  | cons first nodes ih =>
    obtain ⟨hpairwise, hlater⟩ := ih h.tail
    cases hblock : first.codeBlock? with
    | none =>
      have hskip : codeOffsets (first :: nodes) = codeOffsets nodes := by
        simp [codeOffsets, hblock]
      rw [hskip]
      exact ⟨hpairwise, fun offset hoffset ↦ Nat.le_of_add_right_le (hlater offset hoffset)⟩
    | some block =>
      obtain ⟨-, htext, line, hposition⟩ := h [] first nodes block rfl hblock
      have hfirst : codeOffsets (first :: nodes) = start :: codeOffsets nodes := by
        simp [codeOffsets, hblock, hposition, renderAll]
      have hsize : first.render.utf8ByteSize ≠ 0 :=
        fun hzero ↦ htext (String.utf8ByteSize_eq_zero_iff.1 hzero)
      rw [hfirst]
      refine ⟨List.Pairwise.cons (fun offset hoffset ↦ ?_) hpairwise, fun offset hoffset ↦ ?_⟩
      · have hle := hlater offset hoffset
        omega
      · rcases List.mem_cons.1 hoffset with rfl | hoffset
        · exact Nat.le_refl _
        · exact Nat.le_of_add_right_le (hlater offset hoffset)

/-- Nodes tile a source. -/
structure Tiles (source : String) (nodes : List Node) : Prop where
  /-- Written one after the other, the nodes are the source. -/
  render_eq : renderAll nodes = source
  /-- The text of each node stands in the source between those of its neighbours. -/
  split_eq : ∀ before node after, nodes = before ++ node :: after →
    source = renderAll before ++ node.render ++ renderAll after
  /-- A code node has its text as source text and records where that starts: after so many bytes,
  on the line after so many newlines. -/
  place_eq : ∀ before node after block, nodes = before ++ node :: after →
    node.codeBlock? = some block → block.raw = some node.render ∧
      node.position = some ⟨1 + (renderAll before).toList.count '\n',
        (renderAll before).utf8ByteSize⟩
  /-- The recorded places increase. -/
  offsets_increase : (codeOffsets nodes).Pairwise (· < ·)
  /-- Every byte belongs to one node and to no other. -/
  owned : ∀ byte < source.utf8ByteSize, ∃! index, Owns nodes index byte

/-- The nodes of a cut tile the source. Assumes: spans that follow each other inside the source,
none of them empty. -/
theorem cut_tiles {source : String} {spans : List Span}
    (hfollow : Follow 0 source.toList.length spans) (hpos : ∀ span ∈ spans, 0 < span.length) :
    Tiles source (cut source.toList 0 spans) := by
  have hrender : renderAll (cut source.toList 0 spans) = source := by
    rw [renderAll_cut _ hfollow, List.drop_zero, String.ofList_toList]
  refine ⟨hrender, ?_, ?_, (cut_placed hfollow hpos).codeOffsets_pairwise.1, ?_⟩
  · intro before node after hnodes
    calc source = renderAll (before ++ node :: after) := by rw [← hnodes, hrender]
      _ = renderAll before ++ node.render ++ renderAll after := by
        rw [renderAll_append, renderAll_cons, String.append_assoc]
  · intro before node after block hnodes hblock
    obtain ⟨hraw, -, hposition⟩ := cut_place hfollow hpos hnodes hblock
    exact ⟨hraw, hposition⟩
  · intro byte hbyte
    refine existsUnique_owns _ ?_
    rw [hrender]
    exact hbyte

/-- The nodes of a source that can be read are a cut of it. -/
theorem parse_nodes {source : String} {document : Document} (h : parse source = .ok document) :
    ∃ content, content <:+ source.toList ∧
      document.nodes = cut source.toList 0 (spans source.toList content) := by
  unfold parse ofSource at h
  split at h
  · cases h
  · rename_i frontmatter content hread
    cases h
    exact ⟨content, Frontmatter.read_suffix hread, rfl⟩

/-- The nodes of a source that can be read are placed in it, and written they are the source. -/
theorem parse_placed {source : String} {document : Document} (h : parse source = .ok document) :
    Placed 0 document.nodes ∧ renderAll document.nodes = source := by
  obtain ⟨content, hcontent, hnodes⟩ := parse_nodes h
  have hfollow := spans_follow hcontent
  rw [hnodes]
  refine ⟨cut_placed hfollow (spans_length_pos source.toList content), ?_⟩
  rw [renderAll_cut _ hfollow, List.drop_zero, String.ofList_toList]

/-- The nodes of a source that can be read tile it, and the document written as Markdown is the
source. -/
theorem parse_tiles {source : String} {document : Document} (h : parse source = .ok document) :
    document.render = source ∧ Tiles source document.nodes := by
  obtain ⟨content, hcontent, hnodes⟩ := parse_nodes h
  have htiles := cut_tiles (spans_follow hcontent) (spans_length_pos source.toList content)
  rw [← hnodes] at htiles
  exact ⟨htiles.render_eq, htiles⟩

/-- A source with settings, a block with other line endings in a list and one that is never closed
in a quotation. -/
theorem parse_tiles_nested :
    let source := "---\n---\n- é\n\n  ```js\r\n  x()\r\n  ```\r\n> ~~~\n> y\n    code"
    ∃ document, parse source = .ok document ∧ codeOffsets document.nodes = [16, 39] ∧
      document.render = source ∧ Tiles source document.nodes := by
  intro source
  have hoffsets : (parse source).toOption.map (fun document ↦ codeOffsets document.nodes) =
      some [16, 39] := by decide +kernel
  cases hread : parse source with
  | error cause =>
    rw [hread] at hoffsets
    cases hoffsets
  | ok document =>
    rw [hread] at hoffsets
    obtain ⟨hrender, htiles⟩ := parse_tiles hread
    exact ⟨document, rfl, Option.some.inj hoffsets, hrender, htiles⟩

end Runbook.Document
