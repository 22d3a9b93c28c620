import Mathlib.Data.List.DropRight
import Runbook.Document.Parse
import Runbook.Proofs.Text.Line
/-!
# What the indent of a node does to its lines

A node that a block is replaced by is written with the indent of the block: `indentContinuation`
puts it before each later line, but not before an empty one. `laterLines_indentContinuation` says so
line by line, for an indent without newlines, which is what every fence gives
(`newline_not_mem_continuationIndent`). From it `Node.render_continuation` reads what this means for
the containers of the block. Taking the indent off again gives the text that was shown. The marks of
the quotations around the block stand before all later lines exactly when there are no such marks or
the text has no empty later line.

So a text with an empty line leaves its quotation, and the second part of a block that was written
in one becomes a block of its own: `render_leaves_quotation`.
-/

set_option autoImplicit false

namespace Runbook.Document

open Text

/-! ### Lines after the first -/

/-- The lines of a text after its first one. -/
def laterLines (text : List Char) : List (List Char) := (splitAt '\n' text).tail

/-- A line without an indent that it starts with. -/
def outdent (indent line : List Char) : List Char :=
  if indent.isPrefixOf line then line.drop indent.length else line

/-- A text whose later lines have lost an indent that they start with. -/
def outdentContinuation (indent text : List Char) : List Char :=
  match splitAt '\n' text with
  | [] => []
  | first :: rest => joinWith ['\n'] (first :: rest.map (outdent indent))

/-- An indent up to the last mark of a quotation in it. -/
def quotationMarks (indent : List Char) : List Char := indent.rdropWhile (· != '>')

/-- A line as it is written after an indent: an empty one stays empty. -/
def indentLine (indent line : List Char) : List Char :=
  if line.isEmpty then line else indent ++ line

theorem exists_splitAt_eq_cons (text : List Char) :
    ∃ first rest, splitAt '\n' text = first :: rest :=
  List.exists_cons_of_ne_nil (splitAt_ne_nil '\n' text)

/-- An empty indent changes nothing. -/
theorem indentContinuation_nil (text : List Char) : indentContinuation [] text = text := by
  obtain ⟨first, rest, h⟩ := exists_splitAt_eq_cons text
  have hlines : rest.map (indentLine []) = rest := List.map_id'' (fun line ↦ ite_self line) rest
  calc indentContinuation [] text = joinWith ['\n'] (first :: rest.map (indentLine [])) := by
        rw [indentContinuation, h]
        rfl
    _ = text := by rw [hlines, ← h, joinWith_splitAt]

/-- Indenting a text indents its later lines one by one. -/
theorem splitAt_indentContinuation {indent : List Char} (hindent : '\n' ∉ indent)
    {text first : List Char} {rest : List (List Char)} (h : splitAt '\n' text = first :: rest) :
    splitAt '\n' (indentContinuation indent text) = first :: rest.map (indentLine indent) := by
  have hpieces : ∀ piece ∈ first :: rest, '\n' ∉ piece := fun piece hpiece ↦
    notMem_of_mem_splitAt (h ▸ hpiece)
  rw [indentContinuation, h]
  refine splitAt_joinWith fun piece hpiece ↦ ?_
  rcases List.mem_cons.1 hpiece with rfl | hpiece
  · exact hpieces _ List.mem_cons_self
  · obtain ⟨line, hline, rfl⟩ := List.mem_map.1 hpiece
    have hfree := hpieces line (List.mem_cons_of_mem first hline)
    split
    · exact hfree
    · rw [List.mem_append]
      exact not_or.2 ⟨hindent, hfree⟩

/-- Indenting a text indents its later lines one by one. -/
theorem laterLines_indentContinuation {indent : List Char} (hindent : '\n' ∉ indent)
    (text : List Char) :
    laterLines (indentContinuation indent text) = (laterLines text).map (indentLine indent) := by
  obtain ⟨first, rest, h⟩ := exists_splitAt_eq_cons text
  rw [laterLines, laterLines, splitAt_indentContinuation hindent h, h]
  rfl

theorem outdent_indentLine (indent line : List Char) :
    outdent indent (indentLine indent line) = line := by
  unfold outdent indentLine
  cases line with
  | nil => cases indent <;> rfl
  | cons c line =>
    have hprefix : indent.isPrefixOf (indent ++ c :: line) = true :=
      List.isPrefixOf_iff_prefix.2 (List.prefix_append _ _)
    rw [List.isEmpty_cons, if_neg Bool.false_ne_true, if_pos hprefix, List.drop_left]

/-- Taking an indent off gives back the text that was indented. -/
theorem outdentContinuation_indentContinuation {indent : List Char} (hindent : '\n' ∉ indent)
    (text : List Char) : outdentContinuation indent (indentContinuation indent text) = text := by
  obtain ⟨first, rest, h⟩ := exists_splitAt_eq_cons text
  have hlines : (rest.map (indentLine indent)).map (outdent indent) = rest := by
    rw [List.map_map]
    exact List.map_id'' (outdent_indentLine indent) rest
  rw [outdentContinuation, splitAt_indentContinuation hindent h]
  simp only [hlines]
  rw [← h, joinWith_splitAt]

/-! ### Marks of quotations -/

theorem quotationMarks_prefix_indent (indent : List Char) : quotationMarks indent <+: indent :=
  List.rdropWhile_prefix _ indent

theorem quotationMarks_eq_nil {indent : List Char} : quotationMarks indent = [] ↔ '>' ∉ indent := by
  rw [quotationMarks, List.rdropWhile_eq_nil_iff]
  constructor
  · intro h hmem
    exact absurd (h '>' hmem) (by decide)
  · intro h c hc
    exact bne_iff_ne.2 fun hmark ↦ h (hmark ▸ hc)

/-- Every line of some lines keeps the marks of an indent when it is written after it, unless there
are marks and one of the lines is empty. -/
theorem quotationMarks_prefix_iff (indent : List Char) (lines : List (List Char)) :
    (∀ line ∈ lines.map (indentLine indent), quotationMarks indent <+: line) ↔
      '>' ∉ indent ∨ [] ∉ lines := by
  rw [← quotationMarks_eq_nil, List.forall_mem_map]
  constructor
  · intro h
    refine or_iff_not_imp_right.2 fun hempty ↦ ?_
    exact List.prefix_nil.1 (h [] (not_not.1 hempty))
  · rintro (hmarks | hempty) line hline
    · rw [hmarks]
      exact List.nil_prefix
    · have hne : line ≠ [] := fun hnil ↦ hempty (hnil ▸ hline)
      rw [indentLine, if_neg (by simpa using hne)]
      exact (quotationMarks_prefix_indent indent).trans (List.prefix_append _ _)

/-! ### Nodes in their containers -/

/-- The indent of a fence is part of one line. -/
theorem newline_not_mem_continuationIndent (before : List Char) :
    '\n' ∉ continuationIndent before := by
  unfold continuationIndent
  intro hmem
  obtain ⟨c, hc, hnewline⟩ := List.mem_map.1 hmem
  have hkept := List.mem_takeWhile_imp (List.mem_reverse.1 hc)
  split at hnewline
  · rw [hnewline] at hkept
    exact absurd hkept (by decide)
  · exact absurd hnewline (by decide)

/-- A node that replaces a block, with the indent that the text before the fence of the block gives
it, and that is not written as it stands in a source: each later line is empty or starts with the
indent; taking the indent off again gives what the node shows; and the marks of the quotations
around the block start each later line exactly when there are none or the node shows no empty later
line. -/
theorem Node.render_continuation {node : Node} {before : List Char}
    (hcontent : node.content.isVerbatim = false)
    (hindent : node.indent = String.ofList (continuationIndent before)) :
    (∀ line ∈ laterLines node.render.toList, line = [] ∨ continuationIndent before <+: line) ∧
      outdentContinuation (continuationIndent before) node.render.toList = node.content.render ∧
      ((∀ line ∈ laterLines node.render.toList,
          quotationMarks (continuationIndent before) <+: line) ↔
        '>' ∉ continuationIndent before ∨ [] ∉ laterLines node.content.render) := by
  have hfree := newline_not_mem_continuationIndent before
  have hrender : node.render.toList =
      indentContinuation (continuationIndent before) node.content.render := by
    rw [Node.render, if_neg (by rw [hcontent]; exact Bool.false_ne_true), hindent,
      String.toList_ofList, String.toList_ofList]
  rw [hrender, laterLines_indentContinuation hfree]
  refine ⟨?_, outdentContinuation_indentContinuation hfree _, quotationMarks_prefix_iff _ _⟩
  rw [List.forall_mem_map]
  intro line _
  unfold indentLine
  split
  · next hempty => exact .inl (List.isEmpty_iff.1 hempty)
  · exact .inr (List.prefix_append _ _)

/-- The replacement of a block in a quotation by a console block that shows an empty line. -/
def quotedConsole : Node :=
  { Node.code "console" "a\n\nb\n" with
    indent := String.ofList (continuationIndent "> ".toList) }

theorem Node.render_continuation_quotedConsole :
    quotedConsole.content.isVerbatim = false ∧
      quotedConsole.indent = String.ofList (continuationIndent "> ".toList) ∧
      quotedConsole.render = "```console\n> a\n\n> b\n> ```" ∧
      outdentContinuation "> ".toList quotedConsole.render.toList =
        "```console\na\n\nb\n```".toList :=
  have h := @Node.render_continuation quotedConsole "> ".toList rfl rfl
  ⟨rfl, rfl, by decide, h.2.1⟩

/-- The empty line of a replacement in a quotation has no mark of the quotation, and the document
that holds the replacement has two code blocks where one was written. -/
theorem render_leaves_quotation :
    ¬ (∀ line ∈ laterLines quotedConsole.render.toList,
        quotationMarks (continuationIndent "> ".toList) <+: line) ∧
      (parse ("> " ++ quotedConsole.render ++ "\n")).toOption.map (fun document ↦
        document.codeBlocks.map fun block ↦ (block.info, block.body)) =
          some [("console", "a\n"), ("", "")] := by
  constructor
  · decide
  · decide +kernel

end Runbook.Document
