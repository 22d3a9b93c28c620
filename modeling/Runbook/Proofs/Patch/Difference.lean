import Runbook.Patch.Basic
import Runbook.Proofs.Text.Line
/-!
# Differences of files

What a patch stands for, told without reading or applying one. A file is the list of its lines with
their newlines, so that two lines which differ only in being terminated are different lines. A
difference is a list of excerpts: each says how many lines of both files stand before it, and gives
its lines, those of both files and those of only one. `Turns` holds when the excerpts, in order and
with the lines that no excerpt shows left as they are, turn one file into another.

`Writes` says which texts are a difference written as a patch. It is a relation and no function,
since some things can be written in two ways: a side of one line may leave its length out, and an
empty line of both files may leave out its mark.
-/

set_option autoImplicit false

namespace Runbook.Patch

open Text

/-! ### Excerpts -/

/-- A line of an excerpt, with its newline. -/
inductive Change where
  /-- A line of both files. -/
  | same (line : List Char)
  /-- A line of the old file alone. -/
  | removed (line : List Char)
  /-- A line of the new file alone. -/
  | added (line : List Char)
deriving DecidableEq, Repr

namespace Change

/-- The line in the old file. -/
def old? : Change → Option (List Char)
  | same line => some line
  | removed line => some line
  | added _ => none

/-- The line in the new file. -/
def new? : Change → Option (List Char)
  | same line => some line
  | removed _ => none
  | added line => some line

end Change

/-- The lines of the old file among changes. -/
def oldSide (changes : List Change) : List (List Char) := changes.filterMap Change.old?

/-- The lines of the new file among changes. -/
def newSide (changes : List Change) : List (List Char) := changes.filterMap Change.new?

/-- Some lines of both files that follow each other. -/
structure Excerpt where
  /-- The number of lines of the old file before the excerpt. -/
  oldBefore : Nat
  /-- The number of lines of the new file before the excerpt. -/
  newBefore : Nat
  changes : List Change
deriving DecidableEq, Repr

namespace Excerpt

/-- The lines of the old file. -/
def oldLines (excerpt : Excerpt) : List (List Char) := oldSide excerpt.changes

/-- The lines of the new file. -/
def newLines (excerpt : Excerpt) : List (List Char) := newSide excerpt.changes

end Excerpt

/-- Excerpts turn the rest of one file into the rest of another. So many lines stand before these
rests; between two excerpts, before the first and after the last the files are the same. -/
inductive Turns : Nat → Nat → List Excerpt → List (List Char) → List (List Char) → Prop where
  | rest (oldBefore newBefore : Nat) (lines : List (List Char)) :
      Turns oldBefore newBefore [] lines lines
  | excerpt {oldBefore newBefore : Nat} {excerpt : Excerpt} {excerpts : List Excerpt}
      {gap old new : List (List Char)} (hold : excerpt.oldBefore = oldBefore + gap.length)
      (hnew : excerpt.newBefore = newBefore + gap.length)
      (hrest : Turns (excerpt.oldBefore + excerpt.oldLines.length)
        (excerpt.newBefore + excerpt.newLines.length) excerpts old new) :
      Turns oldBefore newBefore (excerpt :: excerpts) (gap ++ excerpt.oldLines ++ old)
        (gap ++ excerpt.newLines ++ new)

/-! ### Written differences -/

/-- The number that a header gives for the start of a side: its first line, or the line before it
when it has none. -/
def startNumber (before count : Nat) : Nat := if count = 0 then before else before + 1

/-- A side of a header. A length of one may be left out. -/
inductive WritesSide (before count : Nat) : List Char → Prop where
  | full : WritesSide before count
      ((toString (startNumber before count)).toList ++ ',' :: (toString count).toList)
  | one (hcount : count = 1) :
      WritesSide before count (toString (startNumber before count)).toList

/-- The line after a line that lacks its newline. -/
def openMark : List Char := "\\ No newline at end of file".toList

/-- What is written after a line: a mark if it lacks its newline. -/
def marksAfter (line : List Char) : List (List Char) := if isEnded line then [] else [openMark]

/-- The lines of a patch for one change. -/
inductive WritesChange : Change → List (List Char) → Prop where
  | same (line : List Char) :
      WritesChange (.same line) ((' ' :: lineText line) :: marksAfter line)
  /-- An empty line may have lost its mark. -/
  | blank : WritesChange (.same ['\n']) [[]]
  | removed (line : List Char) :
      WritesChange (.removed line) (('-' :: lineText line) :: marksAfter line)
  | added (line : List Char) :
      WritesChange (.added line) (('+' :: lineText line) :: marksAfter line)

/-- The lines of a patch for changes. -/
inductive WritesChanges : List Change → List (List Char) → Prop where
  | nil : WritesChanges [] []
  | cons {change : Change} {changes : List Change} {written rest : List (List Char)}
      (hchange : WritesChange change written) (hrest : WritesChanges changes rest) :
      WritesChanges (change :: changes) (written ++ rest)

/-- The header of an excerpt, given how its sides are written. -/
def headerLine (old new : List Char) : List Char :=
  "@@ -".toList ++ (old ++ (" +".toList ++ (new ++ " @@".toList)))

/-- The lines of a patch for excerpts. -/
inductive WritesExcerpts : List Excerpt → List (List Char) → Prop where
  | nil : WritesExcerpts [] []
  | cons {excerpt : Excerpt} {excerpts : List Excerpt} {old new : List Char}
      {body rest : List (List Char)}
      (hold : WritesSide excerpt.oldBefore excerpt.oldLines.length old)
      (hnew : WritesSide excerpt.newBefore excerpt.newLines.length new)
      (hbody : WritesChanges excerpt.changes body) (hrest : WritesExcerpts excerpts rest) :
      WritesExcerpts (excerpt :: excerpts) (headerLine old new :: (body ++ rest))

/-- A text is a difference written as a patch, each line with a newline. -/
def Writes (excerpts : List Excerpt) (text : String) : Prop :=
  ∃ lines, WritesExcerpts excerpts lines ∧ text.toList = lines.flatMap fun line ↦ line ++ ['\n']

/-! ### What excerpts say of the files -/

namespace Turns

variable {oldBefore newBefore : Nat} {excerpts : List Excerpt} {old new : List (List Char)}

/-- The lines of an excerpt are in the files, with so many lines before them. -/
theorem excerpt_le (h : Turns oldBefore newBefore excerpts old new) :
    ∀ excerpt ∈ excerpts,
      excerpt.oldBefore + excerpt.oldLines.length ≤ oldBefore + old.length ∧
        excerpt.newBefore + excerpt.newLines.length ≤ newBefore + new.length := by
  induction h with
  | rest => nofun
  | @excerpt oldBefore newBefore first excerpts gap old new hold hnew hrest ih =>
    simp only [List.length_append]
    intro excerpt hexcerpt
    rcases List.mem_cons.1 hexcerpt with rfl | hexcerpt
    · omega
    · obtain ⟨hle, hle'⟩ := ih excerpt hexcerpt
      omega

/-- The lines of excerpts are lines of the files. -/
theorem mem_of_mem_excerpt (h : Turns oldBefore newBefore excerpts old new) :
    ∀ excerpt ∈ excerpts, (∀ line ∈ excerpt.oldLines, line ∈ old) ∧
      ∀ line ∈ excerpt.newLines, line ∈ new := by
  induction h with
  | rest => nofun
  | @excerpt oldBefore newBefore first excerpts gap old new hold hnew hrest ih =>
    intro excerpt hexcerpt
    rcases List.mem_cons.1 hexcerpt with rfl | hexcerpt
    · exact ⟨fun line hline ↦ List.mem_append_left _ (List.mem_append_right _ hline),
        fun line hline ↦ List.mem_append_left _ (List.mem_append_right _ hline)⟩
    · obtain ⟨hmem, hmem'⟩ := ih excerpt hexcerpt
      exact ⟨fun line hline ↦ List.mem_append_right _ (hmem line hline),
        fun line hline ↦ List.mem_append_right _ (hmem' line hline)⟩

/-- The lines of both files that lack their newline are those that the excerpts show and those, the
same in both, that they do not show. -/
theorem countP_isOpenLine (h : Turns oldBefore newBefore excerpts old new) :
    ∃ hidden, old.countP isOpenLine =
        hidden + (excerpts.flatMap Excerpt.oldLines).countP isOpenLine ∧
      new.countP isOpenLine = hidden + (excerpts.flatMap Excerpt.newLines).countP isOpenLine := by
  induction h with
  | rest oldBefore newBefore lines => exact ⟨lines.countP isOpenLine, rfl, rfl⟩
  | @excerpt oldBefore newBefore first excerpts gap old new hold hnew hrest ih =>
    obtain ⟨hidden, hcount, hcount'⟩ := ih
    refine ⟨gap.countP isOpenLine + hidden, ?_, ?_⟩
    · simp only [List.countP_append, hcount, List.flatMap_cons]
      omega
    · simp only [List.countP_append, hcount', List.flatMap_cons]
      omega

end Turns

/-! ### Files -/

/-- A line of a file without its newline. -/
def bare (line : List Char) : String := String.ofList (lineText line)

/-- The lines of a file are those of its text without their newlines. -/
theorem fileLines_eq (content : String) :
    fileLines content = (terminated content.toList).map bare := by
  unfold fileLines
  split
  · next hempty =>
    rw [String.isEmpty_iff.1 hempty]
    rfl
  · next hempty =>
    have hne : content.toList ≠ [] := by
      intro hnil
      exact hempty (String.isEmpty_iff.2 (String.toList_eq_nil_iff.1 hnil))
    have hstrip : (if content.toList.getLast? = some '\n' then content.toList.dropLast
        else content.toList) = lineText content.toList := by
      unfold lineText isEnded
      split <;> simp_all
    show List.map String.ofList (splitAt '\n' (if _ then _ else _)) = _
    rw [hstrip, splitAt_lineText hne, List.map_map]
    rfl

theorem isEmpty_eq (content : String) : content.isEmpty = content.toList.isEmpty := by
  rw [Bool.eq_iff_iff, String.isEmpty_iff, List.isEmpty_iff, String.toList_eq_nil_iff]

/-- A file is terminated when all of its lines are. -/
theorem isTerminated_eq (content : String) :
    isTerminated content = (terminated content.toList).all isEnded := by
  rw [all_isEnded_terminated, isTerminated, isEmpty_eq]
  rfl

/-- The lines of a file put together are the file. -/
theorem fileOfLines_fileLines (content : String) :
    fileOfLines (fileLines content) (isTerminated content) = content := by
  by_cases hempty : content.toList = []
  · rw [String.toList_eq_nil_iff.1 hempty]
    rfl
  · have hlines :
        (fileLines content).map String.toList = splitAt '\n' (lineText content.toList) := by
      rw [fileLines_eq, splitAt_lineText hempty, List.map_map]
      exact List.map_congr_left fun line _ ↦ String.toList_ofList
    have hterminated : isTerminated content = isEnded content.toList := by
      rw [isTerminated, isEmpty_eq, List.isEmpty_eq_false_iff.2 hempty, Bool.false_or]
      rfl
    have hsome : (fileLines content).isEmpty = false := by
      rw [List.isEmpty_eq_false_iff]
      intro hnil
      rw [hnil] at hlines
      exact splitAt_ne_nil _ _ hlines.symm
    have hended : (if isEnded content.toList then lineText content.toList ++ ['\n']
        else lineText content.toList) = content.toList := by
      have hending := lineText_append_ending content.toList
      by_cases hlast : isEnded content.toList
      · rw [if_pos hlast] at hending ⊢
        exact hending
      · rw [if_neg hlast, List.append_nil] at hending
        rw [if_neg hlast]
        exact hending
    rw [fileOfLines, hlines, joinWith_splitAt, hterminated, hsome, Bool.not_false, Bool.and_true]
    exact (congrArg String.ofList hended).trans String.ofList_toList

theorem all_isEnded_eq (lines : List (List Char)) :
    lines.all isEnded = decide (lines.countP isOpenLine = 0) := by
  rw [Bool.eq_iff_iff, List.all_eq_true, decide_eq_true_iff, List.countP_eq_zero]
  simp [isOpenLine]

theorem any_isOpenLine_eq (lines : List (List Char)) :
    lines.any isOpenLine = decide (0 < lines.countP isOpenLine) := by
  rw [Bool.eq_iff_iff, List.any_eq_true, decide_eq_true_iff, List.countP_pos_iff]

/-- What the last newlines of two files have to do with each other: the new file ends in one when no
excerpt shows a line of it that lacks one and either an excerpt shows such a line of the old file or
that file ends in a newline. -/
theorem isTerminated_of_turns {old new : String} {excerpts : List Excerpt}
    (h : Turns 0 0 excerpts (terminated old.toList) (terminated new.toList)) :
    isTerminated new = (!(excerpts.flatMap Excerpt.newLines).any isOpenLine &&
      ((excerpts.flatMap Excerpt.oldLines).any isOpenLine || isTerminated old)) := by
  obtain ⟨hidden, hold, hnew⟩ := h.countP_isOpenLine
  have hone : (terminated old.toList).countP isOpenLine ≤ 1 := countP_isOpenLine_le old.toList
  rw [hold] at hone
  rw [isTerminated_eq, isTerminated_eq, all_isEnded_eq, all_isEnded_eq, any_isOpenLine_eq,
    any_isOpenLine_eq, hold, hnew, Bool.eq_iff_iff]
  simp only [decide_eq_true_eq, Bool.and_eq_true, Bool.or_eq_true, Bool.not_eq_true',
    decide_eq_false_iff_not]
  omega

end Runbook.Patch
