import Runbook.Text.Line
/-!
# Lines of texts

The lines of a text with their newlines, `terminated`, and how the other ways to cut a text at its
newlines go back to them. `lines_induction` is the shape of a text: it is empty, it is one line that
lacks its newline, or it is a line, a newline and another text. The facts below follow it.

`contentLines_flatMap` reads back a text that was written line by line. `splitAt_lineText` says that
the pieces of a text, once the newline at its very end is taken off, are its lines without their
newlines. Only the last line of a text can lack its newline, so at most one does:
`countP_isOpenLine_le`.
-/

set_option autoImplicit false

namespace Runbook.Text

/-- Whether a line ends in a newline. -/
def isEnded (line : List Char) : Bool := line.getLast? = some '\n'

/-- Whether a line lacks its newline. -/
def isOpenLine (line : List Char) : Bool := !isEnded line

/-- A line without its newline, if it has one. -/
def lineText (line : List Char) : List Char := if isEnded line then line.dropLast else line

theorem isEnded_append_newline (line : List Char) : isEnded (line ++ ['\n']) = true := by
  simp [isEnded]

theorem lineText_append_newline (line : List Char) : lineText (line ++ ['\n']) = line := by
  rw [lineText, if_pos (isEnded_append_newline line), List.dropLast_concat]

/-- A line is what it has before its newline, and the newline if it has one. -/
theorem lineText_append_ending (line : List Char) :
    lineText line ++ (if isEnded line then ['\n'] else []) = line := by
  unfold lineText
  split
  · next hended =>
    obtain ⟨before, rfl⟩ := List.getLast?_eq_some_iff.1 (of_decide_eq_true hended)
    rw [List.dropLast_concat]
  · exact List.append_nil line

theorem isEnded_of_not_mem {line : List Char} (h : '\n' ∉ line) : isEnded line = false := by
  refine decide_eq_false fun hlast ↦ h ?_
  exact List.mem_of_getLast? hlast

theorem lineText_of_not_mem {line : List Char} (h : '\n' ∉ line) : lineText line = line := by
  rw [lineText, if_neg (by rw [isEnded_of_not_mem h]; exact Bool.false_ne_true)]

theorem newline_not_mem_cons {c : Char} {line : List Char} (h : '\n' ∉ c :: line) :
    c ≠ '\n' ∧ '\n' ∉ line :=
  ⟨fun hc ↦ h (hc ▸ List.mem_cons_self), fun hline ↦ h (List.mem_cons_of_mem c hline)⟩

/-- A text ends in a newline when nothing follows its first line or what follows ends in one. -/
theorem isEnded_append (line rest : List Char) :
    isEnded (line ++ '\n' :: rest) = (rest.isEmpty || isEnded rest) := by
  cases rest with
  | nil => exact isEnded_append_newline line
  | cons c rest => simp [isEnded, List.getLast?_append, List.getLast?_cons_cons]

/-- A text is empty, a line that lacks its newline, or a line, a newline and a text. -/
theorem lines_induction {motive : List Char → Prop} (nil : motive [])
    (last : ∀ line, '\n' ∉ line → line ≠ [] → motive line)
    (line : ∀ line rest, '\n' ∉ line → motive rest → motive (line ++ '\n' :: rest))
    (text : List Char) : motive text := by
  by_cases hnewline : '\n' ∈ text
  · obtain ⟨before, rest, htext, hbefore⟩ := List.eq_append_cons_of_mem hnewline
    rw [htext]
    exact line before rest hbefore (lines_induction nil last line rest)
  · by_cases hempty : text = []
    · rw [hempty]
      exact nil
    · exact last text hnewline hempty
termination_by text.length
decreasing_by
  rw [htext, List.length_append, List.length_cons]
  omega

/-! ### Lines with their newlines -/

theorem terminated_of_not_mem {line : List Char} (h : '\n' ∉ line) (hne : line ≠ []) :
    terminated line = [line] := by
  induction line with
  | nil => exact absurd rfl hne
  | cons c rest ih =>
    obtain ⟨hc, hrest⟩ := newline_not_mem_cons h
    rw [terminated, if_neg hc]
    by_cases hempty : rest = []
    · rw [hempty]
      rfl
    · rw [ih hrest hempty]

theorem terminated_append {line : List Char} (h : '\n' ∉ line) (rest : List Char) :
    terminated (line ++ '\n' :: rest) = (line ++ ['\n']) :: terminated rest := by
  induction line with
  | nil =>
    rw [List.nil_append, terminated, if_pos rfl]
    rfl
  | cons c line ih =>
    obtain ⟨hc, hline⟩ := newline_not_mem_cons h
    rw [List.cons_append, terminated, if_neg hc, ih hline]
    rfl

/-- A line of a text has no newline but the one at its end. -/
theorem newline_not_mem_lineText {text line : List Char} (h : line ∈ terminated text) :
    '\n' ∉ lineText line := by
  induction text using lines_induction with
  | nil => cases h
  | last only hmem hne =>
    rw [terminated_of_not_mem hmem hne, List.mem_singleton] at h
    rw [h, lineText_of_not_mem hmem]
    exact hmem
  | line first rest hmem ih =>
    rw [terminated_append hmem] at h
    rcases List.mem_cons.1 h with rfl | h
    · rw [lineText_append_newline]
      exact hmem
    · exact ih h

/-- All lines of a text end in newlines when it is empty or ends in one. -/
theorem all_isEnded_terminated (text : List Char) :
    (terminated text).all isEnded = (text.isEmpty || isEnded text) := by
  induction text using lines_induction with
  | nil => rfl
  | last line hmem hne =>
    rw [terminated_of_not_mem hmem hne, List.isEmpty_eq_false_iff.2 hne, List.all_cons,
      List.all_nil, Bool.false_or, Bool.and_true]
  | line line rest hmem ih =>
    rw [terminated_append hmem, List.all_cons, isEnded_append_newline, isEnded_append, ih]
    simp

/-- At most one line of a text lacks its newline. -/
theorem countP_isOpenLine_le (text : List Char) : (terminated text).countP isOpenLine ≤ 1 := by
  induction text using lines_induction with
  | nil => exact Nat.zero_le 1
  | last line hmem hne =>
    rw [terminated_of_not_mem hmem hne]
    exact List.countP_le_length
  | line line rest hmem ih =>
    rw [terminated_append hmem, List.countP_cons_of_neg]
    · exact ih
    · rw [isOpenLine, isEnded_append_newline]
      exact Bool.false_ne_true

/-- A text has no more lines than characters. -/
theorem length_terminated_le (text : List Char) : (terminated text).length ≤ text.length := by
  induction text using lines_induction with
  | nil => exact Nat.le_refl 0
  | last line hmem hne =>
    rw [terminated_of_not_mem hmem hne]
    exact List.length_pos_iff.2 hne
  | line line rest hmem ih =>
    rw [terminated_append hmem, List.length_cons, List.length_append, List.length_cons]
    omega

/-! ### Lines that are read -/

theorem withoutEnding_append_newline {line : List Char} (h : line.getLast? ≠ some '\r') :
    withoutEnding (line ++ ['\n']) = line := by
  rw [withoutEnding, if_pos (List.getLast?_concat), List.dropLast_concat, if_neg h]

/-- Lines that are written with a newline after each are read back. Assumes: none of them holds a
newline or ends in a carriage return. -/
theorem contentLines_flatMap {lines : List (List Char)}
    (h : ∀ line ∈ lines, '\n' ∉ line ∧ line.getLast? ≠ some '\r') :
    contentLines (lines.flatMap fun line ↦ line ++ ['\n']) = lines := by
  unfold contentLines
  induction lines with
  | nil => rfl
  | cons line lines ih =>
    obtain ⟨hmem, hreturn⟩ := h line List.mem_cons_self
    have hrest := ih fun other hother ↦ h other (List.mem_cons_of_mem line hother)
    rw [List.flatMap_cons, List.append_assoc, List.singleton_append, terminated_append hmem,
      List.map_cons, hrest, withoutEnding_append_newline hreturn]

/-! ### Pieces between newlines -/

theorem splitAt_of_not_mem {separator : Char} {text : List Char} (h : separator ∉ text) :
    splitAt separator text = [text] := by
  induction text with
  | nil => rfl
  | cons c rest ih =>
    rw [List.mem_cons, not_or] at h
    rw [splitAt, if_neg (Ne.symm h.1), ih h.2]

/-- The pieces between separators have no separator in them. -/
theorem notMem_of_mem_splitAt {separator : Char} {text piece : List Char}
    (h : piece ∈ splitAt separator text) : separator ∉ piece := by
  induction text generalizing piece with
  | nil =>
    rw [splitAt, List.mem_singleton] at h
    exact h ▸ List.not_mem_nil
  | cons c text ih =>
    obtain ⟨first, rest, hsplit⟩ := List.exists_cons_of_ne_nil (splitAt_ne_nil separator text)
    rw [splitAt, hsplit] at h
    rw [hsplit] at ih
    split at h
    · rcases List.mem_cons.1 h with rfl | h
      · exact List.not_mem_nil
      · exact ih h
    · rename_i hc
      rcases List.mem_cons.1 h with rfl | h
      · rw [List.mem_cons, not_or]
        exact ⟨Ne.symm hc, ih List.mem_cons_self⟩
      · exact ih (List.mem_cons_of_mem _ h)

/-- The pieces of two texts with a separator between them. -/
theorem splitAt_append_cons (separator : Char) (before after : List Char) :
    splitAt separator (before ++ separator :: after) =
      splitAt separator before ++ splitAt separator after := by
  induction before with
  | nil => exact if_pos rfl
  | cons c before ih =>
    rw [List.cons_append, splitAt, splitAt, ih]
    split
    · rfl
    · obtain ⟨piece, pieces, hpieces⟩ :=
        List.exists_cons_of_ne_nil (splitAt_ne_nil separator before)
      rw [hpieces]
      rfl

theorem splitAt_append {separator : Char} {line : List Char} (h : separator ∉ line)
    (rest : List Char) :
    splitAt separator (line ++ separator :: rest) = line :: splitAt separator rest := by
  rw [splitAt_append_cons, splitAt_of_not_mem h, List.singleton_append]

/-- Lines that are joined are the lines of what they make. Assumes: there is a line, and none of
them holds a newline. -/
theorem splitAt_joinWith {first : List Char} {rest : List (List Char)}
    (h : ∀ piece ∈ first :: rest, '\n' ∉ piece) :
    splitAt '\n' (joinWith ['\n'] (first :: rest)) = first :: rest := by
  induction rest generalizing first with
  | nil => exact splitAt_of_not_mem (h first List.mem_cons_self)
  | cons second rest ih =>
    have hrest := ih fun piece hpiece ↦ h piece (List.mem_cons_of_mem first hpiece)
    rw [joinWith, List.append_assoc, List.singleton_append,
      splitAt_append (h first List.mem_cons_self), hrest]
    exact List.cons_ne_nil second rest

/-- The last piece of a text ends as the text does, unless that is a separator. -/
theorem exists_concat_mem_splitAt {separator c : Char} (h : c ≠ separator) (text : List Char) :
    ∃ piece, piece ++ [c] ∈ splitAt separator (text ++ [c]) := by
  induction text with
  | nil =>
    rw [List.nil_append, splitAt, if_neg h]
    exact ⟨[], List.mem_cons_self⟩
  | cons d text ih =>
    obtain ⟨piece, hpiece⟩ := ih
    rw [List.cons_append, splitAt]
    split
    · exact ⟨piece, List.mem_cons_of_mem _ hpiece⟩
    · obtain ⟨first, pieces, hpieces⟩ :=
        List.exists_cons_of_ne_nil (splitAt_ne_nil separator (text ++ [c]))
      rw [hpieces] at hpiece ⊢
      rcases List.mem_cons.1 hpiece with rfl | hpiece
      · exact ⟨d :: piece, List.mem_cons_self⟩
      · exact ⟨piece, List.mem_cons_of_mem _ hpiece⟩

/-- The lines of a text without their newlines, that of the last one taken off first. -/
theorem splitAt_lineText {text : List Char} (h : text ≠ []) :
    splitAt '\n' (lineText text) = (terminated text).map lineText := by
  induction text using lines_induction with
  | nil => exact absurd rfl h
  | last line hmem hne =>
    rw [terminated_of_not_mem hmem hne, lineText_of_not_mem hmem, splitAt_of_not_mem hmem,
      List.map_singleton, lineText_of_not_mem hmem]
  | line line rest hmem ih =>
    rw [terminated_append hmem, List.map_cons, lineText_append_newline]
    by_cases hempty : rest = []
    · rw [hempty, lineText_append_newline, splitAt_of_not_mem hmem]
      rfl
    · -- The last line of the whole is that of the rest.
      have hlast : lineText (line ++ '\n' :: rest) = line ++ '\n' :: lineText rest := by
        rw [lineText, lineText, isEnded_append, List.isEmpty_eq_false_iff.2 hempty, Bool.false_or]
        split
        · rw [List.dropLast_append_cons, List.dropLast_cons_of_ne_nil hempty]
        · rfl
      rw [hlast, splitAt_append hmem, ih hempty]

/-! ### Bytes -/

theorem utf8ByteSize_ofList_cons (c : Char) (rest : List Char) :
    (String.ofList (c :: rest)).utf8ByteSize = c.utf8Size + (String.ofList rest).utf8ByteSize := by
  have hcons : String.ofList (c :: rest) = String.singleton c ++ String.ofList rest := by
    rw [String.singleton_eq_ofList, ← String.ofList_append]
    rfl
  rw [hcons, String.utf8ByteSize_append, String.utf8ByteSize_singleton]

/-- A text has at least as many bytes as characters. -/
theorem length_le_utf8ByteSize (text : String) : text.toList.length ≤ text.utf8ByteSize := by
  have hchars (chars : List Char) : chars.length ≤ (String.ofList chars).utf8ByteSize := by
    induction chars with
    | nil => exact Nat.zero_le _
    | cons c rest ih =>
      have hpos := c.utf8Size_pos
      rw [utf8ByteSize_ofList_cons, List.length_cons]
      omega
  have hle := hchars text.toList
  rw [String.ofList_toList] at hle
  exact hle

end Runbook.Text
