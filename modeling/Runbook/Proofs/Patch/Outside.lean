import Runbook.Proofs.Patch.Marks
/-!
# Text outside the hunks

A patch that applies keeps the lines before the range of its first hunk and those after the range of
its last one (`exists_replaced_eq`). The newline at the end of the file is not kept with them: it is
decided once for the whole patch, by marks that can stand in any hunk. So the text outside can lose
or gain this one newline. `apply_outside` says exactly when: after the last hunk when the marks do
not agree with the end of the file, and before the first one when all that follows is removed from a
file that lacks its last newline and no mark says so.

`textBefore` and `textFrom` are the two parts of a file around a line, as texts. What is known of
files as lines is carried over to them by `textBefore_eq` and `textFrom_eq`.
-/

set_option autoImplicit false

namespace Runbook.Patch

open Text

/-! ### Parts of a file -/

/-- The text of a file before a line, the first line being zero. -/
def textBefore (content : String) (n : Nat) : List Char :=
  ((terminated content.toList).take n).flatten

/-- The text of a file from a line on, the first line being zero. -/
def textFrom (content : String) (n : Nat) : List Char :=
  ((terminated content.toList).drop n).flatten

/-- Lines with a newline after each. -/
def withNewlines (lines : List String) : List Char := lines.flatMap fun line ↦ line.toList ++ ['\n']

variable {content : String} {lines others : List String} {n : Nat}

theorem textBefore_append_textFrom (content : String) (n : Nat) :
    textBefore content n ++ textFrom content n = content.toList := by
  rw [textBefore, textFrom, ← List.flatten_append, List.take_append_drop, flatten_terminated]

theorem length_fileLines (content : String) :
    (fileLines content).length = (terminated content.toList).length := by
  rw [fileLines_eq, List.length_map]

/-- All of a file stands before its end. -/
theorem textBefore_length (content : String) :
    textBefore content (fileLines content).length = content.toList := by
  rw [textBefore, length_fileLines, List.take_length, flatten_terminated]

/-- Every line of a text but the last ends in a newline. -/
theorem isEnded_of_mem_dropLast {text line : List Char} (h : line ∈ (terminated text).dropLast) :
    isEnded line = true := by
  induction text using lines_induction with
  | nil => cases h
  | last only hmem hne =>
    rw [terminated_of_not_mem hmem hne] at h
    cases h
  | line first rest hmem ih =>
    rw [terminated_append hmem] at h
    by_cases hnil : terminated rest = []
    · rw [hnil] at h
      cases h
    · rw [List.dropLast_cons_of_ne_nil hnil] at h
      rcases List.mem_cons.1 h with rfl | h
      · exact isEnded_append_newline first
      · exact ih h

/-- The text before a line of a file is that of the lines before it, each with its newline. -/
theorem textBefore_eq (h : n < (fileLines content).length) :
    textBefore content n = withNewlines ((fileLines content).take n) := by
  rw [length_fileLines] at h
  rw [textBefore, withNewlines, fileLines_eq, ← List.map_take, List.flatMap_map,
    ← List.flatMap_id]
  refine List.flatMap_congr fun line hline ↦ ?_
  have hended : isEnded line = true := by
    refine @isEnded_of_mem_dropLast content.toList line ?_
    rw [List.dropLast_eq_take]
    exact (List.take_subset_take_left _ (Nat.le_sub_one_of_lt h)) hline
  have hending := lineText_append_ending line
  rw [if_pos hended] at hending
  rw [bare, String.toList_ofList, hending]
  rfl

/-! ### Files of lines -/

theorem joinWith_append (separator : List Char) (pieces : List (List Char))
    {more : List (List Char)}
    (hne : more ≠ []) : joinWith separator (pieces ++ more) =
      (pieces.flatMap fun piece ↦ piece ++ separator) ++ joinWith separator more := by
  induction pieces with
  | nil => rfl
  | cons piece pieces ih =>
    obtain ⟨next, rest, hrest⟩ :=
      List.exists_cons_of_ne_nil (List.append_ne_nil_of_right_ne_nil pieces hne)
    rw [List.cons_append, hrest, joinWith, ← hrest, ih, List.flatMap_cons]
    · simp only [List.append_assoc]
    · exact List.cons_ne_nil next rest

/-- The end of a file does not matter to its lines before the last one. -/
theorem fileOfLines_append (lines : List String) (hne : others ≠ []) (ended : Bool) :
    (fileOfLines (lines ++ others) ended).toList =
      withNewlines lines ++ (fileOfLines others ended).toList := by
  have hmap : others.map String.toList ≠ [] := fun h ↦ hne (List.map_eq_nil_iff.1 h)
  have happend : (lines ++ others).isEmpty = false :=
    List.isEmpty_eq_false_iff.2 (List.append_ne_nil_of_right_ne_nil lines hne)
  have hempty : others.isEmpty = false := List.isEmpty_eq_false_iff.2 hne
  rw [fileOfLines, fileOfLines, String.toList_ofList, String.toList_ofList, happend, hempty,
    List.map_append, joinWith_append _ _ hmap, List.flatMap_map, withNewlines]
  split
  · rw [List.append_assoc]
  · rfl

/-- A file that ends in a newline has one after each of its lines. -/
theorem fileOfLines_true (lines : List String) :
    (fileOfLines lines true).toList = withNewlines lines := by
  rcases List.eq_nil_or_concat lines with rfl | ⟨front, line, rfl⟩
  · rfl
  · have hline : (fileOfLines [line] true).toList = line.toList ++ ['\n'] := by
      simp [fileOfLines, joinWith]
    rw [List.concat_eq_append, fileOfLines_append front (List.cons_ne_nil line []), hline,
      withNewlines, withNewlines, List.flatMap_append, List.flatMap_singleton]

/-- A file that lacks its last newline has one after each of its lines but the last. -/
theorem fileOfLines_false (hne : lines ≠ []) :
    (fileOfLines lines false).toList ++ ['\n'] = withNewlines lines := by
  rw [← fileOfLines_true, fileOfLines, fileOfLines, String.toList_ofList, String.toList_ofList,
    List.isEmpty_eq_false_iff.2 hne]
  rfl

/-- A file that may lack its last newline is the beginning of one with the same lines that may not.
-/
theorem fileOfLines_isPrefix {ended other : Bool} (h : ended = true → other = true) :
    (fileOfLines lines ended).toList <+: (fileOfLines lines other).toList := by
  by_cases hne : lines = []
  · have hnil (ended : Bool) : fileOfLines [] ended = "" := by cases ended <;> rfl
    rw [hne, hnil, hnil]
  cases hother : other with
  | false =>
    cases hended : ended with
    | false => exact List.prefix_refl _
    | true => rw [h hended] at hother; cases hother
  | true =>
    cases ended with
    | true => exact List.prefix_refl _
    | false => exact ⟨['\n'], by rw [fileOfLines_true, fileOfLines_false hne]⟩

/-- The text from a line of a file on is the file of the lines from there on. -/
theorem textFrom_eq (h : n < (fileLines content).length) :
    textFrom content n =
      (fileOfLines ((fileLines content).drop n) (isTerminated content)).toList := by
  have hne : (fileLines content).drop n ≠ [] := fun hnil ↦ by
    rw [List.drop_eq_nil_iff] at hnil
    omega
  have hparts := textBefore_append_textFrom content n
  have hfile := fileOfLines_append ((fileLines content).take n) hne (isTerminated content)
  rw [List.take_append_drop, fileOfLines_fileLines, ← textBefore_eq h] at hfile
  exact List.append_cancel_left (hparts.trans hfile)

/-! ### Lines outside the hunks -/

/-- Hunks that fit leave the lines before the first range and after the last one as they are, and
between these the new side of each hunk stands. Assumes: the hunks are complete. -/
theorem exists_replaced_eq {patched : Nat} {first : Hunk} {hunks : List Hunk}
    (hfit : FitFrom patched (first :: hunks) lines)
    (hcomplete : ∀ hunk ∈ first :: hunks, hunk.IsComplete) :
    ∃ middle, replaced (first :: hunks) lines =
        lines.take first.before ++ (middle ++ lines.drop (pastOf patched (first :: hunks))) ∧
      ∀ hunk ∈ first :: hunks, HunkLine.newTexts hunk.lines <:+: middle := by
  induction hunks generalizing patched first with
  | nil =>
    refine ⟨HunkLine.newTexts first.lines, List.append_assoc _ _ _, fun hunk hhunk ↦ ?_⟩
    rw [List.mem_singleton.1 hhunk]
  | cons second hunks ih =>
    obtain ⟨hfirst, hrest⟩ := fitFrom_cons.1 hfit
    obtain ⟨hcompleteFirst, hcompleteRest⟩ := List.forall_mem_cons.1 hcomplete
    obtain ⟨middle, hmiddle, hnew⟩ := ih hrest hcompleteRest
    obtain ⟨hsecond, -⟩ := fitFrom_cons.1 hrest
    have hle : first.before ≤ first.past := Nat.le_add_right _ _
    have hlength : (lines.take second.before).length = second.before :=
      List.length_take_of_le hsecond.before_le
    have hpast : first.past ≤ (lines.take second.before).length :=
      hsecond.patched_le.trans_eq hlength.symm
    refine ⟨HunkLine.newTexts first.lines ++
      ((lines.take second.before).drop first.past ++ middle), ?_, ?_⟩
    · rw [pastOf_cons]
      change first.replaceIn (replaced (second :: hunks) lines) = _
      rw [hmiddle, Hunk.replaceIn, List.take_append_of_le_length (hle.trans hpast),
        List.drop_append_of_le_length hpast, List.take_take,
        Nat.min_eq_left (hle.trans hsecond.patched_le)]
      simp only [List.append_assoc]
    · intro hunk hhunk
      rcases List.mem_cons.1 hhunk with rfl | hhunk
      · exact (List.prefix_append _ _).isInfix
      · refine (hnew hunk hhunk).trans ?_
        rw [← List.append_assoc]
        exact (List.suffix_append _ _).isInfix

/-- A line of the new side that is marked is one of the texts of that side. Assumes: the patch has
been read from a text. -/
theorem exists_newTexts_ne_nil {text : String} {patch : Patch} (hparse : parse text = .ok patch)
    (hnew : patch.newUnterminated = true) :
    ∃ hunk ∈ patch.hunks, HunkLine.newTexts hunk.lines ≠ [] := by
  rw [(unterminated_of_parse hparse).1, anyAt, List.any_eq_true] at hnew
  obtain ⟨spot, -, hspot⟩ := hnew
  obtain ⟨line, hline, hside⟩ := (Option.any_eq_true _ _).1 hspot
  obtain ⟨hunk, hhunk, hmem⟩ := Option.bind_eq_some_iff.1 hline
  refine ⟨hunk, List.mem_of_getElem? hhunk, fun hnil ↦ ?_⟩
  have hfilter : line ∈ hunk.lines.filter HunkLine.inNew :=
    List.mem_filter.2 ⟨List.mem_of_getElem? hmem, hside⟩
  rw [List.map_eq_nil_iff.1 hnil] at hfilter
  cases hfilter

/-! ### What happens to the text outside -/

/-- The text before a line is the beginning of the lines before it with a newline after each. It
lacks the last of these newlines only if it is all of a file that does. -/
theorem textBefore_isPrefix (h : n ≤ (fileLines content).length) :
    textBefore content n <+: withNewlines ((fileLines content).take n) := by
  rcases Nat.lt_or_eq_of_le h with hlt | rfl
  · rw [textBefore_eq hlt]
  · rw [textBefore_length, List.take_length, ← fileOfLines_true]
    have hwhole := @fileOfLines_isPrefix (fileLines content) (isTerminated content) true fun _ ↦ rfl
    rwa [fileOfLines_fileLines] at hwhole

/-- All of a file from the range of a hunk on is removed and nothing is added. The file lacks its
last newline, and no mark on the old side says so. -/
structure CutsShort (patch : Patch) (first : Hunk) (content : String) : Prop where
  before_pos : 0 < first.before
  before_lt : first.before < (fileLines content).length
  removed : replaced patch.hunks (fileLines content) = (fileLines content).take first.before
  unmarked : patch.oldUnterminated = false
  isTerminated_eq : isTerminated content = false

section Outside

variable {text result : String} {patch : Patch} {first last : Hunk}

/-- The text before the first hunk is kept unless the file is cut short there. Assumes: the patch
has been read from a text and applies. -/
theorem textBefore_isPrefix_of_apply (hparse : parse text = .ok patch)
    (happly : patch.apply content = .ok result) (hfirst : patch.hunks.head? = some first)
    (hkept : ¬CutsShort patch first content) :
    textBefore content first.before <+: result.toList := by
  have hcomplete := isComplete_of_parse hparse
  obtain ⟨hfit, rfl⟩ := fit_of_apply hcomplete happly
  obtain ⟨later, hhunks⟩ := List.head?_eq_some_iff.1 hfirst
  have hbefore := (hfit [] first later hhunks).before_le
  obtain ⟨middle, hreplaced, hnew⟩ :=
    exists_replaced_eq (hhunks ▸ hfit) (hhunks ▸ hcomplete)
  rw [← hhunks] at hreplaced hnew
  by_cases hrest : middle ++ (fileLines content).drop (pastOf 0 patch.hunks) = []
  · -- Nothing follows the text before the hunk, so no line of the new side can be marked.
    rw [hrest, List.append_nil] at hreplaced
    have hunmarked : patch.newUnterminated = false := by
      refine Bool.eq_false_iff.2 fun hmarked ↦ ?_
      obtain ⟨hunk, hhunk, hne⟩ := exists_newTexts_ne_nil hparse hmarked
      have hinfix := hnew hunk hhunk
      rw [(List.append_eq_nil_iff.1 hrest).1] at hinfix
      exact hne (List.infix_nil.1 hinfix)
    rw [hreplaced, hunmarked, Bool.not_false, Bool.true_and]
    cases hended : patch.oldUnterminated || isTerminated content with
    | true =>
      rw [fileOfLines_true]
      exact textBefore_isPrefix hbefore
    | false =>
      obtain ⟨hold, hterminated⟩ := Bool.or_eq_false_iff.1 hended
      rcases Nat.eq_zero_or_pos first.before with hzero | hpos
      · rw [hzero]
        exact List.nil_prefix
      · obtain heq | hlt := hbefore.eq_or_lt
        · rw [heq, List.take_length, textBefore_length, ← hterminated, fileOfLines_fileLines]
        · exact absurd ⟨hpos, hlt, hreplaced, hold, hterminated⟩ hkept
  · rw [hreplaced, fileOfLines_append _ hrest]
    exact (textBefore_isPrefix hbefore).trans (List.prefix_append _ _)

/-- Where the file is cut short, the text before the first hunk loses its last newline. Assumes: the
patch has been read from a text and applies. -/
theorem CutsShort.append_newline (h : CutsShort patch first content)
    (hparse : parse text = .ok patch) (happly : patch.apply content = .ok result) :
    result.toList ++ ['\n'] = textBefore content first.before := by
  obtain ⟨-, rfl⟩ := fit_of_apply (isComplete_of_parse hparse) happly
  have hne : (fileLines content).take first.before ≠ [] := by
    rw [Ne, List.take_eq_nil_iff, not_or]
    refine ⟨Nat.ne_of_gt h.before_pos, fun hnil ↦ ?_⟩
    have hlt := h.before_lt
    rw [hnil] at hlt
    exact Nat.not_lt_zero _ hlt
  rw [h.removed, h.unmarked, h.isTerminated_eq, Bool.or_false, Bool.and_false,
    fileOfLines_false hne, textBefore_eq h.before_lt]

/-- The lines after the last hunk are kept, and after them the file ends as the patch decides.
Assumes: the patch has been read from a text and applies, and the last hunk ends before the file. -/
theorem exists_front_of_apply (hparse : parse text = .ok patch)
    (happly : patch.apply content = .ok result) (hlast : patch.hunks.getLast? = some last)
    (hlt : last.past < (fileLines content).length) : ∃ front,
      replaced patch.hunks (fileLines content) = front ++ (fileLines content).drop last.past ∧
      result.toList = withNewlines front ++ (fileOfLines ((fileLines content).drop last.past)
        (!patch.newUnterminated && (patch.oldUnterminated || isTerminated content))).toList := by
  have hcomplete := isComplete_of_parse hparse
  obtain ⟨hfit, rfl⟩ := fit_of_apply hcomplete happly
  have hsome : patch.hunks ≠ [] := fun hnil ↦ by
    rw [hnil] at hlast
    cases hlast
  obtain ⟨first, later, hhunks⟩ := List.exists_cons_of_ne_nil hsome
  obtain ⟨middle, hreplaced, -⟩ := exists_replaced_eq (hhunks ▸ hfit) (hhunks ▸ hcomplete)
  have hpast : pastOf 0 patch.hunks = last.past := by
    rw [pastOf, hlast]
    rfl
  rw [← hhunks, hpast, ← List.append_assoc] at hreplaced
  have hne : (fileLines content).drop last.past ≠ [] := fun hnil ↦ by
    rw [List.drop_eq_nil_iff] at hnil
    omega
  refine ⟨_, hreplaced, ?_⟩
  rw [hreplaced, fileOfLines_append _ hne]

/-- What a patch that applies does to the text outside its hunks. The result begins with the text
before the first hunk, unless everything from there on is removed from a file that lacks its last
newline and no mark on the old side says so: then that text loses the newline at its end. If the
last hunk ends before the file does, the result goes on after the new lines with the text after the
hunk, and only the newline at its very end can change. The patch has one there unless a line of the
new side is marked, and then if one of the old side is or the file had one; it is kept when that
comes to what the file had, and lost or gained otherwise. Assumes: the patch has been read from a
text. -/
theorem apply_outside (hparse : parse text = .ok patch) (happly : patch.apply content = .ok result)
    (hfirst : patch.hunks.head? = some first) (hlast : patch.hunks.getLast? = some last) :
    let before := textBefore content first.before
    let after := textFrom content last.past
    let had := isTerminated content
    let has := !patch.newUnterminated && (patch.oldUnterminated || had)
    (¬CutsShort patch first content → before <+: result.toList) ∧
    (CutsShort patch first content → result.toList ++ ['\n'] = before) ∧
    (last.past < (fileLines content).length → ∃ front,
      replaced patch.hunks (fileLines content) = front ++ (fileLines content).drop last.past ∧
      (has = had → result.toList = withNewlines front ++ after) ∧
      (had = true → has = false → result.toList ++ ['\n'] = withNewlines front ++ after) ∧
      (had = false → has = true → result.toList = withNewlines front ++ (after ++ ['\n']))) := by
  intro before after had has
  refine ⟨textBefore_isPrefix_of_apply hparse happly hfirst,
    fun hcuts ↦ hcuts.append_newline hparse happly, fun hlt ↦ ?_⟩
  obtain ⟨front, hreplaced, hresult⟩ := exists_front_of_apply hparse happly hlast hlt
  have hne : (fileLines content).drop last.past ≠ [] := fun hnil ↦ by
    rw [List.drop_eq_nil_iff] at hnil
    omega
  have hafter : after = (fileOfLines ((fileLines content).drop last.past) had).toList :=
    textFrom_eq hlt
  change result.toList = withNewlines front ++
    (fileOfLines ((fileLines content).drop last.past) has).toList at hresult
  refine ⟨front, hreplaced, fun hsame ↦ ?_, fun hhad hhas ↦ ?_, fun hhad hhas ↦ ?_⟩
  · rw [hresult, hafter, hsame]
  · rw [hresult, hafter, hhad, hhas, List.append_assoc, fileOfLines_false hne, fileOfLines_true]
  · rw [hresult, hafter, hhad, hhas, fileOfLines_false hne, fileOfLines_true]

/-- A hunk in the middle of a file replaces a line. The text before it and the text after it are
kept. -/
theorem apply_outside_middle :
    let text := "@@ -2 +2 @@\n-b\n+x\n"
    ∃ patch result, parse text = .ok patch ∧ patch.apply "a\nb\nc" = .ok result ∧
      "a\n".toList <+: result.toList ∧ "c".toList <:+ result.toList := by
  intro text
  let hunk : Hunk := ⟨2, 1, 2, 1, [.removed "b", .added "x"]⟩
  have hparse : parse text = .ok ⟨none, [hunk], false, false⟩ := by decide +kernel
  have happly : Patch.apply ⟨none, [hunk], false, false⟩ "a\nb\nc" = .ok "a\nx\nc" := by decide
  obtain ⟨hbefore, -, hafter⟩ := apply_outside hparse happly rfl rfl
  obtain ⟨front, -, hkept, -⟩ := hafter (by decide)
  have hcuts : ¬CutsShort ⟨none, [hunk], false, false⟩ hunk "a\nb\nc" := fun hcuts ↦
    absurd hcuts.removed (by decide)
  exact ⟨_, _, hparse, happly, hbefore hcuts, withNewlines front, (hkept rfl).symm⟩

/-- A mark in a hunk at the beginning of a file takes the newline from the end of a text that no
hunk covers. A removal at the end of a file that lacks its last newline takes one from the line
before it. -/
theorem apply_outside_differs :
    let text := "@@ -1 +1 @@\n-a\n+x\n\\ No newline at end of file\n"
    let removal := "@@ -2 +1,0 @@\n-b\n"
    (∃ patch hunk, parse text = .ok patch ∧ patch.hunks = [hunk] ∧
      patch.apply "a\nb\n" = .ok "x\nb" ∧ hunk.past < (fileLines "a\nb\n").length ∧
      ¬textFrom "a\nb\n" hunk.past <:+ "x\nb".toList) ∧
    ∃ patch hunk, parse removal = .ok patch ∧ patch.hunks = [hunk] ∧
      patch.apply "a\nb" = .ok "a" ∧ ¬textBefore "a\nb" hunk.before <+: "a".toList := by
  intro text removal
  let hunk : Hunk := ⟨1, 1, 1, 1, [.removed "a", .added "x"]⟩
  let other : Hunk := ⟨2, 1, 1, 0, [.removed "b"]⟩
  have hparse : parse text = .ok ⟨none, [hunk], true, false⟩ := by decide +kernel
  have hparse' : parse removal = .ok ⟨none, [other], false, false⟩ := by decide +kernel
  exact ⟨⟨_, hunk, hparse, rfl, by decide, by decide, by decide⟩,
    ⟨_, other, hparse', rfl, by decide, by decide⟩⟩

end Outside

end Runbook.Patch
