import Mathlib.Data.List.DropRight
import Mathlib.Data.List.Infix
import Runbook.Markdown.Fence
import Runbook.Proofs.Text.Line
/-!
# The lines of a fenced block

A text that starts with an opening fence has a fenced block there, and its info string is what
stands after the fence, resolved. `InfoLine` lists what the rest of the line of a fence must be for
all of it to be the info string: it is one line, a fence of backticks has no further backtick in it,
and it neither starts nor ends with a blank.

A mark opens no other block (`readLeaf_of_openingFence`) and no container
(`startLine_of_mark`), so at the start of a text the fence is read as one: `fences_of_openingFence`.

A fenced block is read line by line until a line closes it. A line can only do so with a run of
marks that is at least as long as the fence that opened the block, after at most three columns of
indentation. Indentation is taken from the line itself (`exists_rest_takeSpace`), so no line of a
body without such a run closes the block (`closingFence?_eq_none`), and the block is read up to the
fence that follows its body (`readBody_append`). At the start of a text this is the only block
(`fences_of_body`).
-/

set_option autoImplicit false

namespace Runbook.Markdown

/-- A character that fences are made of. -/
def IsMark (mark : Char) : Prop := mark = '`' ∨ mark = '~'

/-- What may follow a fence on its line so that all of it is the info string. -/
structure InfoLine (mark : Char) (line : List Char) : Prop where
  /-- It is one line. -/
  oneLine : '\n' ∉ line
  /-- After a fence of backticks it has no backtick. -/
  noBacktick : mark = '`' → '`' ∉ line
  /-- It does not lengthen the fence and starts with no blank. -/
  starts : ∀ c ∈ line.head?, c ≠ mark ∧ isInlineBlank c = false
  /-- It ends with no blank. -/
  ends : ∀ c ∈ line.getLast?, isAsciiBlank c = false

variable {mark : Char} {line below : List Char} {length : Nat}

/-! ### The line of a fence -/

theorem thisLine_append_newline (h : '\n' ∉ line) (below : List Char) :
    thisLine (line ++ '\n' :: below) = line ++ ['\n'] := by
  induction line with
  | nil => rfl
  | cons c line ih =>
    rw [List.mem_cons, not_or] at h
    have hc : (c == '\n') = false := beq_eq_false_iff_ne.2 fun hnewline ↦ h.1 hnewline.symm
    rw [List.cons_append, thisLine, hc, ih h.2]
    rfl

/-- A run of marks ends where something else follows. -/
theorem runLength_replicate (h : ∀ c ∈ line.head?, c ≠ mark) (length : Nat) :
    runLength mark (List.replicate length mark ++ line) = length := by
  have hmarks : ∀ c ∈ List.replicate length mark, (c == mark) = true := fun c hc ↦
    beq_iff_eq.2 (List.eq_of_mem_replicate hc)
  have hstop : line.takeWhile (· == mark) = [] := by
    cases line with
    | nil => rfl
    | cons c line => simp [h c rfl]
  rw [runLength, List.takeWhile_append_of_pos hmarks, hstop, List.append_nil,
    List.length_replicate]

theorem InfoLine.head_ne (h : InfoLine mark line) (hmark : IsMark mark) (below : List Char) :
    ∀ c ∈ (line ++ '\n' :: below).head?, c ≠ mark := by
  intro c hc
  cases line with
  | nil =>
    rw [← Option.some.inj hc]
    rcases hmark with rfl | rfl <;> decide
  | cons d line => exact (h.starts c hc).1

/-- A run of at least three marks is an opening fence. Assumes: what follows does not lengthen it,
and after backticks there is no further one on the line. -/
theorem openingFence?_replicate (hmark : IsMark mark) (hlength : 3 ≤ length) {after : List Char}
    (hstop : ∀ c ∈ after.head?, c ≠ mark) (hbacktick : mark = '`' → '`' ∉ thisLine after) :
    openingFence? (List.replicate length mark ++ after) = some (mark, length, after) := by
  obtain ⟨shorter, rfl⟩ : ∃ shorter, length = shorter + 1 := ⟨length - 1, by omega⟩
  have hrun := runLength_replicate hstop (shorter + 1)
  have hfence : (mark == '`' || mark == '~') = true := by
    rcases hmark with rfl | rfl <;> decide
  have hfree : (mark == '`' && (thisLine after).contains '`') = false := by
    rw [Bool.and_eq_false_imp, beq_iff_eq]
    intro hmark
    simpa using hbacktick hmark
  rw [List.replicate_succ, List.cons_append] at hrun ⊢
  simp only [openingFence?, hfence, if_true, hrun]
  rw [← List.cons_append, ← List.replicate_succ, List.drop_left' (List.length_replicate ..),
    hfree, Bool.or_false, if_neg (by simpa using hlength)]

/-- A run of at least three marks before such a line is an opening fence. -/
theorem openingFence?_append (hmark : IsMark mark) (hlength : 3 ≤ length)
    (hline : InfoLine mark line) (below : List Char) :
    openingFence? (List.replicate length mark ++ (line ++ '\n' :: below)) =
      some (mark, length, line ++ '\n' :: below) := by
  refine openingFence?_replicate hmark hlength (hline.head_ne hmark below) fun hbacktick ↦ ?_
  rw [thisLine_append_newline hline.oneLine]
  simpa using hline.noBacktick hbacktick

/-- Such a line has no blanks to skip. -/
theorem skipInlineBlanks_append_newline (hline : InfoLine mark line) (below : List Char) :
    skipInlineBlanks (line ++ '\n' :: below) = line ++ '\n' :: below := by
  cases line with
  | nil => rfl
  | cons c line =>
    have hc := (hline.starts c rfl).2
    rw [skipInlineBlanks, List.cons_append, List.dropWhile_cons_of_neg (by simp [hc])]

/-- The info string of a line that holds nothing else is the line, resolved. -/
theorem infoOfLine_append_newline (hline : InfoLine mark line) :
    infoOfLine (line ++ ['\n']) = unescape line := by
  have hstart := skipInlineBlanks_append_newline hline []
  have hend : (line ++ ['\n']).reverse.dropWhile isAsciiBlank = line.reverse := by
    rw [List.reverse_append, List.reverse_singleton, List.singleton_append,
      List.dropWhile_cons_of_pos (by decide)]
    cases hlast : line.reverse with
    | nil => rfl
    | cons c before =>
      have hc := hline.ends c (by rw [List.getLast?_eq_head?_reverse, hlast]; rfl)
      rw [List.dropWhile_cons_of_neg (by simp [hc])]
  rw [infoOfLine, hstart, hend, List.reverse_reverse]

/-! ### The block of a fence -/

/-- A mark is no blank and opens no container: the place inside all containers is the mark. -/
theorem startLine_of_mark (hmark : IsMark mark) (below : List Char) :
    Outline.empty.startLine (mark :: below) = (.empty, .inside (.ofText (mark :: below))) := by
  rcases hmark with rfl | rfl <;> rfl

/-- An opening fence starts no other block. -/
theorem readLeaf_of_openingFence (hmark : IsMark mark) {after : List Char}
    (hopening : openingFence? (mark :: below) = some (mark, length, after)) (spine : Spine)
    (indent : Nat) :
    Block.readLeaf spine indent (mark :: below) =
      (some (Block.readFence spine mark length indent (mark :: below)).1,
        (Block.readFence spine mark length indent (mark :: below)).2) := by
  have hhtml : Block.afterHtml? spine (mark :: below) = none := by
    rcases hmark with rfl | rfl <;> rfl
  have hbreak : thematicBreak? (mark :: below) = none := by
    rcases hmark with rfl | rfl <;> rfl
  have hheading : startsHeading (mark :: below) = false := by
    rcases hmark with rfl | rfl <;> rfl
  rw [Block.readLeaf, hhtml, hbreak]
  simp only [hheading, Bool.false_eq_true, if_false, hopening]

/-- The first block of a text that starts with an opening fence is its fenced block, and what
follows is read from the end of that. -/
theorem read_of_openingFence (hmark : IsMark mark) {after : List Char}
    (hopening : openingFence? (mark :: below) = some (mark, length, after)) :
    ∃ outline, Block.read .empty (mark :: below) =
      (outline, some (Block.readFence [] mark length 0 (mark :: below)).1,
        (Block.readFence [] mark length 0 (mark :: below)).2) := by
  have hblank : blankLine? (LineCursor.ofText (mark :: below)).rest = none := by
    rcases hmark with rfl | rfl <;> rfl
  have hspace : (LineCursor.ofText (mark :: below)).takeSpace 4 =
      (0, LineCursor.ofText (mark :: below)) := by
    rcases hmark with rfl | rfl <;> rfl
  have hleaf := readLeaf_of_openingFence hmark hopening [] 0
  rw [Block.read, startLine_of_mark hmark]
  simp only [hblank, hspace]
  rw [if_neg (by decide)]
  exact ⟨_, congrArg _ hleaf⟩

/-- The first fenced block of a text that starts with a run of at least three marks and an info
string opens at the start of the text and has that info string, resolved. -/
theorem fences_of_openingFence (hmark : IsMark mark) (hlength : 3 ≤ length)
    (hline : InfoLine mark line) (below : List Char) :
    ∃ fence others,
      fences (List.replicate length mark ++ (line ++ '\n' :: below)) = fence :: others ∧
        fence.remaining = (List.replicate length mark ++ (line ++ '\n' :: below)).length ∧
        fence.info = unescape line := by
  have hopening := openingFence?_append hmark hlength hline below
  obtain ⟨shorter, rfl⟩ : ∃ shorter, length = shorter + 1 := ⟨length - 1, by omega⟩
  rw [List.replicate_succ, List.cons_append] at hopening ⊢
  obtain ⟨outline, hread⟩ := read_of_openingFence hmark hopening
  refine ⟨_, _, by rw [fences, fencesFrom, hread]; rfl, rfl, ?_⟩
  rw [Block.readFence]
  simp only
  rw [← List.cons_append, ← List.replicate_succ, List.drop_left' (List.length_replicate ..),
    skipInlineBlanks_append_newline hline, thisLine_append_newline hline.oneLine,
    infoOfLine_append_newline hline]

/-! ### The body of a block -/

open Text

variable {mark : Char} {line tail after body : List Char} {length : Nat}

/-! ### Lines that do not close -/

/-- Taking blanks stops at the newline at the latest. -/
theorem exists_rest_takeFrom (line after : List Char) (sinceTab wanted : Nat) :
    ∃ tail, tail <:+ line ∧
      (LineCursor.takeFrom (line ++ '\n' :: after) sinceTab wanted).2.rest =
        tail ++ '\n' :: after := by
  induction line generalizing sinceTab wanted with
  | nil => exact ⟨[], List.suffix_refl _, rfl⟩
  | cons c line ih =>
    have hwhole : ∃ tail, tail <:+ c :: line ∧
        c :: (line ++ '\n' :: after) = tail ++ '\n' :: after := ⟨c :: line, List.suffix_refl _, rfl⟩
    rw [List.cons_append]
    unfold LineCursor.takeFrom
    split
    · next heq =>
      cases heq
      split
      · exact hwhole
      · obtain ⟨tail, htail, hrest⟩ := ih _ _
        exact ⟨tail, htail.trans (List.suffix_cons _ _), hrest⟩
    · next heq =>
      cases heq
      split
      · exact hwhole
      dsimp only
      split
      · exact ⟨line, List.suffix_cons _ _, rfl⟩
      · obtain ⟨tail, htail, hrest⟩ := ih _ _
        exact ⟨tail, htail.trans (List.suffix_cons _ _), hrest⟩
    · exact hwhole

/-- As many marks as come next stand at the start of the text. -/
theorem replicate_prefix_of_le_runLength {text : List Char} (h : length ≤ runLength mark text) :
    List.replicate length mark <+: text := by
  have hmarks : text.takeWhile (· == mark) = List.replicate (runLength mark text) mark :=
    List.eq_replicate_iff.2 ⟨rfl, fun c hc ↦
      beq_iff_eq.1 (List.all_eq_true.1 List.all_takeWhile c hc)⟩
  have hrun : List.replicate (runLength mark text) mark <+: text :=
    hmarks ▸ List.takeWhile_prefix _
  refine List.IsPrefix.trans ?_ hrun
  rw [← Nat.sub_add_cancel h, Nat.add_comm, List.replicate_add]
  exact List.prefix_append _ _

/-- A run of marks ends with its line. -/
theorem runLength_append_newline (hmark : IsMark mark) (line after : List Char) :
    runLength mark (line ++ '\n' :: after) = runLength mark line := by
  have hnewline : ('\n' == mark) = false := by
    rcases hmark with rfl | rfl <;> decide
  have hstop : ('\n' :: after).takeWhile (· == mark) = [] :=
    List.takeWhile_cons_of_neg (by rw [hnewline]; exact Bool.false_ne_true)
  unfold runLength
  rw [List.takeWhile_append, hstop]
  split
  · next hall => rw [List.append_nil, hall]
  · rfl

/-- A line whose marks are fewer than those of the fence does not close the block. -/
theorem closingFence?_eq_none (hmark : IsMark mark) (hruns : ¬List.replicate length mark <+: line)
    (after : List Char) : closingFence? mark length (line ++ '\n' :: after) = none := by
  have hshort : runLength mark (line ++ '\n' :: after) < length := by
    rw [runLength_append_newline hmark]
    exact Nat.lt_of_not_le fun hle ↦ hruns (replicate_prefix_of_le_runLength hle)
  have hcount : decide (runLength mark (line ++ '\n' :: after) ≥ length) = false :=
    decide_eq_false (Nat.not_le.2 hshort)
  have hempty : (line ++ '\n' :: after).isEmpty = false := by simp
  simp only [closingFence?, hempty, Bool.false_eq_true, if_false, hcount, Bool.false_and]

/-- A line without carriage returns stays as it is. -/
theorem withoutReturn_eq_self (h : '\r' ∉ line) : Block.withoutReturn line = line := by
  unfold Block.withoutReturn
  split
  · next last rest heq =>
    refine absurd (List.mem_reverse.1 ?_) h
    rw [heq]
    exact List.mem_cons_of_mem _ List.mem_cons_self
  · rfl

theorem nextLine_append_newline (h : '\n' ∉ line) (after : List Char) :
    nextLine (line ++ '\n' :: after) = after := by
  have hwhole := thisLine_append_nextLine (line ++ '\n' :: after)
  rw [thisLine_append_newline h, List.append_assoc, List.singleton_append] at hwhole
  exact (List.cons.inj (List.append_cancel_left hwhole)).2

/-! ### Reading a body -/

/-- Indentation is taken from the line that it stands on. -/
theorem exists_rest_takeSpace (line after : List Char) (wanted : Nat) :
    ∃ tail, tail <:+ line ∧
      ((LineCursor.ofText (line ++ '\n' :: after)).takeSpace wanted).2.rest =
        tail ++ '\n' :: after := by
  unfold LineCursor.takeSpace
  split
  · exact ⟨line, List.suffix_refl _, rfl⟩
  · exact exists_rest_takeFrom line after 0 _

/-- A line that does not close the block belongs to its body. Assumes: it has fewer marks than the
fence in a row and no carriage return. -/
theorem readBody_line (hmark : IsMark mark) (hline : '\n' ∉ line) (hreturn : '\r' ∉ line)
    (hruns : ¬List.replicate length mark <:+: line) (fuel : Nat) (after : List Char) :
    Block.readBody [] mark length 0 (fuel + 1) (line ++ '\n' :: after) =
      (line ++ '\n' :: (Block.readBody [] mark length 0 fuel after).1,
        (Block.readBody [] mark length 0 fuel after).2) := by
  obtain ⟨tail, htail, hrest⟩ := exists_rest_takeSpace line after 4
  have hclosing : closingFence? mark length
      ((LineCursor.ofText (line ++ '\n' :: after)).takeSpace 4).2.rest = none := by
    rw [hrest]
    exact closingFence?_eq_none hmark (fun hrun ↦ hruns (hrun.isInfix.trans htail.isInfix)) after
  have hkept : '\r' ∉ line ++ ['\n'] := by simpa using hreturn
  have hstart : continueAll? [] (line ++ '\n' :: after) =
      some (LineCursor.ofText (line ++ '\n' :: after)) := rfl
  have hspace : (LineCursor.ofText (line ++ '\n' :: after)).takeSpace 0 =
      (0, LineCursor.ofText (line ++ '\n' :: after)) := rfl
  rw [Block.readBody, hstart]
  simp only [hspace, Nat.sub_zero, hclosing, ite_self]
  simp only [LineCursor.ofText, List.replicate_zero, List.nil_append]
  rw [thisLine_append_newline hline, nextLine_append_newline hline, withoutReturn_eq_self hkept,
    List.append_assoc, List.singleton_append]

/-- A fence that is as long as the one that opened the block closes it. -/
theorem readBody_closing (hmark : IsMark mark) (hlength : 0 < length) (fuel : Nat) :
    Block.readBody [] mark length 0 (fuel + 1) (List.replicate length mark ++ ['\n']) =
      ([], 1, []) := by
  have hmarks : ∀ c ∈ ['\n'].head?, c ≠ mark := by
    rintro c ⟨⟩
    rcases hmark with rfl | rfl <;> decide
  have hrun := runLength_replicate hmarks length
  have hclosing : closingFence? mark length (List.replicate length mark ++ ['\n']) =
      some ['\n'] := by
    have hempty : (List.replicate length mark ++ ['\n']).isEmpty = false := by simp
    simp only [closingFence?, hempty, Bool.false_eq_true, if_false, hrun,
      List.drop_left' (List.length_replicate ..)]
    simp [atLineEnd, lineEnd?]
  obtain ⟨shorter, rfl⟩ : ∃ shorter, length = shorter + 1 := ⟨length - 1, by omega⟩
  rw [List.replicate_succ, List.cons_append] at hclosing ⊢
  have hstart (text : List Char) : continueAll? [] text = some (.ofText text) := rfl
  have hspace (wanted : Nat) (below : List Char) : (LineCursor.ofText (mark :: below)).takeSpace
      wanted = (0, LineCursor.ofText (mark :: below)) := by
    cases wanted with
    | zero => rfl
    | succ wanted => rcases hmark with rfl | rfl <;> rfl
  rw [Block.readBody, hstart]
  simp only [hspace]
  rw [LineCursor.ofText, if_pos (by decide), hclosing]
  rfl

/-- A fenced block is read up to the fence after its body. Assumes: the body has no run of as many
marks as the fence, no carriage return and no line that lacks its newline. -/
theorem readBody_append (hmark : IsMark mark) (hruns : ¬List.replicate length mark <:+: body)
    (hreturn : '\r' ∉ body) (hended : body = [] ∨ isEnded body = true) {fuel : Nat}
    (hfuel : body.length < fuel) :
    Block.readBody [] mark length 0 fuel (body ++ (List.replicate length mark ++ ['\n'])) =
      (body, 1, []) := by
  obtain ⟨fuel, rfl⟩ : ∃ less, fuel = less + 1 := ⟨fuel - 1, by omega⟩
  induction body using lines_induction generalizing fuel with
  | nil =>
    have hlength : 0 < length := Nat.pos_of_ne_zero fun hzero ↦ hruns (hzero ▸ List.nil_infix)
    exact readBody_closing hmark hlength fuel
  | last line hline hne =>
    rw [isEnded_of_not_mem hline] at hended
    exact absurd hended (by simp [hne])
  | line line rest hline ih =>
    obtain ⟨fuel, rfl⟩ : ∃ less, fuel = less + 1 := ⟨fuel - 1, by
      rw [List.length_append, List.length_cons] at hfuel
      omega⟩
    have hinLine : line <:+: line ++ '\n' :: rest := (List.prefix_append _ _).isInfix
    have hinRest : rest <:+: line ++ '\n' :: rest :=
      ((List.suffix_cons _ _).trans (List.suffix_append _ _)).isInfix
    have hrest : rest = [] ∨ isEnded rest = true := by
      rw [isEnded_append] at hended
      simpa using hended
    have hless : rest.length < fuel + 1 := by
      rw [List.length_append, List.length_cons] at hfuel
      omega
    have hlater := ih (fun hrun ↦ hruns (hrun.trans hinRest))
      (fun hmem ↦ hreturn (hinRest.subset hmem)) hrest fuel hless
    rw [List.append_assoc, List.cons_append, readBody_line hmark hline
      (fun hmem ↦ hreturn (hinLine.subset hmem)) (fun hrun ↦ hruns (hrun.trans hinLine)), hlater]

/-! ### A text that is one block -/

/-- The blanks that start a line are skipped on that line. -/
theorem skipInlineBlanks_append (line after : List Char) :
    skipInlineBlanks (line ++ '\n' :: after) = skipInlineBlanks line ++ '\n' :: after := by
  have hnewline : ¬isInlineBlank '\n' = true := by decide
  unfold skipInlineBlanks
  rw [List.dropWhile_append, List.dropWhile_cons_of_neg hnewline]
  split
  · next hblank => rw [List.isEmpty_iff.1 hblank, List.nil_append]
  · rfl

/-- Blanks at the start of a line do not count for its info string. -/
theorem infoOfLine_skipInlineBlanks (line : List Char) :
    infoOfLine (skipInlineBlanks line ++ ['\n']) = infoOfLine (line ++ ['\n']) := by
  have hskip : skipInlineBlanks (skipInlineBlanks line ++ ['\n']) =
      skipInlineBlanks (line ++ ['\n']) := by
    rw [skipInlineBlanks_append, skipInlineBlanks_append]
    congr 1
    exact List.dropWhile_idempotent ..
  rw [infoOfLine, hskip, infoOfLine]

/-- A fence, the rest of its line, a body and the same fence again are one fenced block, with that
body. Assumes: the fence is one, and what follows it neither lengthens it nor, after backticks, has
a further one; the body has no run of as many marks, no carriage return and no line that lacks its
newline. -/
theorem fences_of_body (hmark : IsMark mark) (hlength : 3 ≤ length) (hline : '\n' ∉ line)
    (hstop : ∀ c ∈ line.head?, c ≠ mark) (hbacktick : mark = '`' → '`' ∉ line)
    (hruns : ¬List.replicate length mark <:+: body) (hreturn : '\r' ∉ body)
    (hended : body = [] ∨ isEnded body = true) :
    let text := List.replicate length mark ++
      (line ++ '\n' :: (body ++ (List.replicate length mark ++ ['\n'])))
    fences text = [⟨text.length, 1, infoOfLine (line ++ ['\n']), body⟩] := by
  intro text
  set below := body ++ (List.replicate length mark ++ ['\n']) with hbelow
  have hopening : openingFence? text = some (mark, length, line ++ '\n' :: below) := by
    refine openingFence?_replicate hmark hlength ?_ fun heq ↦ ?_
    · cases line with
      | nil =>
        rintro c ⟨⟩
        rcases hmark with rfl | rfl <;> decide
      | cons first line => exact hstop
    · rw [thisLine_append_newline hline]
      simpa using hbacktick heq
  have hskipped : '\n' ∉ skipInlineBlanks line := fun hmem ↦
    hline ((List.dropWhile_suffix _).subset hmem)
  have hfuel : body.length < text.length + 1 := by
    simp only [text, List.length_append, List.length_cons]
    omega
  have hfence : Block.readFence [] mark length 0 text =
      (⟨text.length, 1, infoOfLine (line ++ ['\n']), body⟩, []) := by
    have hdrop : text.drop length = line ++ '\n' :: below :=
      List.drop_left' (List.length_replicate ..)
    have hbody := readBody_append hmark hruns hreturn hended hfuel
    rw [Block.readFence]
    simp only [hdrop, skipInlineBlanks_append, nextLine_append_newline hskipped,
      thisLine_append_newline hskipped, infoOfLine_skipInlineBlanks]
    rw [hbelow, hbody]
  obtain ⟨shorter, rfl⟩ : ∃ shorter, length = shorter + 1 := ⟨length - 1, by omega⟩
  have hcons : text = mark :: (List.replicate shorter mark ++ (line ++ '\n' :: below)) := by
    rw [← List.cons_append, ← List.replicate_succ]
  rw [hcons] at hopening hfence ⊢
  obtain ⟨outline, hread⟩ := read_of_openingFence hmark hopening
  rw [fences, fencesFrom, hread, hfence]
  rfl

end Runbook.Markdown
