import Runbook.Proofs.Markdown.Remainder
/-!
# Fenced blocks in order

The fenced blocks that are found in a text stand in it one after the other. A block is given by how
much of the text is left at its opening fence and after its end, so the order of two blocks is an
inequality between such numbers: `Fence.OpensIn` says that the text left at a fence is a suffix that
starts with the mark of the fence and ends after the block, and `InOrder` that each block of a list
opens in what the blocks before it leave.

`readBody_remaining` and `readFence_opensIn` follow the body of one block to its closing fence, to a
line that leaves its containers or to the end of the text. `Block.read_opensIn` covers all blocks,
and `fences_inOrder` is the result for a whole text, by induction on the number of blocks.
-/

set_option autoImplicit false

namespace Runbook.Markdown

/-- A fenced block opens in a text: the text left at its fence is a suffix whose first character is
a mark, and the block ends after that character. -/
def Fence.OpensIn (fence : Fence) (text : List Char) : Prop :=
  ∃ mark below, (mark = '`' ∨ mark = '~') ∧ (mark :: below) <:+ text ∧
    fence.remaining = (mark :: below).length ∧ fence.remainingAfter ≤ below.length

/-- Each fenced block of a list opens in what is left after the block before it. -/
def InOrder : List Char → List Fence → Prop
  | _, [] => True
  | text, fence :: fences =>
    fence.OpensIn text ∧
      ∃ rest, rest <:+ text ∧ rest.length ≤ fence.remainingAfter ∧ InOrder rest fences

theorem Fence.OpensIn.mono {fence : Fence} {text rest : List Char} (h : fence.OpensIn rest)
    (hrest : rest <:+ text) : fence.OpensIn text := by
  obtain ⟨mark, below, hmark, hsuffix, hremaining, hafter⟩ := h
  exact ⟨mark, below, hmark, hsuffix.trans hrest, hremaining, hafter⟩

theorem InOrder.mono {fences : List Fence} {text rest : List Char} (h : InOrder rest fences)
    (hrest : rest <:+ text) : InOrder text fences := by
  cases fences with
  | nil => trivial
  | cons fence fences =>
    obtain ⟨hopens, left, hleft, hlength, htail⟩ := h
    exact ⟨hopens.mono hrest, left, hleft.trans hrest, hlength, htail⟩

namespace Block

theorem closingFence?_suffix {mark : Char} {length : Nat} {text rest : List Char}
    (h : closingFence? mark length text = some rest) : rest <:+ text := by
  simp only [closingFence?] at h
  split at h
  · cases h
    exact List.nil_suffix
  · split at h
    · cases h
      exact (List.dropWhile_suffix _).trans (List.drop_suffix _ _)
    · cases h

/-- The body of a fenced block ends inside the text that it is read from, and what is left after
the line of its closing fence is a suffix that starts no sooner. -/
theorem readBody_remaining (spine : Spine) (mark : Char) (length indent fuel : Nat)
    (text : List Char) :
    let read := readBody spine mark length indent fuel text
    read.2.2 <:+ text ∧ read.2.2.length ≤ read.2.1 ∧ read.2.1 ≤ text.length := by
  induction fuel generalizing text with
  | zero => exact ⟨List.suffix_refl _, Nat.le_refl _, Nat.le_refl _⟩
  | succ fuel ih =>
    simp only [readBody]
    split
    · exact ⟨List.suffix_refl _, Nat.le_refl _, Nat.le_refl _⟩
    · rename_i cursor hcursor
      have hstart : (cursor.takeSpace indent).2.rest <:+ text :=
        (LineCursor.takeSpace_suffix cursor indent).trans (continueAll?_suffix hcursor)
      split
      · rename_i rest hclosing
        split at hclosing
        · have hrest : rest <:+ text :=
            ((closingFence?_suffix hclosing).trans
              (LineCursor.takeSpace_suffix _ (4 - indent))).trans hstart
          have hleft := getD_blankLine?_suffix rest
          exact ⟨hleft.trans hrest, hleft.length_le, hrest.length_le⟩
        · cases hclosing
      · have hbelow := (nextLine_suffix (cursor.takeSpace indent).2.rest).trans hstart
        obtain ⟨hsuffix, hleft, hend⟩ := ih (nextLine (cursor.takeSpace indent).2.rest)
        exact ⟨hsuffix.trans hbelow, hleft, Nat.le_trans hend hbelow.length_le⟩

/-- An opening fence is a run of at least three marks. -/
theorem openingFence?_eq_some {text after : List Char} {mark : Char} {length : Nat}
    (h : openingFence? text = some (mark, length, after)) :
    ∃ below, text = mark :: below ∧ (mark = '`' ∨ mark = '~') ∧ 3 ≤ length := by
  cases text with
  | nil => cases h
  | cons c below =>
    simp only [openingFence?] at h
    split at h
    · rename_i hmark
      split at h
      · cases h
      · rename_i hlong
        cases h
        refine ⟨below, rfl, by simpa using hmark, ?_⟩
        simp only [Bool.or_eq_true, decide_eq_true_eq, not_or, Nat.not_lt] at hlong
        exact hlong.1
    · cases h

/-- A fenced block opens where it is read, and what is left after it is a suffix of the text that
starts no sooner than the block ends. Assumes: an opening fence there. -/
theorem readFence_opensIn (spine : Spine) {text after : List Char} {mark : Char} {length : Nat}
    (hopening : openingFence? text = some (mark, length, after)) (indent : Nat) :
    let read := readFence spine mark length indent text
    read.1.OpensIn text ∧ read.2 <:+ text ∧ read.2.length ≤ read.1.remainingAfter := by
  obtain ⟨below, rfl, hmark, hlength⟩ := openingFence?_eq_some hopening
  have hdrop : (mark :: below).drop length <:+ below := by
    obtain ⟨shorter, rfl⟩ : ∃ shorter, length = shorter + 1 := ⟨length - 1, by omega⟩
    exact List.drop_suffix shorter below
  have hbody : nextLine (skipInlineBlanks ((mark :: below).drop length)) <:+ below :=
    ((nextLine_suffix _).trans (skipInlineBlanks_suffix _)).trans hdrop
  obtain ⟨hsuffix, hleft, hend⟩ := readBody_remaining spine mark length indent
    ((mark :: below).length + 1) (nextLine (skipInlineBlanks ((mark :: below).drop length)))
  exact ⟨⟨mark, below, hmark, List.suffix_refl _, rfl,
      Nat.le_trans hend hbody.length_le⟩,
    (hsuffix.trans hbody).trans (List.suffix_cons _ _), hleft⟩

/-- What the reader of one block says about the text: a suffix is left, and a fenced block that was
read opens in the text and ends before that suffix. -/
def Reads (text : List Char) (fence : Option Fence) (rest : List Char) : Prop :=
  rest <:+ text ∧ ∀ found ∈ fence, found.OpensIn text ∧ rest.length ≤ found.remainingAfter

theorem Reads.none {text rest : List Char} (h : rest <:+ text) : Reads text .none rest :=
  ⟨h, nofun⟩

theorem Reads.mono {text inner rest : List Char} {fence : Option Fence}
    (h : Reads inner fence rest) (hinner : inner <:+ text) : Reads text fence rest :=
  ⟨h.1.trans hinner, fun found hfound ↦ ⟨(h.2 found hfound).1.mono hinner, (h.2 found hfound).2⟩⟩

theorem readLeaf_reads (spine : Spine) (indent : Nat) (text : List Char) :
    Reads text (readLeaf spine indent text).1 (readLeaf spine indent text).2 := by
  unfold readLeaf
  split
  · rename_i rest hhtml
    exact .none (afterHtml?_suffix hhtml)
  · split
    · rename_i rest hbreak
      exact .none (thematicBreak?_suffix hbreak)
    · split
      · exact .none (afterLine_suffix text)
      · split
        · rename_i mark length after hopening
          obtain ⟨hopens, hsuffix, hleft⟩ := readFence_opensIn spine hopening indent
          refine ⟨hsuffix, fun found hfound ↦ ?_⟩
          cases Option.mem_some_iff.1 hfound
          exact ⟨hopens, hleft⟩
        · split
          · rename_i rest hdefinition
            exact .none ((getD_blankLine?_suffix rest).trans (afterDefinition?_suffix hdefinition))
          · exact .none (afterParagraph_suffix spine text)

/-- A fenced block opens in the text that it is read from, whatever containers are open. -/
theorem read_reads (outline : Outline) (text : List Char) :
    Reads text (read outline text).2.1 (read outline text).2.2 := by
  have hline := outline.startLine_suffix text
  unfold read
  split
  · rename_i next rest hstart
    rw [hstart] at hline
    exact .none hline
  · rename_i next cursor hstart
    rw [hstart] at hline
    split
    · rename_i rest hblank
      exact .none ((blankLine?_suffix hblank).trans hline)
    · have hinner : (cursor.takeSpace 4).2.rest <:+ text :=
        (LineCursor.takeSpace_suffix cursor 4).trans hline
      simp only
      split
      · exact .none (((afterIndented_suffix _ _ _ _).trans (nextLine_suffix _)).trans hinner)
      · exact (readLeaf_reads _ _ _).mono hinner

end Block

theorem fencesFrom_inOrder (fuel : Nat) (outline : Outline) (text : List Char) :
    InOrder text (fencesFrom fuel outline text) := by
  induction fuel generalizing outline text with
  | zero => trivial
  | succ fuel ih =>
    cases text with
    | nil => trivial
    | cons c below =>
      obtain ⟨hrest, hfence⟩ := Block.read_reads outline (c :: below)
      simp only [fencesFrom]
      cases hread : (Block.read outline (c :: below)).2.1 with
      | none => exact (ih _ _).mono hrest
      | some fence =>
        obtain ⟨hopens, hleft⟩ := hfence fence hread
        exact ⟨hopens, _, hrest, hleft, ih _ _⟩

/-- The fenced blocks of a text stand in it one after the other, and none of them is empty. -/
theorem fences_inOrder (text : List Char) : InOrder text (fences text) :=
  fencesFrom_inOrder _ _ _

end Runbook.Markdown
