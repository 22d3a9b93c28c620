import Runbook.Markdown.Fence
/-!
# What the readers of blocks leave

Every reader of the block structure gives back the text after what it has read. This module proves
that what it gives back is always a suffix of what it was given, from the readers of single line
ends up to `Block.readLeaf` and `Outline.startLine`. A tab of which only some columns are taken
changes nothing about that, because the columns that are owed stand beside the text of a cursor and
not in it.

The readers of labels take a handler that decides whether a label may go over a line end;
`LeavesSuffix` is what has to be assumed of it. `continueText?_suffix` and the handler that refuses
every line end meet it.

Not proved here: that each block takes at least one character. The number of blocks that are read is
bounded by the length of the text, and no statement below depends on progress.
-/

set_option autoImplicit false

namespace Runbook.Markdown

variable {text rest : List Char}

/-! ### Line ends and openings -/

theorem lineEnd?_suffix (h : lineEnd? text = some rest) : rest <:+ text := by
  unfold lineEnd? at h
  split at h
  · cases h
    exact List.suffix_refl _
  · cases h
    exact List.suffix_cons _ _
  · cases h
    exact (List.suffix_cons _ _).trans (List.suffix_cons _ _)
  · cases h
    exact List.suffix_cons _ _
  · cases h

theorem skipInlineBlanks_suffix (text : List Char) : skipInlineBlanks text <:+ text :=
  List.dropWhile_suffix _

theorem blankLine?_suffix (h : blankLine? text = some rest) : rest <:+ text :=
  (lineEnd?_suffix h).trans (skipInlineBlanks_suffix text)

theorem nextLine_suffix (text : List Char) : nextLine text <:+ text := by
  induction text with
  | nil => exact List.suffix_refl _
  | cons c below ih =>
    rw [nextLine]
    split
    · exact List.suffix_cons _ _
    · exact ih.trans (List.suffix_cons _ _)

theorem after?_suffix {opening : List Char} (h : after? opening text = some rest) :
    rest <:+ text := by
  induction opening generalizing text with
  | nil =>
    cases h
    exact List.suffix_refl _
  | cons o opening ih =>
    cases text with
    | nil => cases h
    | cons c below =>
      rw [after?] at h
      split at h
      · exact (ih h).trans (List.suffix_cons _ _)
      · cases h

/-- A reader that gives up its input when it fails leaves a suffix if it does so when it
succeeds. -/
theorem getD_suffix {found : Option (List Char)}
    (h : ∀ after, found = some after → after <:+ text) :
    found.getD text <:+ text := by
  cases found with
  | none => exact List.suffix_refl _
  | some after => exact h after rfl

/-- The text after an opening that may be missing. -/
theorem getD_after?_suffix (opening text : List Char) :
    (after? opening text).getD text <:+ text :=
  getD_suffix fun _ h ↦ after?_suffix h

/-- The text after a blank line that may be missing. -/
theorem getD_blankLine?_suffix (text : List Char) : (blankLine? text).getD text <:+ text :=
  getD_suffix fun _ h ↦ blankLine?_suffix h

theorem afterLine?_suffix (h : afterLine? text = some rest) : rest <:+ text := by
  unfold afterLine? at h
  split at h
  · cases h
  · exact (lineEnd?_suffix h).trans (List.dropWhile_suffix _)

/-! ### Cursors -/

namespace LineCursor

theorem takeFrom_suffix (text : List Char) (sinceTab wanted : Nat) :
    (takeFrom text sinceTab wanted).2.rest <:+ text := by
  induction text generalizing sinceTab wanted with
  | nil => exact List.suffix_refl _
  | cons c below ih =>
    unfold takeFrom
    split
    · rename_i heq
      cases heq
      split
      · exact List.suffix_refl _
      · exact (ih _ _).trans (List.suffix_cons _ _)
    · rename_i heq
      cases heq
      simp only
      split
      · exact List.suffix_refl _
      · split
        · exact List.suffix_cons _ _
        · exact (ih _ _).trans (List.suffix_cons _ _)
    · exact List.suffix_refl _

theorem takeSpace_suffix (cursor : LineCursor) (wanted : Nat) :
    (cursor.takeSpace wanted).2.rest <:+ cursor.rest := by
  unfold takeSpace
  split
  · exact List.suffix_refl _
  · exact takeFrom_suffix _ _ _

theorem char?_suffix {cursor next : LineCursor} {expected : Char}
    (h : cursor.char? expected = some next) : next.rest <:+ cursor.rest := by
  unfold char? at h
  split at h
  · rename_i heq
    split at h
    · cases h
      rw [heq]
      exact List.suffix_cons _ _
    · cases h
  · cases h

theorem advance_suffix (cursor : LineCursor) (count : Nat) :
    (cursor.advance count).rest <:+ cursor.rest :=
  List.drop_suffix _ _

theorem skipSpace_suffix (cursor : LineCursor) : cursor.skipSpace.rest <:+ cursor.rest :=
  List.drop_suffix _ _

theorem indentation?_suffix {cursor next : LineCursor} {wanted : Nat}
    (h : cursor.indentation? wanted = some next) : next.rest <:+ cursor.rest := by
  simp only [indentation?] at h
  split at h
  · cases h
    exact takeSpace_suffix _ _
  · cases h

theorem quoteMarker?_suffix {cursor next : LineCursor} (h : cursor.quoteMarker? = some next) :
    next.rest <:+ cursor.rest := by
  obtain ⟨marked, hmarked, rfl⟩ := Option.map_eq_some_iff.1 h
  exact (takeSpace_suffix _ _).trans (char?_suffix hmarked)

end LineCursor

/-! ### Containers -/

theorem Container.continue?_suffix {container : Container} {cursor next : LineCursor}
    (h : container.continue? cursor = some next) : next.rest <:+ cursor.rest := by
  cases container with
  | quote => exact (LineCursor.quoteMarker?_suffix h).trans (LineCursor.takeSpace_suffix _ _)
  | list marker tight =>
    cases h
    exact List.suffix_refl _
  | item indent => exact LineCursor.indentation?_suffix h
  | footnote => exact LineCursor.indentation?_suffix h

/-- The place after what the open containers take of a line. -/
theorem continueSpine_suffix (spine : Spine) (cursor : LineCursor) :
    (continueSpine spine cursor).2.rest <:+ cursor.rest := by
  induction spine generalizing cursor with
  | nil => exact List.suffix_refl _
  | cons container inner ih =>
    unfold continueSpine
    split
    · exact List.suffix_refl _
    · rename_i next hnext
      exact (ih next).trans (Container.continue?_suffix hnext)

theorem continueAll?_suffix {spine : Spine} {cursor : LineCursor}
    (h : continueAll? spine text = some cursor) : cursor.rest <:+ text := by
  simp only [continueAll?] at h
  split at h
  · cases h
    exact continueSpine_suffix spine (.ofText text)
  · cases h

/-! ### Labels -/

/-- A handler of line ends inside a label goes on with a suffix of the text after the line end. -/
def LeavesSuffix (newline : List Char → Option (List Char)) : Prop :=
  ∀ text rest, newline text = some rest → rest <:+ text

theorem leavesSuffix_none : LeavesSuffix fun _ ↦ none := nofun

theorem continueText?_suffix (spine : Spine) : LeavesSuffix (continueText? spine) := by
  intro text rest h
  simp only [continueText?] at h
  split at h
  · cases h
  · cases h
    exact continueSpine_suffix spine (.ofText text)

theorem labelBlanks?_suffix {newline : List Char → Option (List Char)}
    (hnewline : LeavesSuffix newline) {fuel length count : Nat} {broke : Bool}
    (h : labelBlanks? newline fuel length broke text = some (count, rest)) : rest <:+ text := by
  induction fuel generalizing length broke text with
  | zero => cases h
  | succ fuel ih =>
    unfold labelBlanks? at h
    split at h
    · cases h
      exact List.suffix_refl _
    · rename_i c below
      split at h
      · split at h
        · cases h
        · simp only [Option.bind_eq_bind, Option.bind_eq_some_iff] at h
          obtain ⟨afterEnd, hend, next, hnext, hrest⟩ := h
          exact ((ih hrest).trans (hnewline _ _ hnext)).trans (lineEnd?_suffix hend)
      · split at h
        · exact (ih h).trans (List.suffix_cons _ _)
        · cases h
          exact List.suffix_refl _

theorem readLabel?_suffix {newline : List Char → Option (List Char)}
    (hnewline : LeavesSuffix newline) {fuel length : Nat} {hasText : Bool}
    (h : readLabel? newline fuel length hasText text = some rest) : rest <:+ text := by
  induction fuel generalizing length hasText text with
  | zero => cases h
  | succ fuel ih =>
    unfold readLabel? at h
    split at h
    · cases h
    · split at h
      · cases h
      · cases h
      · split at h
        · cases h
          exact List.suffix_cons _ _
        · cases h
      · exact ((ih h).trans (List.suffix_cons _ _)).trans (List.suffix_cons _ _)
      · cases h
      · split at h
        · obtain ⟨⟨count, next⟩, hblanks, hrest⟩ := Option.bind_eq_some_iff.1 h
          exact (ih hrest).trans (labelBlanks?_suffix hnewline hblanks)
        · exact (ih h).trans (List.suffix_cons _ _)

theorem footnoteMarker?_suffix (h : footnoteMarker? text = some rest) : rest <:+ text := by
  simp only [footnoteMarker?, Option.bind_eq_bind, Option.bind_eq_some_iff] at h
  obtain ⟨label, hlabel, after, hafter, hrest⟩ := h
  exact ((after?_suffix hrest).trans (readLabel?_suffix leavesSuffix_none hafter)).trans
    (after?_suffix hlabel)

/-! ### The start of a line -/

theorem LineCursor.listItem?_suffix {cursor next : LineCursor} {outer indent : Nat}
    {marker : Char} (h : cursor.listItem? outer = some (marker, indent, next)) :
    next.rest <:+ cursor.rest := by
  simp only [LineCursor.listItem?, Option.bind_eq_bind, Option.bind_eq_some_iff] at h
  obtain ⟨⟨found, number, width, after⟩, -, h⟩ := h
  have hone : ((cursor.advance width).takeSpace 1).2.rest <:+ cursor.rest :=
    (takeSpace_suffix _ _).trans (advance_suffix _ _)
  have hfour := (takeSpace_suffix ((cursor.advance width).takeSpace 1).2 4).trans hone
  split at h
  · cases h
  · split at h
    · cases h
    · split at h
      · cases h
        exact hone
      · split at h
        · cases h
          exact hfour
        · cases h
          exact hone

theorem LineCursor.taskMarker?_suffix {cursor next : LineCursor}
    (h : cursor.taskMarker? = some next) : next.rest <:+ cursor.rest := by
  simp only [LineCursor.taskMarker?, Option.bind_eq_bind, Option.bind_eq_some_iff] at h
  obtain ⟨opened, hopened, c, -, h⟩ := h
  split at h
  · cases h
  · obtain ⟨closed, hclosed, h⟩ := Option.bind_eq_some_iff.1 h
    split at h
    · cases h
      exact (((char?_suffix hclosed).trans (advance_suffix _ _)).trans
        (char?_suffix hopened)).trans (takeSpace_suffix _ _)
    · cases h

/-- The text that is left once the containers of a line are open. -/
def LineStart.remainder : LineStart → List Char
  | .bareItem rest => rest
  | .inside cursor => cursor.rest

theorem openContainers_suffix (fuel : Nat) (outline : Outline) (cursor : LineCursor) :
    (openContainers fuel outline cursor).2.remainder <:+ cursor.rest := by
  induction fuel generalizing outline cursor with
  | zero => exact List.suffix_refl _
  | succ fuel ih =>
    have hstart := LineCursor.takeSpace_suffix cursor 4
    simp only [openContainers]
    split
    · exact List.suffix_refl _
    · split
      · rename_i after hfootnote
        exact (((ih _ (.ofText (skipInlineBlanks after))).trans
          (skipInlineBlanks_suffix after)).trans (footnoteMarker?_suffix hfootnote)).trans hstart
      · split
        · rename_i marker indent next hitem
          have hnext := (LineCursor.listItem?_suffix hitem).trans hstart
          split
          · rename_i after hblank
            exact (blankLine?_suffix hblank).trans hnext
          · split
            · exact (ih _ next).trans hnext
            · rename_i boxed htask
              have hboxed := (LineCursor.taskMarker?_suffix htask).trans hnext
              split
              · rename_i after hblank
                exact (blankLine?_suffix hblank).trans hboxed
              · exact (ih _ boxed).trans hboxed
        · split
          · rename_i next hquote
            exact ((ih _ next).trans (LineCursor.quoteMarker?_suffix hquote)).trans hstart
          · exact List.suffix_refl _

/-- Closing and opening containers at the start of a line leaves a suffix of the line. -/
theorem Outline.startLine_suffix (outline : Outline) (text : List Char) :
    (outline.startLine text).2.remainder <:+ text :=
  (openContainers_suffix _ _ _).trans (continueSpine_suffix outline.spine (.ofText text))

/-! ### Definitions -/

theorem afterPointed?_suffix (h : afterPointed? text = some rest) : rest <:+ text := by
  fun_induction afterPointed? text with
  | case1 => cases h
  | case2 =>
    cases h
    exact List.suffix_cons _ _
  | case3 => cases h
  | case4 => cases h
  | case5 => cases h
  | case6 => cases h
  | case7 c below _ ih => exact ((ih h).trans (List.suffix_cons _ _)).trans (List.suffix_cons _ _)
  | case8 c below _ ih => exact (ih h).trans (List.suffix_cons _ _)
  | case9 c below _ _ _ _ _ _ ih => exact (ih h).trans (List.suffix_cons _ _)

theorem afterPlain?_suffix {nesting : Nat} (h : afterPlain? nesting text = some rest) :
    rest <:+ text := by
  fun_induction afterPlain? nesting text with
  | case1 =>
    cases h
    exact List.suffix_refl _
  | case2 | case5 | case8 | case9 => cases h
  | case3 _ _ _ _ ih | case6 _ _ _ _ _ ih =>
    exact ((ih h).trans (List.suffix_cons _ _)).trans (List.suffix_cons _ _)
  | case4 =>
    cases h
    exact List.suffix_cons _ _
  | case7 | case11 =>
    cases h
    exact List.suffix_refl _
  | case10 _ _ _ _ _ _ _ ih | case12 _ _ _ _ _ _ _ _ ih | case13 _ _ _ _ _ _ _ ih =>
    exact (ih h).trans (List.suffix_cons _ _)

theorem afterDestination?_suffix (h : afterDestination? text = some rest) : rest <:+ text := by
  unfold afterDestination? at h
  split at h
  · exact (afterPointed?_suffix h).trans (List.suffix_cons _ _)
  · split at h
    · rename_i after hplain
      split at h
      · cases h
      · cases h
        exact afterPlain?_suffix hplain
    · cases h

theorem continueDefinition?_suffix {spine : Spine} {next : LineCursor}
    (h : continueDefinition? spine text = some next) : next.rest <:+ text := by
  simp only [continueDefinition?] at h
  split at h
  · cases h
  · cases h
    exact (LineCursor.takeSpace_suffix _ 4).trans (continueSpine_suffix spine (.ofText text))

theorem afterGap?_suffix {spine : Spine} {overLine : Bool}
    (h : afterGap? spine text = some (rest, overLine)) : rest <:+ text := by
  simp only [afterGap?] at h
  split at h
  · cases h
    exact skipInlineBlanks_suffix text
  · simp only [Option.bind_eq_bind, Option.bind_eq_some_iff] at h
    obtain ⟨below, hend, next, hnext, h⟩ := h
    split at h
    · cases h
    · cases h
      exact (((skipInlineBlanks_suffix _).trans (continueDefinition?_suffix hnext)).trans
        (lineEnd?_suffix hend)).trans (skipInlineBlanks_suffix text)

theorem afterTitleText?_suffix {spine : Spine} {closing : Char} {fuel : Nat}
    (h : afterTitleText? spine closing fuel text = some rest) : rest <:+ text := by
  fun_induction afterTitleText? spine closing fuel text with
  | case1 | case2 | case3 => cases h
  | case4 fuel c below _ _ ih =>
    simp only [Option.bind_eq_bind, Option.bind_eq_some_iff] at h
    obtain ⟨afterEnd, hend, next, hnext, h⟩ := h
    split at h
    · cases h
    · exact (((ih next h).trans (LineCursor.skipSpace_suffix next)).trans
        (continueDefinition?_suffix hnext)).trans (lineEnd?_suffix hend)
  | case5 _ _ _ _ _ _ ih => exact (ih h).trans (List.suffix_cons _ _)
  | case6 _ _ _ _ _ _ _ ih =>
    exact ((ih h).trans (List.drop_suffix _ _)).trans (List.suffix_cons _ _)
  | case7 =>
    cases h
    exact List.suffix_cons _ _
  | case8 _ _ _ _ _ _ _ ih => exact (ih h).trans (List.suffix_cons _ _)

theorem afterTitle?_suffix {spine : Spine} (h : afterTitle? spine text = some rest) :
    rest <:+ text := by
  unfold afterTitle? at h
  split at h
  · exact (afterTitleText?_suffix h).trans (List.suffix_cons _ _)
  · exact (afterTitleText?_suffix h).trans (List.suffix_cons _ _)
  · exact (afterTitleText?_suffix h).trans (List.suffix_cons _ _)
  · cases h

theorem afterTarget?_suffix {spine : Spine} (h : afterTarget? spine text = some rest) :
    rest <:+ text := by
  simp only [afterTarget?, Option.bind_eq_bind, Option.bind_eq_some_iff] at h
  obtain ⟨⟨target, overEnd⟩, hgap, untitled, hdestination, h⟩ := h
  have huntitled : untitled <:+ text :=
    (afterDestination?_suffix hdestination).trans (afterGap?_suffix hgap)
  split at h
  · cases h
    exact huntitled
  · rename_i titled overLine htitled
    split at h
    · cases h
    · split at h
      · rename_i after hafter
        cases h
        obtain ⟨closed, hclosed, hblank⟩ := Option.bind_eq_some_iff.1 hafter
        exact (((blankLine?_suffix hblank).trans (afterTitle?_suffix hclosed)).trans
          (afterGap?_suffix htitled)).trans huntitled
      · split at h
        · cases h
          exact huntitled
        · cases h

/-- The text after a link reference definition. -/
theorem afterDefinition?_suffix {spine : Spine} (h : afterDefinition? spine text = some rest) :
    rest <:+ text := by
  simp only [afterDefinition?, Option.bind_eq_bind, Option.bind_eq_some_iff] at h
  obtain ⟨label, hlabel, after, hafter, target, htarget, h⟩ := h
  exact (((afterTarget?_suffix h).trans (after?_suffix htarget)).trans
    (readLabel?_suffix (continueText?_suffix spine) hafter)).trans (after?_suffix hlabel)

/-! ### Blocks whose text is not looked into -/

namespace Block

theorem afterIndented_suffix (spine : Spine) (fuel : Nat) (lastBlank : Bool)
    (text : List Char) : (afterIndented spine fuel lastBlank text).2 <:+ text := by
  induction fuel generalizing lastBlank text with
  | zero => exact List.suffix_refl _
  | succ fuel ih =>
    simp only [afterIndented]
    split
    · exact List.nil_suffix
    · split
      · exact List.suffix_refl _
      · rename_i cursor hcursor
        split
        · exact List.suffix_refl _
        · exact (((ih _ _).trans (nextLine_suffix _)).trans
            (LineCursor.takeSpace_suffix cursor 4)).trans (continueAll?_suffix hcursor)

theorem afterClosing_suffix (spine : Spine) (closing : List Char) (fuel : Nat)
    (text : List Char) : afterClosing spine closing fuel text <:+ text := by
  induction fuel generalizing text with
  | zero => exact List.suffix_refl _
  | succ fuel ih =>
    simp only [afterClosing]
    split
    · exact nextLine_suffix text
    · rename_i cursor hcursor
      split
      · exact nextLine_suffix text
      · exact ((ih _).trans (continueAll?_suffix hcursor)).trans (nextLine_suffix text)

theorem afterMarkup_suffix (spine : Spine) (fuel : Nat) (text : List Char) :
    afterMarkup spine fuel text <:+ text := by
  induction fuel generalizing text with
  | zero => exact List.suffix_refl _
  | succ fuel ih =>
    simp only [afterMarkup]
    split
    · exact nextLine_suffix text
    · rename_i cursor hcursor
      split
      · exact nextLine_suffix text
      · exact ((ih _).trans (continueAll?_suffix hcursor)).trans (nextLine_suffix text)

theorem afterLine_suffix (text : List Char) : afterLine text <:+ text := by
  unfold afterLine
  cases h : afterLine? text with
  | none => exact List.nil_suffix
  | some after => exact afterLine?_suffix h

theorem afterRows_suffix (spine : Spine) (fuel : Nat) (text : List Char) :
    afterRows spine fuel text <:+ text := by
  induction fuel generalizing text with
  | zero => exact List.suffix_refl _
  | succ fuel ih =>
    simp only [afterRows]
    split
    · exact List.suffix_refl _
    · rename_i cursor hcursor
      split
      · exact List.suffix_refl _
      · exact (((ih _).trans (afterLine_suffix _)).trans
          (LineCursor.skipSpace_suffix cursor)).trans (continueAll?_suffix hcursor)

theorem onlyOnLine?_suffix {mark : Char} {count : Nat}
    (h : onlyOnLine? mark text = some (count, rest)) : rest <:+ text := by
  induction text generalizing count with
  | nil =>
    cases h
    exact List.suffix_refl _
  | cons c below ih =>
    unfold onlyOnLine? at h
    split at h
    · obtain ⟨after, hend, heq⟩ := Option.map_eq_some_iff.1 h
      cases heq
      exact lineEnd?_suffix hend
    · split at h
      · obtain ⟨⟨more, after⟩, hmore, heq⟩ := Option.map_eq_some_iff.1 h
        cases heq
        exact (ih hmore).trans (List.suffix_cons _ _)
      · split at h
        · exact (ih h).trans (List.suffix_cons _ _)
        · cases h

theorem thematicBreak?_suffix (h : thematicBreak? text = some rest) : rest <:+ text := by
  unfold thematicBreak? at h
  split at h
  · cases h
  · split at h
    · split at h
      · rename_i count after hline
        split at h
        · cases h
          exact onlyOnLine?_suffix hline
        · cases h
      · cases h
    · cases h

theorem readDelimiters?_suffix {row read : DelimiterRow}
    (h : readDelimiters? row text = some (read, rest)) : rest <:+ text := by
  induction text generalizing row with
  | nil =>
    cases h
    exact List.suffix_refl _
  | cons c below ih =>
    unfold readDelimiters? at h
    split at h
    · obtain ⟨after, hend, heq⟩ := Option.map_eq_some_iff.1 h
      cases heq
      exact lineEnd?_suffix hend
    · split at h
      · exact (ih h).trans (List.suffix_cons _ _)
      · split at h
        · exact (ih h).trans (List.suffix_cons _ _)
        · split at h
          · exact (ih h).trans (List.suffix_cons _ _)
          · split at h
            · split at h
              · exact (ih h).trans (List.suffix_cons _ _)
              · cases h
            · cases h

theorem delimiterRow?_suffix {columns : Nat} (h : delimiterRow? text = some (columns, rest)) :
    rest <:+ text := by
  simp only [delimiterRow?, Option.bind_eq_bind] at h
  split at h
  · cases h
  · obtain ⟨⟨row, after⟩, hrow, h⟩ := Option.bind_eq_some_iff.1 h
    split at h
    · cases h
    · cases h
      exact ((readDelimiters?_suffix hrow).trans (getD_after?_suffix _ _)).trans
        (LineCursor.takeSpace_suffix (.ofText text) 4)

theorem afterTableHead?_suffix {spine : Spine} (h : afterTableHead? spine text = some rest) :
    rest <:+ text := by
  simp only [afterTableHead?, Option.bind_eq_bind, Option.bind_eq_some_iff] at h
  obtain ⟨columns, -, below, hbelow, cursor, hcursor, ⟨delimiters, after⟩, hrow, h⟩ := h
  split at h
  · cases h
    exact ((delimiterRow?_suffix hrow).trans (continueAll?_suffix hcursor)).trans
      (afterLine?_suffix hbelow)
  · cases h

theorem underline?_suffix (h : underline? text = some rest) : rest <:+ text := by
  unfold underline? at h
  split at h
  · cases h
  · split at h
    · exact ((blankLine?_suffix h).trans (List.dropWhile_suffix _)).trans (List.suffix_cons _ _)
    · cases h

theorem afterParagraphLines_suffix (spine : Spine) (fuel : Nat) (text : List Char) :
    afterParagraphLines spine fuel text <:+ text := by
  induction fuel generalizing text with
  | zero => exact List.suffix_refl _
  | succ fuel ih =>
    have hbelow := afterLine_suffix text
    have hnext : ((continueSpine spine (.ofText (afterLine text))).2.takeSpace 4).2.rest <:+
        text :=
      ((LineCursor.takeSpace_suffix _ 4).trans
        (continueSpine_suffix spine (.ofText (afterLine text)))).trans hbelow
    simp only [afterParagraphLines]
    split
    · rename_i after hunderline
      split at hunderline
      · exact (underline?_suffix hunderline).trans hnext
      · cases hunderline
    · split
      · exact hbelow
      · split
        · exact hbelow
        · exact ((ih _).trans (LineCursor.skipSpace_suffix _)).trans hnext

theorem afterParagraph_suffix (spine : Spine) (text : List Char) :
    afterParagraph spine text <:+ text := by
  unfold afterParagraph
  split
  · rename_i after hhead
    exact (afterRows_suffix _ _ _).trans (afterTableHead?_suffix hhead)
  · exact afterParagraphLines_suffix _ _ _

theorem afterHtml?_suffix {spine : Spine} (h : afterHtml? spine text = some rest) :
    rest <:+ text := by
  simp only [afterHtml?, Option.bind_eq_bind, Option.bind_eq_some_iff] at h
  obtain ⟨tag, -, h⟩ := h
  split at h
  · cases h
    exact afterClosing_suffix _ _ _ _
  · split at h
    · cases h
      exact afterMarkup_suffix _ _ _
    · cases h

end Block

end Runbook.Markdown
