import Mathlib.Data.List.Infix
import Runbook.Proofs.Markdown.Escapes
/-!
# Images in a line of Markdown

How an inline image is read: `![`, a label up to the square bracket that closes it, and a
destination in parentheses. A backslash before a punctuation character escapes it. The bracket that
closes a label is the first one that is not escaped and closes no bracket inside the label, and the
same goes for the parenthesis after a destination, in which no space and no control character
stands.
`readImage?` gives both parts as they are written, and `resolveEscapes` resolves the escapes of a
part.

`splitAtClosing?_append_iff` says when a text is read up to the mark that was put after it: when it
does not end in an open escape, when it has no character at which reading stops, and when the marks
in it that are not escaped are `Balanced`. `splitAtClosing?_escapeMarks_iff` adds when a text that
was written with some marks escaped is also read as itself.

Scope. Only escapes are resolved here, not character references, and a destination in angle brackets
or with a title is not read.
-/

set_option autoImplicit false

namespace Runbook.Markdown

/-! ### Reading -/

section Closing

variable (opening closing : Char) (stops : Char → Bool)

/-- The text up to the mark that closes it and the text after that mark, inside so many marks that
have been opened; `none` where the text ends or a character that stops it comes first. -/
def splitAtClosing? : Bool → Nat → List Char → Option (List Char × List Char)
  | _, _, [] => none
  | escaping, depth, c :: rest =>
    let further (depth : Nat) := (splitAtClosing? (escapesNext escaping c) depth rest).map
      fun (inner, after) => (c :: inner, after)
    if escaping && isPunctuation c then further depth
    else if stops c then none
    else if c = closing then (if depth = 0 then some ([], rest) else further (depth - 1))
    else further (if c = opening then depth + 1 else depth)

end Closing

/-- A space or a control character. -/
def isSpaceOrControl (c : Char) : Bool := c.toNat ≤ 0x20 || c.toNat == 0x7f

/-- The label and the destination of the image that a text is. -/
def readImage? (text : List Char) : Option (List Char × List Char) := do
  let inside ← after? ['!', '['] text
  let (label, rest) ← splitAtClosing? '[' ']' (fun _ => false) false 0 inside
  let target ← after? ['('] rest
  if target.head? = some '<' then none
  let (destination, rest) ← splitAtClosing? '(' ')' isSpaceOrControl false 0 target
  if rest.isEmpty then return (label, destination) else none

/-! ### Balanced marks -/

/-- The marks of a text close each other, and so many marks that were opened before it. -/
structure Balanced (opening closing : Char) (depth : Nat) (text : List Char) : Prop where
  /-- No mark closes more than has been opened. -/
  count_le : ∀ before, before <+: text → before.count closing ≤ depth + before.count opening
  count_eq : text.count closing = depth + text.count opening

section Balanced

variable {opening closing c : Char} {depth : Nat} {text : List Char}

theorem balanced_nil : Balanced opening closing depth [] ↔ depth = 0 := by
  constructor
  · exact fun h ↦ h.count_eq.symm
  · rintro rfl
    exact ⟨fun before hbefore ↦ by rw [List.prefix_nil.1 hbefore]; exact Nat.le_refl 0, rfl⟩

/-- What stands before marks that are balanced from another depth on. -/
theorem balanced_cons_iff {later : Nat}
    (h : ∀ before, (c :: before).count closing ≤ depth + (c :: before).count opening ↔
      before.count closing ≤ later + before.count opening)
    (heq : (c :: text).count closing = depth + (c :: text).count opening ↔
      text.count closing = later + text.count opening) :
    Balanced opening closing depth (c :: text) ↔ Balanced opening closing later text := by
  constructor
  · rintro ⟨hle, hall⟩
    exact ⟨fun before hbefore ↦ (h before).1 (hle _ ((List.prefix_cons_inj c).2 hbefore)),
      heq.1 hall⟩
  · rintro ⟨hle, hall⟩
    refine ⟨fun before hbefore ↦ ?_, heq.2 hall⟩
    rcases List.prefix_cons_iff.1 hbefore with rfl | ⟨tail, rfl, htail⟩
    · exact Nat.zero_le _
    · exact (h tail).2 (hle tail htail)

theorem balanced_cons_of_ne (hopening : c ≠ opening) (hclosing : c ≠ closing) :
    Balanced opening closing depth (c :: text) ↔ Balanced opening closing depth text := by
  apply balanced_cons_iff <;> simp [List.count_cons_of_ne hopening, List.count_cons_of_ne hclosing]

theorem balanced_cons_opening (hne : opening ≠ closing) :
    Balanced opening closing depth (opening :: text) ↔
      Balanced opening closing (depth + 1) text := by
  apply balanced_cons_iff <;> simp only [List.count_cons_self, List.count_cons_of_ne hne] <;> omega

theorem balanced_cons_closing (hne : opening ≠ closing) :
    Balanced opening closing (depth + 1) (closing :: text) ↔
      Balanced opening closing depth text := by
  apply balanced_cons_iff <;> simp only [List.count_cons_self, List.count_cons_of_ne hne.symm] <;>
    omega

/-- A mark that closes nothing is not balanced. -/
theorem not_balanced_cons_closing (hne : opening ≠ closing) :
    ¬Balanced opening closing 0 (closing :: text) := by
  intro h
  have hle := h.count_le [closing] ((List.prefix_cons_inj closing).2 List.nil_prefix)
  rw [List.count_cons_self, List.count_cons_of_ne hne.symm] at hle
  exact absurd hle (by simp)

/-- Characters that are no marks do not matter. -/
theorem balanced_filter (hne : opening ≠ closing) {kept : Char → Bool}
    (hopening : kept opening = true) (hclosing : kept closing = true) :
    Balanced opening closing depth (text.filter kept) ↔ Balanced opening closing depth text := by
  induction text generalizing depth with
  | nil => exact Iff.rfl
  | cons c text ih =>
    by_cases hopen : c = opening
    · subst hopen
      rw [List.filter_cons_of_pos hopening, balanced_cons_opening hne, balanced_cons_opening hne,
        ih]
    by_cases hclose : c = closing
    · subst hclose
      rw [List.filter_cons_of_pos hclosing]
      cases depth with
      | zero => exact iff_of_false (not_balanced_cons_closing hne) (not_balanced_cons_closing hne)
      | succ depth => rw [balanced_cons_closing hne, balanced_cons_closing hne, ih]
    rw [balanced_cons_of_ne hopen hclose, ← ih, List.filter_cons]
    split
    · exact balanced_cons_of_ne hopen hclose
    · exact Iff.rfl

end Balanced

/-! ### The mark that closes -/

section Closing

variable {opening closing : Char} {stops : Char → Bool} {escaping : Bool} {depth : Nat}
  {text after : List Char}

theorem map_cons_eq_some_iff {c : Char} {found : Option (List Char × List Char)} :
    (found.map fun (inner, after) ↦ (c :: inner, after)) = some (c :: text, after) ↔
      found = some (text, after) := by
  cases found with
  | none => simp
  | some parts => simp [Prod.ext_iff]

/-- A text is read up to the mark that was put after it. Assumes: the mark is a punctuation
character other than the one that opens, and reading does not stop at it. -/
theorem splitAtClosing?_append_iff (hne : opening ≠ closing)
    (hclosing : isPunctuation closing = true) (hstops : stops closing = false) :
    splitAtClosing? opening closing stops escaping depth (text ++ closing :: after) =
        some (text, after) ↔
      endsEscaping escaping text = false ∧ (∀ c ∈ unescaped escaping text, stops c = false) ∧
        Balanced opening closing depth (unescaped escaping text) := by
  induction text generalizing escaping depth with
  | nil =>
    rw [List.nil_append, splitAtClosing?, hclosing, hstops, unescaped, balanced_nil]
    cases escaping with
    | true => simp [endsEscaping]
    | false =>
      by_cases hdepth : depth = 0
      · simp [endsEscaping, hdepth]
      · simp [endsEscaping, hdepth]
  | cons c text ih =>
    have hends : endsEscaping escaping (c :: text) = endsEscaping (escapesNext escaping c) text :=
      rfl
    rw [List.cons_append, splitAtClosing?, unescaped, hends]
    by_cases hescaped : (escaping && isPunctuation c) = true
    · -- The character is escaped and closes nothing.
      rw [if_pos hescaped, if_pos hescaped, map_cons_eq_some_iff, ih]
    rw [if_neg hescaped, if_neg hescaped, List.forall_mem_cons]
    cases hstop : stops c with
    | true => simp
    | false =>
      rw [if_neg Bool.false_ne_true, eq_self, true_and]
      by_cases hclose : c = closing
      · subst hclose
        rw [if_pos rfl]
        cases depth with
        | zero => simp [not_balanced_cons_closing hne]
        | succ depth =>
          rw [if_neg (Nat.succ_ne_zero depth), Nat.add_sub_cancel, map_cons_eq_some_iff, ih,
            balanced_cons_closing hne]
      · rw [if_neg hclose, map_cons_eq_some_iff, ih]
        by_cases hopen : c = opening
        · rw [if_pos hopen, hopen, balanced_cons_opening hne]
        · rw [if_neg hopen, balanced_cons_of_ne hopen hclose]

/-- What is read and what is left stand around the mark that closes. -/
theorem eq_append_of_splitAtClosing? {inner : List Char}
    (h : splitAtClosing? opening closing stops escaping depth text = some (inner, after)) :
    text = inner ++ closing :: after := by
  induction text generalizing escaping depth inner with
  | nil => cases h
  | cons c text ih =>
    have hfurther {next : Bool} {within : Nat}
        (h : (splitAtClosing? opening closing stops next within text).map
          (fun (inner, after) ↦ (c :: inner, after)) = some (inner, after)) :
        c :: text = inner ++ closing :: after := by
      obtain ⟨⟨more, rest⟩, hmore, heq⟩ := Option.map_eq_some_iff.1 h
      cases heq
      exact congrArg (c :: ·) (ih hmore)
    rw [splitAtClosing?] at h
    split at h
    · exact hfurther h
    split at h
    · cases h
    split at h
    · next hclose =>
      split at h
      · cases h
        rw [hclose, List.nil_append]
      · exact hfurther h
    · exact hfurther h

/-- Leaving backslashes out does not change whether reading stops. -/
theorem forall_stops_filter (hbackslash : stops '\\' = false) :
    (∀ c ∈ text.filter (· != '\\'), stops c = false) ↔ ∀ c ∈ text, stops c = false := by
  refine ⟨fun h c hc ↦ ?_, fun h c hc ↦ h c (List.mem_of_mem_filter hc)⟩
  by_cases hne : c = '\\'
  · rw [hne, hbackslash]
  · exact h c (List.mem_filter.2 ⟨hc, bne_iff_ne.2 hne⟩)

/-- A text that is written with some marks escaped is read up to the mark that was put after it, and
as itself, exactly when it loses no backslash and does not end in one, reading does not stop in it
and what it exposes is balanced. Assumes: the marks that are escaped are punctuation characters but
not backslashes, and so is the one that closes; the one that opens is another one and no backslash,
and reading stops neither at a backslash nor at the mark that closes. -/
theorem splitAtClosing?_escapeMarks_iff {marks : Char → Bool}
    (hmarks : ∀ c, marks c = true → isPunctuation c = true ∧ c ≠ '\\') (hne : opening ≠ closing)
    (hopening : opening ≠ '\\') (hclosing : isPunctuation closing = true ∧ closing ≠ '\\')
    (hstops : stops closing = false) (hbackslash : stops '\\' = false) (text after : List Char) :
    (splitAtClosing? opening closing stops false 0 (escapeMarks marks text ++ closing :: after) =
          some (escapeMarks marks text, after) ∧
        resolveEscapes (escapeMarks marks text) = text) ↔
      LosesNone marks text ∧ text.getLast? ≠ some '\\' ∧
        (∀ c ∈ exposed marks false text, stops c = false) ∧
        Balanced opening closing 0 (exposed marks false text) := by
  rw [splitAtClosing?_append_iff hne hclosing.1 hstops, and_comm]
  have hresolves : resolveEscapes (escapeMarks marks text) = text ↔ LosesNone marks text :=
    resolveFrom_escapeMarks_iff hmarks false text
  rw [hresolves]
  refine and_congr_right fun hloses ↦ ?_
  have hends : endsEscaping false (escapeMarks marks text) = true ↔ text.getLast? = some '\\' :=
    endsEscaping_escapeMarks_iff hmarks false text hloses
  have hshown := unescaped_escapeMarks hmarks false text hloses
  have hfilter (shown : List Char) : Balanced opening closing 0 (shown.filter (· != '\\')) ↔
      Balanced opening closing 0 shown :=
    balanced_filter hne (bne_iff_ne.2 hopening) (bne_iff_ne.2 hclosing.2)
  rw [← Bool.not_eq_true, hends, ← forall_stops_filter hbackslash, ← hfilter, hshown, hfilter,
    forall_stops_filter hbackslash]

end Closing

/-- What is read of the text of an image. -/
theorem readImage?_eq_some_iff (label destination : List Char) :
    readImage? ("![".toList ++ label ++ "](".toList ++ destination ++ [')']) =
        some (label, destination) ↔
      splitAtClosing? '[' ']' (fun _ ↦ false) false 0
          (label ++ ']' :: '(' :: (destination ++ [')'])) =
        some (label, '(' :: (destination ++ [')'])) ∧
      destination.head? ≠ some '<' ∧
      splitAtClosing? '(' ')' isSpaceOrControl false 0 (destination ++ [')']) =
        some (destination, []) := by
  have htext : "![".toList ++ label ++ "](".toList ++ destination ++ [')'] =
      '!' :: '[' :: (label ++ ']' :: '(' :: (destination ++ [')'])) := by simp
  have hstarts : (destination ++ [')']).head? = some '<' ↔ destination.head? = some '<' := by
    cases destination <;> simp
  rw [htext]
  constructor
  · intro h
    simp only [readImage?, after?, if_true, Option.bind_eq_bind, Option.bind_eq_some_iff] at h
    obtain ⟨_, ⟨⟩, ⟨inner, rest⟩, hlabel, target, htarget, h⟩ := h
    split at h
    · cases h
    next hhead =>
    obtain ⟨⟨found, left⟩, hdestination, h⟩ := Option.bind_eq_some_iff.1 h
    split at h
    · next hleft =>
      cases h
      obtain rfl : left = [] := List.isEmpty_iff.1 hleft
      -- What follows the label is what was written after it.
      have hsplit := List.append_cancel_left (eq_append_of_splitAtClosing? hlabel)
      obtain rfl : '(' :: (found ++ [')']) = rest := (List.cons.inj hsplit).2
      obtain rfl : found ++ [')'] = target := Option.some.inj htarget
      exact ⟨hlabel, fun heq ↦ hhead (hstarts.2 heq), hdestination⟩
    · cases h
  · rintro ⟨hlabel, hhead, hdestination⟩
    have hclear : ¬(destination ++ [')']).head? = some '<' := fun heq ↦ hhead (hstarts.1 heq)
    simp only [readImage?, after?, if_true, Option.bind_eq_bind, Option.bind_some, hlabel,
      if_neg hclear, hdestination, List.isEmpty_nil]
    rfl

end Runbook.Markdown
