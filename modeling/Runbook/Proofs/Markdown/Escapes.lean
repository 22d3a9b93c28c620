import Mathlib.Data.List.Basic
import Runbook.Markdown.Line
/-!
# Backslash escapes

A backslash before a punctuation character escapes it; before any other character, and at the end,
it stands for itself. `resolveEscapes` resolves the escapes of a text, and `unescaped` gives the
characters that are not escaped. Both read a text from left to right and know whether a backslash
right before the next character would escape it.

`escapeMarks` writes a backslash before some punctuation characters and leaves everything else as it
is, backslashes too. What it writes is resolved to the text that was written exactly when no
backslash of the text comes before a punctuation character, unless before one that is escaped itself
(`resolveFrom_escapeMarks_iff`). Then it leaves unescaped what stands in the text besides the marks
that do not come after a backslash (`unescaped_escapeMarks`).
-/

set_option autoImplicit false

namespace Runbook.Markdown

/-! ### Reading escapes -/

/-- Whether the character after this one can be escaped by it, when this one could have been escaped
by the character before. -/
def escapesNext (escaping : Bool) (c : Char) : Bool := !(escaping && isPunctuation c) && c == '\\'

/-- The characters of a text that no backslash escapes. The first one may be escaped by a backslash
before the text. -/
def unescaped : Bool → List Char → List Char
  | _, [] => []
  | escaping, c :: rest =>
    if escaping && isPunctuation c then unescaped (escapesNext escaping c) rest
    else c :: unescaped (escapesNext escaping c) rest

/-- Whether a backslash at the end of a text would escape what follows. -/
def endsEscaping (escaping : Bool) (text : List Char) : Bool := text.foldl escapesNext escaping

/-- The text with its escapes resolved, after a backslash that can escape its first character: a
backslash stays where it escapes nothing. -/
def resolveFrom : Bool → List Char → List Char
  | escaping, [] => if escaping then ['\\'] else []
  | escaping, c :: rest =>
    if escaping && isPunctuation c then c :: resolveFrom false rest
    else
      let kept := if c = '\\' then resolveFrom true rest else c :: resolveFrom false rest
      if escaping then '\\' :: kept else kept

/-- The text with its escapes resolved. -/
def resolveEscapes (text : List Char) : List Char := resolveFrom false text

/-- The backslash that stands before a text, if there is one. -/
def openEscape (escaping : Bool) : List Char := if escaping then ['\\'] else []

section Reading

variable {c : Char} {escaping : Bool} {rest : List Char}

theorem isPunctuation_backslash : isPunctuation '\\' = true := by decide

theorem escapesNext_of_ne (hne : c ≠ '\\') (escaping : Bool) : escapesNext escaping c = false := by
  rw [escapesNext, beq_eq_false_iff_ne.2 hne, Bool.and_false]

/-- A backslash that nothing escapes waits for the next character. -/
theorem resolveFrom_backslash (rest : List Char) :
    resolveFrom false ('\\' :: rest) = resolveFrom true rest := rfl

/-- A backslash after one is escaped. -/
theorem resolveFrom_escapedBackslash (rest : List Char) :
    resolveFrom true ('\\' :: rest) = '\\' :: resolveFrom false rest := rfl

/-- A character that is escaped. -/
theorem resolveFrom_escaped (hc : isPunctuation c = true) (rest : List Char) :
    resolveFrom true (c :: rest) = c :: resolveFrom false rest := by
  rw [resolveFrom, hc]
  rfl

/-- A character that is not escaped leaves a backslash before it as it is. -/
theorem resolveFrom_plain (hne : c ≠ '\\') (hc : (escaping && isPunctuation c) = false)
    (rest : List Char) :
    resolveFrom escaping (c :: rest) = openEscape escaping ++ c :: resolveFrom false rest := by
  rw [resolveFrom, hc, if_neg Bool.false_ne_true, if_neg hne, openEscape]
  cases escaping <;> rfl

end Reading

/-! ### Writing escapes -/

/-- A text with a backslash before some of its characters. -/
def escapeMarks (marks : Char → Bool) (text : List Char) : List Char :=
  text.flatMap fun c => if marks c then ['\\', c] else [c]

/-- Each backslash of a text comes before a character that it cannot escape, before a mark or at the
end. -/
def LosesNone (marks : Char → Bool) (text : List Char) : Prop :=
  ∀ before c after, text = before ++ '\\' :: c :: after → isPunctuation c = true → marks c = true

/-- The characters of a text but for the marks that come after no backslash. The first character may
come after one. -/
def exposed (marks : Char → Bool) : Bool → List Char → List Char
  | _, [] => []
  | afterBackslash, c :: rest =>
    if marks c && !afterBackslash then exposed marks (c == '\\') rest
    else c :: exposed marks (c == '\\') rest

section LosesNone

variable {marks : Char → Bool} {c : Char} {text : List Char}

theorem losesNone_of_not_mem (h : '\\' ∉ text) : LosesNone marks text := by
  rintro before c after rfl
  exact absurd (List.mem_append_right _ List.mem_cons_self) h

theorem losesNone_singleton (c : Char) : LosesNone marks [c] := by
  intro before d after heq
  have hlength := congrArg List.length heq
  simp only [List.length_append, List.length_cons, List.length_nil] at hlength
  omega

theorem losesNone_cons (hne : c ≠ '\\') : LosesNone marks (c :: text) ↔ LosesNone marks text := by
  constructor
  · rintro h before d after rfl
    exact h (c :: before) d after rfl
  · intro h before d after heq
    rcases List.cons_eq_append_iff.1 heq with ⟨-, hcons⟩ | ⟨tail, rfl, htail⟩
    · exact absurd (List.cons.inj hcons).1.symm hne
    · exact h tail d after htail

theorem losesNone_backslash_cons : LosesNone marks ('\\' :: c :: text) ↔
    (isPunctuation c = true → marks c = true) ∧ LosesNone marks (c :: text) := by
  constructor
  · intro h
    refine ⟨h [] c text rfl, fun before d after heq ↦ ?_⟩
    exact h ('\\' :: before) d after (congrArg _ heq)
  · rintro ⟨hfirst, hrest⟩ before d after heq
    rcases List.cons_eq_append_iff.1 heq with ⟨-, hcons⟩ | ⟨tail, rfl, htail⟩
    · obtain ⟨rfl, -⟩ := List.cons.inj (List.cons.inj hcons).2
      exact hfirst
    · exact hrest tail d after htail

/-- A backslash is lost before a punctuation character that is no mark. -/
theorem not_losesNone_backslash (hc : marks c = false) (hpunctuation : isPunctuation c = true) :
    ¬LosesNone marks ('\\' :: c :: text) := by
  intro h
  have hmark := (losesNone_backslash_cons.1 h).1 hpunctuation
  rw [hc] at hmark
  cases hmark

/-- A character that loses no backslash before it does not matter for those after it. -/
theorem losesNone_openEscape {escaping : Bool} (hne : c ≠ '\\')
    (hc : (escaping && isPunctuation c) = true → marks c = true) :
    LosesNone marks (openEscape escaping ++ c :: text) ↔ LosesNone marks text := by
  cases escaping with
  | false => exact losesNone_cons hne
  | true =>
    rw [openEscape, if_pos rfl, List.singleton_append, losesNone_backslash_cons, losesNone_cons hne]
    exact and_iff_right hc

end LosesNone

section EscapeMarks

variable {marks : Char → Bool} {c : Char} {text : List Char}

theorem escapeMarks_cons_mark (hc : marks c = true) (text : List Char) :
    escapeMarks marks (c :: text) = '\\' :: c :: escapeMarks marks text := by
  rw [escapeMarks, List.flatMap_cons, if_pos hc]
  rfl

theorem escapeMarks_cons_other (hc : marks c = false) (text : List Char) :
    escapeMarks marks (c :: text) = c :: escapeMarks marks text := by
  rw [escapeMarks, List.flatMap_cons, hc, if_neg Bool.false_ne_true]
  rfl

/-- The cases of reading what has been written, after a backslash that is open or not: the end, a
mark, a backslash, a character that is read as itself and one before which a backslash is lost. -/
theorem escapes_induction (marks : Char → Bool) {motive : Bool → List Char → Prop}
    (nil : ∀ escaping, motive escaping [])
    (mark : ∀ escaping c text, marks c = true → motive false text → motive escaping (c :: text))
    (backslash : ∀ text, marks '\\' = false → motive true text → motive false ('\\' :: text))
    (plain : ∀ escaping c text, marks c = false → c ≠ '\\' →
      (escaping && isPunctuation c) = false → motive false text → motive escaping (c :: text))
    (lost : ∀ c text, marks c = false → isPunctuation c = true → motive false text →
      motive true (c :: text))
    (escaping : Bool) (text : List Char) : motive escaping text := by
  induction text generalizing escaping with
  | nil => exact nil escaping
  | cons c text ih =>
    cases hc : marks c with
    | true => exact mark escaping c text hc (ih false)
    | false =>
      by_cases hescaped : (escaping && isPunctuation c) = true
      · obtain ⟨rfl, hpunctuation⟩ := (Bool.and_eq_true _ _).mp hescaped
        exact lost c text hc hpunctuation (ih false)
      · rw [Bool.not_eq_true] at hescaped
        by_cases hne : c = '\\'
        · subst hne
          rw [isPunctuation_backslash, Bool.and_true] at hescaped
          subst hescaped
          exact backslash text hc (ih true)
        · exact plain escaping c text hc hne hescaped (ih false)

variable (hmarks : ∀ c, marks c = true → isPunctuation c = true ∧ c ≠ '\\')
include hmarks

/-- A mark that is written is read as itself. -/
theorem resolveFrom_mark (hc : marks c = true) (escaping : Bool) (rest : List Char) :
    resolveFrom escaping ('\\' :: c :: rest) =
      openEscape escaping ++ c :: resolveFrom false rest := by
  obtain ⟨hpunctuation, hne⟩ := hmarks c hc
  cases escaping with
  | false => rw [resolveFrom_backslash, resolveFrom_escaped hpunctuation]; rfl
  | true => rw [resolveFrom_escapedBackslash, resolveFrom_plain hne (Bool.false_and _)]; rfl

/-- Resolving what has been written makes no text longer. -/
theorem length_resolveFrom_escapeMarks_le (escaping : Bool) (text : List Char) :
    (resolveFrom escaping (escapeMarks marks text)).length ≤
      (openEscape escaping ++ text).length := by
  induction escaping, text using escapes_induction marks with
  | nil escaping => rw [List.append_nil]; exact Nat.le_refl _
  | mark escaping c text hc ih =>
    rw [escapeMarks_cons_mark hc, resolveFrom_mark hmarks hc]
    simpa [openEscape] using ih
  | backslash text hc ih =>
    rw [escapeMarks_cons_other hc, resolveFrom_backslash]
    exact ih
  | plain escaping c text hc hne hplain ih =>
    rw [escapeMarks_cons_other hc, resolveFrom_plain hne hplain]
    simpa [openEscape] using ih
  | lost c text hc hpunctuation ih =>
    rw [escapeMarks_cons_other hc, resolveFrom_escaped hpunctuation]
    exact Nat.le_succ_of_le (Nat.succ_le_succ ih)

/-- A text that is written is read as itself exactly when it loses no backslash. -/
theorem resolveFrom_escapeMarks_iff (escaping : Bool) (text : List Char) :
    resolveFrom escaping (escapeMarks marks text) = openEscape escaping ++ text ↔
      LosesNone marks (openEscape escaping ++ text) := by
  induction escaping, text using escapes_induction marks with
  | nil escaping =>
    refine iff_of_true (List.append_nil _).symm ?_
    rw [List.append_nil]
    cases escaping with
    | false => exact losesNone_of_not_mem List.not_mem_nil
    | true => exact losesNone_singleton '\\'
  | mark escaping c text hc ih =>
    obtain ⟨-, hne⟩ := hmarks c hc
    rw [escapeMarks_cons_mark hc, resolveFrom_mark hmarks hc, List.append_cancel_left_eq,
      List.cons_inj_right, losesNone_openEscape hne fun _ ↦ hc]
    exact ih
  | backslash text hc ih =>
    rw [escapeMarks_cons_other hc, resolveFrom_backslash]
    exact ih
  | plain escaping c text hc hne hplain ih =>
    rw [escapeMarks_cons_other hc, resolveFrom_plain hne hplain, List.append_cancel_left_eq,
      List.cons_inj_right, losesNone_openEscape hne fun h ↦ absurd (hplain.symm.trans h) (by simp)]
    exact ih
  | lost c text hc hpunctuation ih =>
    have hlength := length_resolveFrom_escapeMarks_le hmarks false text
    refine iff_of_false (fun h ↦ ?_) fun h ↦ ?_
    · rw [escapeMarks_cons_other hc, resolveFrom_escaped hpunctuation] at h
      have := congrArg List.length h
      simp [openEscape] at this hlength
      omega
    · exact not_losesNone_backslash hc hpunctuation h

omit hmarks in
theorem getLast?_append_cons_iff (hne : c ≠ '\\') (before : List Char) :
    (before ++ c :: text).getLast? = some '\\' ↔ text.getLast? = some '\\' := by
  cases text with
  | nil => simp [hne]
  | cons d text => simp [List.getLast?_append, List.getLast?_cons_cons]

/-- What is written ends in an open escape when the text ends in a backslash. Assumes: the text
loses no backslash. -/
theorem endsEscaping_escapeMarks_iff (escaping : Bool) (text : List Char)
    (h : LosesNone marks (openEscape escaping ++ text)) :
    endsEscaping escaping (escapeMarks marks text) = true ↔
      (openEscape escaping ++ text).getLast? = some '\\' := by
  induction escaping, text using escapes_induction marks with
  | nil escaping => cases escaping <;> simp [endsEscaping, escapeMarks, openEscape]
  | mark escaping c text hc ih =>
    obtain ⟨-, hne⟩ := hmarks c hc
    have hstate : endsEscaping escaping ('\\' :: c :: escapeMarks marks text) =
        endsEscaping false (escapeMarks marks text) :=
      congrArg (endsEscaping · (escapeMarks marks text)) (escapesNext_of_ne hne _)
    rw [escapeMarks_cons_mark hc, hstate, getLast?_append_cons_iff hne]
    exact ih ((losesNone_openEscape hne fun _ ↦ hc).1 h)
  | backslash text hc ih =>
    rw [escapeMarks_cons_other hc]
    exact ih h
  | plain escaping c text hc hne hplain ih =>
    have hstate : endsEscaping escaping (c :: escapeMarks marks text) =
        endsEscaping false (escapeMarks marks text) :=
      congrArg (endsEscaping · (escapeMarks marks text)) (escapesNext_of_ne hne _)
    rw [escapeMarks_cons_other hc, hstate, getLast?_append_cons_iff hne]
    exact ih ((losesNone_openEscape hne fun hopen ↦ absurd (hplain.symm.trans hopen) (by simp)).1 h)
  | lost c text hc hpunctuation ih => exact absurd h (not_losesNone_backslash hc hpunctuation)

/-- What is written leaves unescaped what the text exposes. Assumes: the text loses no backslash. -/
theorem unescaped_escapeMarks (escaping : Bool) (text : List Char)
    (h : LosesNone marks (openEscape escaping ++ text)) :
    (unescaped escaping (escapeMarks marks text)).filter (· != '\\') =
      (exposed marks escaping text).filter (· != '\\') := by
  induction escaping, text using escapes_induction marks with
  | nil escaping => rfl
  | mark escaping c text hc ih =>
    obtain ⟨hpunctuation, hne⟩ := hmarks c hc
    have hstate : (c == '\\') = false := beq_eq_false_iff_ne.2 hne
    have hrest := ih ((losesNone_openEscape hne fun _ ↦ hc).1 h)
    rw [escapeMarks_cons_mark hc]
    cases escaping with
    | false =>
      -- The backslash that is written escapes the mark.
      simpa [unescaped, exposed, escapesNext, hc, hpunctuation, hstate] using hrest
    | true =>
      -- The backslash that is written is escaped itself, and the mark is not.
      simpa [unescaped, exposed, escapesNext, hc, hstate, isPunctuation_backslash, List.filter_cons,
        hne] using hrest
  | backslash text hc ih =>
    rw [escapeMarks_cons_other hc]
    simpa [unescaped, exposed, escapesNext, hc] using ih h
  | plain escaping c text hc hne hplain ih =>
    have hstate : (c == '\\') = false := beq_eq_false_iff_ne.2 hne
    have hrest :=
      ih ((losesNone_openEscape hne fun hopen ↦ absurd (hplain.symm.trans hopen) (by simp)).1 h)
    rw [escapeMarks_cons_other hc]
    simpa [unescaped, exposed, escapesNext, hc, hplain, hstate, List.filter_cons, hne] using hrest
  | lost c text hc hpunctuation ih => exact absurd h (not_losesNone_backslash hc hpunctuation)

end EscapeMarks

end Runbook.Markdown
