import Runbook.Proofs.Patch.Application
/-!
# Indices stay in bounds

A file is patched by going once through its lines. `applyByIndex?` does so by index: it takes one
from the start of a hunk, cuts lines out between two indices and moves an index on, and each of
these steps is undefined where the numbers do not allow it (`minus?`, `slice?`, `next?`). It assumes
nothing about the numbers in the headers of a patch. `applyByIndex?_eq` shows that it is defined for
every patch whose old lines start at some line, and that it then does what `Patch.apply` does. Hunks
that overlap, are out of order or start beyond the file are refused before anything is cut out.

The invariant is that the index is at most the number of lines, and that what is left of the file is
what follows it. `Agree` carries it through the lines of a hunk (`agree_goThroughLines`), and
`goThroughHunks_eq` through the hunks.

A patch that has been read has such hunks, each with the lines that its header declares
(`isComplete_of_parse`). Their numbers fit a machine word (`fits_of_parse`), which one line of the
text keeps (`Reading.fits_of_lineStep`).
-/

set_option autoImplicit false

namespace Runbook

/-! ### Numbers of headers -/

/-- The numbers of a hunk fit a machine word. -/
structure Hunk.Fits (hunk : Hunk) : Prop where
  oldStart_le : hunk.oldStart ≤ Patch.maxNumber
  oldLength_le : hunk.oldLength ≤ Patch.maxNumber
  newStart_le : hunk.newStart ≤ Patch.maxNumber
  newLength_le : hunk.newLength ≤ Patch.maxNumber

namespace Patch

theorem le_maxNumber_of_number? {digits : List Char} {n : Nat} (h : number? digits = some n) :
    n ≤ maxNumber := by
  unfold number? at h
  split at h
  · simp only at h
    split at h
    · next hle => exact Option.some.inj h ▸ hle
    · cases h
  · cases h

theorem Header.fits_of_hunk? {header : Header} {hunk : Hunk} (h : header.hunk? = some hunk) :
    hunk.Fits := by
  simp only [Header.hunk?, Option.bind_eq_bind, Option.bind_eq_some_iff, Option.pure_def,
    Option.some.injEq] at h
  obtain ⟨oldStart, holdStart, oldLength, holdLength, newStart, hnewStart, newLength, hnewLength,
    rfl⟩ := h
  exact ⟨le_maxNumber_of_number? holdStart, le_maxNumber_of_number? holdLength,
    le_maxNumber_of_number? hnewStart, le_maxNumber_of_number? hnewLength⟩

namespace Reading

variable {reading next : Reading} {line : List Char}

/-- One line keeps the hunks within a machine word. -/
theorem fits_of_lineStep (hfits : ∀ hunk ∈ reading.hunks, hunk.Fits)
    (hstep : reading.LineStep line next) : ∀ hunk ∈ next.hunks, hunk.Fits := by
  cases hstep with
  | opened _ hheader _ _ =>
    intro hunk hhunk
    rcases List.mem_append.1 hhunk with hearlier | hlast
    · exact hfits hunk hearlier
    · exact List.mem_singleton.1 hlast ▸ Header.fits_of_hunk? hheader
  | marked _ =>
    rw [hunks, earlier_noteUnterminated, last_noteUnterminated]
    exact hfits
  | outside _ _ => exact hfits
  | extended hlast _ _ _ =>
    intro hunk hhunk
    rcases List.mem_append.1 hhunk with hearlier | hextended
    · exact hfits hunk (List.mem_append_left _ hearlier)
    · obtain rfl := List.mem_singleton.1 hextended
      have hgrowing := hfits _ (List.mem_append_right _ (Option.mem_toList.2 hlast))
      exact ⟨hgrowing.1, hgrowing.2, hgrowing.3, hgrowing.4⟩

end Reading

/-- The numbers of a patch that has been read fit a machine word, and there is a hunk. -/
theorem fits_of_parse {text : String} {patch : Patch} (h : parse text = .ok patch) :
    patch.hunks ≠ [] ∧ ∀ hunk ∈ patch.hunks, hunk.Fits := by
  obtain ⟨reading, hread, -, hne, rfl⟩ := exists_of_parse h
  have hempty : ∀ hunk ∈ Reading.empty.hunks, hunk.Fits := fun _ hnone ↦ nomatch hnone
  exact ⟨hne, Reading.readLines_induction Reading.fits_of_lineStep hempty hread⟩

/-! ### Operations that can be undefined -/

section Indices

variable {α : Type}

/-- The difference of two numbers, undefined below zero. -/
def minus? (first second : Nat) : Option Nat :=
  if second ≤ first then some (first - second) else none

/-- The items between two indices, undefined when these are out of order or beyond the end. -/
def slice? (items : List α) (start stop : Nat) : Option (List α) :=
  if start ≤ stop ∧ stop ≤ items.length then some ((items.take stop).drop start) else none

/-- The index after that of an item, undefined when there is no item. -/
def next? (items : List α) (index : Nat) : Option Nat :=
  if index < items.length then some (index + 1) else none

theorem minus?_eq {first second : Nat} (h : second ≤ first) :
    minus? first second = some (first - second) :=
  if_pos h

/-- The items between two indices are the first ones of those that follow the first index. -/
theorem slice?_eq {items : List α} {start stop : Nat} (h : start ≤ stop)
    (hstop : stop ≤ items.length) :
    slice? items start stop = some ((items.drop start).take (stop - start)) := by
  rw [slice?, if_pos ⟨h, hstop⟩, List.drop_take]

theorem slice?_length {items : List α} {start : Nat} (h : start ≤ items.length) :
    slice? items start items.length = some (items.drop start) := by
  rw [slice?_eq h (Nat.le_refl _), ← List.length_drop, List.take_length]

end Indices

/-! ### Going through a file by index -/

/-- What comes of steps that can be undefined and that can find a mismatch. -/
abbrev Checked (α : Type) := ExceptT Mismatch Option α

/-- The lines of a hunk looked up from an index on, after some lines of the new file: the lines of
the new file, and the index after the lines that were found. -/
def goThroughLines (number : Nat) (lines : List String) :
    List HunkLine → List String → Nat → Checked (List String × Nat)
  | [], out, index => return (out, index)
  | .added text :: entries, out, index =>
    goThroughLines number lines entries (out ++ [text]) index
  | .context text :: entries, out, index =>
    if lines[index]? = some text then do
      let index ← liftM (next? lines index)
      goThroughLines number lines entries (out ++ [text]) index
    else throw (.line number (index + 1) text lines[index]?)
  | .removed text :: entries, out, index =>
    if lines[index]? = some text then do
      let index ← liftM (next? lines index)
      goThroughLines number lines entries out index
    else throw (.line number (index + 1) text lines[index]?)

/-- The index at which a hunk starts. -/
def startIndex? (hunk : Hunk) : Option Nat :=
  if hunk.oldLength = 0 then some hunk.oldStart else minus? hunk.oldStart 1

/-- The lines of the new file, given its first ones and the index of the first line that no hunk has
passed. -/
def goThroughHunks (lines : List String) :
    List Hunk → Nat → Nat → List String → Checked (List String)
  | [], _, index, out => do
    let rest ← liftM (slice? lines index lines.length)
    return out ++ rest
  | hunk :: hunks, number, index, out => do
    let start ← liftM (startIndex? hunk)
    if start < index ∨ lines.length < start then
      throw (.place number hunk.oldStart lines.length index)
    else do
      let skipped ← liftM (slice? lines index start)
      let (out, index) ← goThroughLines number lines hunk.lines (out ++ skipped) start
      goThroughHunks lines hunks (number + 1) index out

/-- The file after the patch, by going through its lines by index. -/
def applyByIndex? (patch : Patch) (content : String) : Option (Except Mismatch String) :=
  ExceptT.run do
    let out ← goThroughHunks (fileLines content) patch.hunks 1 0 []
    return fileOfLines out
      (!patch.newUnterminated && (patch.oldUnterminated || isTerminated content))

-- A hunk that has old lines but starts before the first line cannot be looked up.
example : applyByIndex? ⟨none, [⟨0, 1, 0, 0, [.removed "a"]⟩], false, false⟩ "a" = none := by decide

/-! ### Nothing is undefined -/

section Runs

variable {index : Nat} {lines out : List String} {hunk : Hunk}

/-- Two ways through the lines of a hunk agree: both find the same mismatch, or they come to the
same lines and to the same index, which is in the file or at its end. -/
inductive Agree (lines out : List String) :
    Except Mismatch (List String × List String × Nat) → Checked (List String × Nat) → Prop where
  | mismatch (mismatch : Mismatch) : Agree lines out (.error mismatch) (throw mismatch)
  | passed (new : List String) {index : Nat} (hindex : index ≤ lines.length) :
    Agree lines out (.ok (new, lines.drop index, index)) (pure (out ++ new, index))

/-- Ways that agree after one more line of the new file agree when it is put before the others. -/
theorem Agree.cons {text : String} {found : Except Mismatch (List String × List String × Nat)}
    {checked : Checked (List String × Nat)} (h : Agree lines (out ++ [text]) found checked) :
    Agree lines out (found >>= fun (new, rest, index) ↦ .ok (text :: new, rest, index))
      checked := by
  cases h with
  | mismatch mismatch => exact .mismatch mismatch
  | passed new hindex =>
    rw [List.append_assoc]
    exact .passed (text :: new) hindex

/-- What follows the index of a line is that line and what follows the next index. -/
theorem drop_of_getElem? {text : String} (h : lines[index]? = some text) :
    index < lines.length ∧ lines.drop index = text :: lines.drop (index + 1) := by
  obtain ⟨hinside, hline⟩ := List.getElem?_eq_some_iff.1 h
  exact ⟨hinside, hline ▸ List.drop_eq_getElem_cons hinside⟩

/-- The lines of a hunk are looked up without going beyond the file. -/
theorem agree_goThroughLines (number : Nat) (entries : List HunkLine)
    (hindex : index ≤ lines.length) :
    Agree lines out (applyLines number entries index (lines.drop index))
      (goThroughLines number lines entries out index) := by
  induction entries generalizing index out with
  | nil =>
    have hpassed : Agree lines out _ (pure (out ++ [], index)) := .passed [] hindex
    rwa [List.append_nil] at hpassed
  | cons entry entries ih =>
    have hdiffers (hold : entry.inOld = true) (hfound : lines[index]? ≠ some entry.text) :
        applyLines number (entry :: entries) index (lines.drop index) =
          .error (.line number (index + 1) entry.text lines[index]?) := by
      rw [← List.head?_drop] at hfound ⊢
      exact applyLines_of_head?_ne hold hfound number index
    cases entry with
    | added text => exact (ih hindex).cons
    | context text =>
      rw [goThroughLines]
      split
      · next hfound =>
        obtain ⟨hinside, hdrop⟩ := drop_of_getElem? hfound
        rw [next?, if_pos hinside, hdrop, applyLines, if_pos rfl]
        exact (ih hinside).cons
      · next hfound => exact hdiffers rfl hfound ▸ .mismatch _
    | removed text =>
      rw [goThroughLines]
      split
      · next hfound =>
        obtain ⟨hinside, hdrop⟩ := drop_of_getElem? hfound
        rw [next?, if_pos hinside, hdrop, applyLines, if_pos rfl]
        exact ih hinside
      · next hfound => exact hdiffers rfl hfound ▸ .mismatch _

/-- A hunk whose old lines start at some line starts at an index. -/
theorem startIndex?_eq (h : 0 < hunk.oldLength → 0 < hunk.oldStart) :
    startIndex? hunk = some hunk.before := by
  rw [startIndex?, Hunk.before]
  split
  · rfl
  · next hlength => exact minus?_eq (h (Nat.pos_of_ne_zero hlength))

/-- Hunks whose old lines start at some line are applied without leaving the file. -/
theorem goThroughHunks_eq {hunks : List Hunk} (number : Nat) (out : List String)
    (hstarts : ∀ hunk ∈ hunks, 0 < hunk.oldLength → 0 < hunk.oldStart)
    (hindex : index ≤ lines.length) :
    goThroughHunks lines hunks number index out =
      ExceptT.mk (some ((applyHunks lines.length hunks number index (lines.drop index)).map
        (out ++ ·))) := by
  induction hunks generalizing number index out with
  | nil =>
    rw [goThroughHunks, slice?_length hindex]
    rfl
  | cons hunk hunks ih =>
    obtain ⟨hstart, hstarts⟩ := List.forall_mem_cons.1 hstarts
    rw [goThroughHunks, startIndex?_eq hstart]
    change (if hunk.before < index ∨ lines.length < hunk.before then _ else _) = _
    split
    · next hplace =>
      rw [applyHunks, if_pos (by simpa only [Bool.or_eq_true, decide_eq_true_eq] using hplace)]
      rfl
    · next hplace =>
      obtain ⟨hbefore, hlength⟩ : index ≤ hunk.before ∧ hunk.before ≤ lines.length := by omega
      rw [slice?_eq hbefore hlength, applyHunks_of_placed hbefore hlength]
      generalize (lines.drop index).take (hunk.before - index) = skipped
      have hagree : Agree lines (out ++ skipped) _ _ :=
        agree_goThroughLines number hunk.lines hlength
      change goThroughLines number lines hunk.lines (out ++ skipped) hunk.before >>= _ = _
      generalize goThroughLines number lines hunk.lines (out ++ skipped) hunk.before = checked
        at hagree ⊢
      generalize applyLines number hunk.lines hunk.before (lines.drop hunk.before) = found
        at hagree ⊢
      cases hagree with
      | mismatch mismatch => rfl
      | @passed new next hnext =>
        refine (ih (number + 1) (out ++ skipped ++ new) hstarts hnext).trans ?_
        change _ = ExceptT.mk (some (Except.map (out ++ ·)
          (applyHunks lines.length hunks (number + 1) next (lines.drop next) >>= _)))
        cases applyHunks lines.length hunks (number + 1) next (lines.drop next) with
        | error mismatch => rfl
        | ok tail =>
          change _ = ExceptT.mk (some (Except.ok (out ++ (skipped ++ new ++ tail))))
          rw [← List.append_assoc, ← List.append_assoc]
          rfl

end Runs

/-- A patch is applied without leaving the file when its old lines start at some line. -/
theorem applyByIndex?_eq {patch : Patch}
    (h : ∀ hunk ∈ patch.hunks, 0 < hunk.oldLength → 0 < hunk.oldStart) (content : String) :
    patch.applyByIndex? content = some (patch.apply content) := by
  unfold applyByIndex?
  rw [goThroughHunks_eq 1 [] h (Nat.zero_le _), List.drop_zero, apply]
  cases applyHunks (fileLines content).length patch.hunks 1 0 (fileLines content) <;> rfl

/-- A patch that has been read is well formed: it has a hunk, and each hunk has exactly the lines
that its header declares, numbers that fit a machine word, and old lines only where it starts at
some line. So it can be applied to every file by index, whatever its numbers are: no start is taken
below zero, and no lines are cut out backwards or beyond the end. What comes of it is what applying
it gives. -/
theorem parse_staysInside {text : String} {patch : Patch} (h : parse text = .ok patch) :
    patch.hunks ≠ [] ∧ (∀ hunk ∈ patch.hunks, hunk.IsComplete ∧ hunk.Fits) ∧
      ∀ content, patch.applyByIndex? content = some (patch.apply content) := by
  obtain ⟨hne, hfits⟩ := fits_of_parse h
  have hcomplete := isComplete_of_parse h
  refine ⟨hne, fun hunk hhunk ↦ ⟨hcomplete hunk hhunk, hfits hunk hhunk⟩, fun content ↦ ?_⟩
  exact applyByIndex?_eq (fun hunk hhunk ↦ (hcomplete hunk hhunk).oldStart_pos) content

/-- A patch whose second hunk overlaps the first one and whose third hunk names the greatest number
of a machine. -/
theorem parse_staysInside_overlapping :
    let text := "@@ -1,2 +1 @@\n-a\n b\n@@ -2 +2 @@\n-b\n+c\n@@ -18446744073709551615,0 +9 @@\n+d\n"
    ∃ patch, parse text = .ok patch ∧ patch.hunks.length = 3 ∧
      patch.applyByIndex? "a\nb\n" = some (.error (.place 2 2 2 2)) := by
  intro text
  have hparse : parse text = .ok ⟨none, [⟨1, 2, 1, 1, [.removed "a", .context "b"]⟩,
      ⟨2, 1, 2, 1, [.removed "b", .added "c"]⟩, ⟨maxNumber, 0, 9, 1, [.added "d"]⟩], false,
      false⟩ := by decide +kernel
  exact ⟨_, hparse, rfl, ((parse_staysInside hparse).2.2 _).trans (by decide)⟩

end Patch

end Runbook
