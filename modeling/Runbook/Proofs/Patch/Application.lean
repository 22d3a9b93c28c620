import Mathlib.Data.List.Infix
import Runbook.Proofs.Patch.Complete
/-!
# What applying a patch means

A hunk fits a file when the range of lines that it names begins after the ranges of the hunks before
it and not after the end of the file, and the lines of its old side stand there
(`Hunk.FitsAfter`). A patch applies exactly when all of its hunks fit (`Fit`), and then each of
these ranges is replaced by the new side of its hunk (`replaced`). Otherwise the mismatch is about
the first hunk that does not fit (`Blames`). `apply_iff_of_parse` says so of every patch that has
been read.

The program goes through the lines of the file once and copies them. `applyLines_of_standing` and
`applyLines_of_differing` say what it does with one hunk; `applyHunks_of_fit` and
`applyHunks_of_blames` follow it along the hunks, with the lines that come after those that have
been passed.

A patch that makes a file has hunks without old lines, all of which stand before the first line. Its
hunks then have only lines that are added, and each of them fits the empty file. `replaced` puts
the last hunk in first, so the lines of each hunk end up before those of the hunks after it. The
patch therefore applies to the empty file and gives exactly its added lines
(`apply_empty_of_createsFile`).
-/

set_option autoImplicit false

namespace Runbook

/-! ### Hunks that fit -/

namespace HunkLine

/-- The texts that lines have in the old file. -/
def oldTexts (lines : List HunkLine) : List String := (lines.filter inOld).map text

/-- The texts that lines have in the new file. -/
def newTexts (lines : List HunkLine) : List String := (lines.filter inNew).map text

/-- The text of a line that is added. -/
def addedText? : HunkLine → Option String
  | added text => some text
  | _ => none

/-- The new side of lines without an old side is what they add. -/
theorem newTexts_of_oldTexts_eq_nil {entries : List HunkLine} (h : oldTexts entries = []) :
    newTexts entries = entries.filterMap addedText? := by
  induction entries with
  | nil => rfl
  | cons entry entries ih =>
    cases entry with
    | added text => exact congrArg (text :: ·) (ih h)
    | context text => cases h
    | removed text => cases h

end HunkLine

namespace Hunk

/-- The number of lines of the old file up to the end of the range of a hunk. -/
def past (hunk : Hunk) : Nat := hunk.before + hunk.oldLength

/-- A hunk fits a file of which some lines belong to the hunks before it. -/
structure FitsAfter (hunk : Hunk) (patched : Nat) (lines : List String) : Prop where
  patched_le : patched ≤ hunk.before
  before_le : hunk.before ≤ lines.length
  /-- The context and what is removed stand where the range begins. -/
  standing : HunkLine.oldTexts hunk.lines <+: lines.drop hunk.before

/-- Lines with the range of a hunk replaced by its context and what it adds. -/
def replaceIn (hunk : Hunk) (lines : List String) : List String :=
  lines.take hunk.before ++ HunkLine.newTexts hunk.lines ++ lines.drop hunk.past

/-- A complete hunk has as many texts in the old file as its range has lines. -/
theorem IsComplete.length_oldTexts {hunk : Hunk} (h : hunk.IsComplete) :
    (HunkLine.oldTexts hunk.lines).length = hunk.oldLength := by
  rw [HunkLine.oldTexts, List.length_map, ← List.countP_eq_length_filter]
  exact h.oldCount_eq

/-- The range of a hunk that fits is in the file. Assumes: the hunk is complete. -/
theorem FitsAfter.past_le {hunk : Hunk} {patched : Nat} {lines : List String}
    (h : hunk.FitsAfter patched lines) (hcomplete : hunk.IsComplete) :
    hunk.past ≤ lines.length := by
  have hlength := h.standing.length_le
  have hbefore := h.before_le
  rw [hcomplete.length_oldTexts, List.length_drop] at hlength
  unfold past
  omega

/-- A hunk without old lines that stands before the first line. -/
structure StartsFile (hunk : Hunk) : Prop where
  oldStart_eq : hunk.oldStart = 0
  oldLength_eq : hunk.oldLength = 0

variable {hunk : Hunk}

theorem StartsFile.before_eq (h : hunk.StartsFile) : hunk.before = 0 := by
  rw [before, if_pos h.oldLength_eq, h.oldStart_eq]

theorem StartsFile.past_eq (h : hunk.StartsFile) : hunk.past = 0 := by
  rw [past, h.before_eq, h.oldLength_eq]

/-- Such a hunk has no lines of an old file. Assumes: it is complete. -/
theorem StartsFile.oldTexts_eq_nil (h : hunk.StartsFile) (hcomplete : hunk.IsComplete) :
    HunkLine.oldTexts hunk.lines = [] :=
  List.eq_nil_of_length_eq_zero (hcomplete.length_oldTexts.trans h.oldLength_eq)

/-- Such a hunk puts what it adds before all lines. Assumes: it is complete. -/
theorem StartsFile.replaceIn_eq (h : hunk.StartsFile) (hcomplete : hunk.IsComplete)
    (lines : List String) :
    hunk.replaceIn lines = hunk.lines.filterMap HunkLine.addedText? ++ lines := by
  rw [replaceIn, h.before_eq, h.past_eq,
    HunkLine.newTexts_of_oldTexts_eq_nil (h.oldTexts_eq_nil hcomplete)]
  rfl

end Hunk

namespace Patch

/-- The end of the range of the last of some hunks, if there is one. -/
def pastOf (patched : Nat) (hunks : List Hunk) : Nat := (hunks.getLast?.map Hunk.past).getD patched

/-- Each hunk fits after the one before it. The first one comes after some number of lines. -/
def FitFrom (patched : Nat) (hunks : List Hunk) (lines : List String) : Prop :=
  ∀ earlier hunk later, hunks = earlier ++ hunk :: later →
    hunk.FitsAfter (pastOf patched earlier) lines

/-- Each hunk fits after the one before it. -/
abbrev Fit (hunks : List Hunk) (lines : List String) : Prop := FitFrom 0 hunks lines

/-- Lines with the range of each hunk replaced. The last hunk comes first, so the ranges of the
others stay where they are. -/
def replaced (hunks : List Hunk) (lines : List String) : List String :=
  hunks.foldr Hunk.replaceIn lines

/-- A mismatch says why a hunk of some number does not fit. -/
inductive Blames (lines : List String) (patched number : Nat) (hunk : Hunk) : Mismatch → Prop where
  /-- The range begins at a place where it cannot. -/
  | place (h : ¬(patched ≤ hunk.before ∧ hunk.before ≤ lines.length)) :
    Blames lines patched number hunk (.place number hunk.oldStart lines.length patched)
  /-- The range begins where it can, and its lines are as expected up to one that is not. -/
  | line {same more : List String} {expected : String} (hpatched : patched ≤ hunk.before)
    (hbefore : hunk.before ≤ lines.length)
    (htexts : HunkLine.oldTexts hunk.lines = same ++ expected :: more)
    (hsame : same <+: lines.drop hunk.before)
    (hfound : lines[hunk.before + same.length]? ≠ some expected) :
    Blames lines patched number hunk (.line number (hunk.before + same.length + 1) expected
      lines[hunk.before + same.length]?)

variable {patched number : Nat} {hunk : Hunk} {hunks earlier later : List Hunk}
  {lines : List String} {mismatch : Mismatch}

theorem pastOf_cons (patched : Nat) (hunk : Hunk) (hunks : List Hunk) :
    pastOf patched (hunk :: hunks) = pastOf hunk.past hunks := by
  rw [pastOf, pastOf, List.getLast?_cons, Option.map_some, Option.getD_some]
  cases hunks.getLast? <;> rfl

theorem fitFrom_nil : FitFrom patched [] lines :=
  fun _ _ _ h ↦ nomatch List.append_eq_nil_iff.1 h.symm

theorem fitFrom_cons : FitFrom patched (hunk :: hunks) lines ↔
    hunk.FitsAfter patched lines ∧ FitFrom hunk.past hunks lines := by
  constructor
  · intro h
    refine ⟨h [] hunk hunks rfl, fun earlier other later hsplit ↦ ?_⟩
    have hfits := h (hunk :: earlier) other later (congrArg (hunk :: ·) hsplit)
    rwa [pastOf_cons] at hfits
  · rintro ⟨hfirst, hrest⟩ earlier other later hsplit
    cases earlier with
    | nil =>
      cases hsplit
      exact hfirst
    | cons first earlier =>
      cases hsplit
      rw [pastOf_cons]
      exact hrest earlier other later rfl

/-! ### One hunk -/

section Lines

variable {number position : Nat} {entries : List HunkLine} {rest same more : List String}
  {expected : String} {mismatch : Mismatch}

/-- Lines whose old side stands in the file give their new side and go past the old one. -/
theorem applyLines_of_standing (number position : Nat) (entries : List HunkLine)
    (rest : List String) :
    applyLines number entries position (HunkLine.oldTexts entries ++ rest) =
      .ok (HunkLine.newTexts entries, rest, position + (HunkLine.oldTexts entries).length) := by
  induction entries generalizing position with
  | nil => rfl
  | cons entry entries ih =>
    cases entry with
    | context text =>
      change applyLines number (.context text :: entries) position
        (text :: (HunkLine.oldTexts entries ++ rest)) = _
      rw [applyLines, if_pos rfl, ih, Nat.add_right_comm]
      rfl
    | removed text =>
      change applyLines number (.removed text :: entries) position
        (text :: (HunkLine.oldTexts entries ++ rest)) = _
      rw [applyLines, if_pos rfl, ih, Nat.add_right_comm]
      rfl
    | added text =>
      change applyLines number (.added text :: entries) position
        (HunkLine.oldTexts entries ++ rest) = _
      rw [applyLines, ih]
      rfl

/-- A line of the old file fails where another one or none is found. -/
theorem applyLines_of_head?_ne {entry : HunkLine} (hold : entry.inOld = true)
    (hfound : rest.head? ≠ some entry.text) (number position : Nat) :
    applyLines number (entry :: entries) position rest =
      .error (.line number (position + 1) entry.text rest.head?) := by
  cases entry with
  | context text =>
    cases rest with
    | nil => rfl
    | cons found rest => exact if_neg fun h ↦ hfound (congrArg some h)
  | removed text =>
    cases rest with
    | nil => rfl
    | cons found rest => exact if_neg fun h ↦ hfound (congrArg some h)
  | added text => cases hold

/-- What fails on the lines that follow fails on a line before them that is found. -/
theorem applyLines_of_rest {entry : HunkLine} (hold : entry.inOld = true)
    (hrest : applyLines number entries (position + 1) rest = .error mismatch) :
    applyLines number (entry :: entries) position (entry.text :: rest) = .error mismatch := by
  cases entry with
  | context text =>
    change applyLines number (.context text :: entries) position (text :: rest) = _
    rw [applyLines, if_pos rfl, hrest]
    rfl
  | removed text =>
    change applyLines number (.removed text :: entries) position (text :: rest) = _
    rw [applyLines, if_pos rfl, hrest]
  | added text => cases hold

/-- Lines whose old side stands in the file up to some line fail at that line. -/
theorem applyLines_of_differing (number position : Nat)
    (htexts : HunkLine.oldTexts entries = same ++ expected :: more)
    (hfound : rest.head? ≠ some expected) :
    applyLines number entries position (same ++ rest) =
      .error (.line number (position + same.length + 1) expected rest.head?) := by
  induction entries generalizing position same with
  | nil => exact nomatch List.append_eq_nil_iff.1 htexts.symm
  | cons entry entries ih =>
    cases hold : entry.inOld with
    | true =>
      have hcons : HunkLine.oldTexts (entry :: entries) =
          entry.text :: HunkLine.oldTexts entries := by
        rw [HunkLine.oldTexts, List.filter_cons_of_pos hold]
        rfl
      rw [hcons] at htexts
      cases same with
      | nil =>
        obtain ⟨rfl, -⟩ := List.cons.inj htexts
        exact applyLines_of_head?_ne hold hfound number position
      | cons first same =>
        obtain ⟨rfl, hmore⟩ := List.cons.inj htexts
        refine applyLines_of_rest hold ((ih (position + 1) hmore).trans ?_)
        rw [List.length_cons, Nat.add_right_comm position 1]
        rfl
    | false =>
      cases entry with
      | context text => cases hold
      | removed text => cases hold
      | added text =>
        rw [applyLines, ih position htexts]
        rfl

end Lines

/-! ### All hunks -/

section Hunks

variable {patched number : Nat} {hunk : Hunk} {hunks earlier later : List Hunk}
  {lines : List String} {mismatch : Mismatch}

/-- A hunk that begins at a place where it can is looked for there. -/
theorem applyHunks_of_placed (hpatched : patched ≤ hunk.before)
    (hbefore : hunk.before ≤ lines.length) (number : Nat) (hunks : List Hunk) :
    applyHunks lines.length (hunk :: hunks) number patched (lines.drop patched) = do
      let (out, after, next) ←
        applyLines number hunk.lines hunk.before (lines.drop hunk.before)
      let tail ← applyHunks lines.length hunks (number + 1) next after
      return (lines.drop patched).take (hunk.before - patched) ++ out ++ tail := by
  have hplace :
      (decide (hunk.before < patched) || decide (lines.length < hunk.before)) = false := by
    rw [decide_eq_false (Nat.not_lt.2 hpatched), decide_eq_false (Nat.not_lt.2 hbefore)]
    rfl
  rw [applyHunks, hplace, if_neg Bool.false_ne_true]
  simp only [List.drop_drop, Nat.add_sub_cancel' hpatched]

/-- A hunk that fits is applied and the others after it. Assumes: the hunk is complete. -/
theorem applyHunks_cons (hfits : hunk.FitsAfter patched lines) (hcomplete : hunk.IsComplete)
    (number : Nat) (hunks : List Hunk) :
    applyHunks lines.length (hunk :: hunks) number patched (lines.drop patched) = do
      let tail ← applyHunks lines.length hunks (number + 1) hunk.past (lines.drop hunk.past)
      return (lines.drop patched).take (hunk.before - patched) ++
        HunkLine.newTexts hunk.lines ++ tail := by
  have hcount := hcomplete.length_oldTexts
  have hdrop : lines.drop hunk.before = HunkLine.oldTexts hunk.lines ++ lines.drop hunk.past := by
    obtain ⟨rest, hrest⟩ := hfits.standing
    rw [Hunk.past, ← List.drop_drop, ← hrest, ← hcount, List.drop_left]
  rw [applyHunks_of_placed hfits.patched_le hfits.before_le, hdrop, applyLines_of_standing, hcount]
  rfl

/-- The hunks apply when they fit, and give the lines with their ranges replaced. Assumes: they are
complete. -/
theorem applyHunks_of_fit (hfit : FitFrom patched hunks lines)
    (hcomplete : ∀ hunk ∈ hunks, hunk.IsComplete) (number : Nat) :
    ∃ out, applyHunks lines.length hunks number patched (lines.drop patched) = .ok out ∧
      replaced hunks lines = lines.take patched ++ out := by
  induction hunks generalizing patched number with
  | nil => exact ⟨_, rfl, (List.take_append_drop patched lines).symm⟩
  | cons hunk hunks ih =>
    obtain ⟨hfits, hrest⟩ := fitFrom_cons.1 hfit
    obtain ⟨hhunk, hhunks⟩ := List.forall_mem_cons.1 hcomplete
    obtain ⟨tail, happly, htail⟩ := ih hrest hhunks (number + 1)
    refine ⟨_, (applyHunks_cons hfits hhunk number hunks).trans (by rw [happly]; rfl), ?_⟩
    have hpast := hfits.past_le hhunk
    have hbefore : hunk.before ≤ hunk.past := Nat.le_add_right _ _
    have htake : (lines.take hunk.past).length = hunk.past := List.length_take_of_le hpast
    have hskipped : lines.take hunk.before =
        lines.take patched ++ (lines.drop patched).take (hunk.before - patched) := by
      rw [← List.take_add, Nat.add_sub_cancel' hfits.patched_le]
    calc hunk.replaceIn (replaced hunks lines)
        = (lines.take hunk.past ++ tail).take hunk.before ++ HunkLine.newTexts hunk.lines ++
            (lines.take hunk.past ++ tail).drop hunk.past := by rw [htail, Hunk.replaceIn]
      _ = lines.take hunk.before ++ HunkLine.newTexts hunk.lines ++ tail := by
        rw [List.take_append_of_le_length (hbefore.trans_eq htake.symm), List.take_take,
          Nat.min_eq_left hbefore, List.drop_left' htake]
      _ = _ := by
        rw [hskipped, List.append_assoc, List.append_assoc, List.append_assoc]

/-- The hunks fail when one does not fit and those before it do. Assumes: these are complete. -/
theorem applyHunks_of_blames (hfit : FitFrom patched earlier lines)
    (hcomplete : ∀ hunk ∈ earlier, hunk.IsComplete)
    (hblames : Blames lines (pastOf patched earlier) (number + earlier.length) hunk mismatch)
    (later : List Hunk) :
    applyHunks lines.length (earlier ++ hunk :: later) number patched (lines.drop patched) =
      .error mismatch := by
  induction earlier generalizing patched number with
  | nil =>
    rw [List.nil_append]
    cases hblames with
    | place hplace =>
      have hplace : (decide (hunk.before < patched) || decide (lines.length < hunk.before)) =
          true := by
        rw [Bool.or_eq_true, decide_eq_true_eq, decide_eq_true_eq]
        change ¬(patched ≤ _ ∧ _) at hplace
        omega
      rw [applyHunks, hplace]
      rfl
    | @line same more expected hpatched hbefore htexts hsame hfound =>
      change patched ≤ hunk.before at hpatched
      obtain ⟨rest, hrest⟩ := hsame
      have hhead : rest.head? = lines[hunk.before + same.length]? := by
        rw [← List.head?_drop, ← List.drop_drop, ← hrest, List.drop_left]
      rw [applyHunks_of_placed hpatched hbefore, ← hrest, ← hhead,
        applyLines_of_differing number hunk.before htexts (hhead ▸ hfound)]
      rfl
  | cons first earlier ih =>
    obtain ⟨hfirst, hrest⟩ := fitFrom_cons.1 hfit
    obtain ⟨hhunk, hhunks⟩ := List.forall_mem_cons.1 hcomplete
    rw [pastOf_cons, List.length_cons, Nat.add_comm earlier.length, ← Nat.add_assoc] at hblames
    rw [List.cons_append, applyHunks_cons hfirst hhunk, ih hrest hhunks hblames]
    rfl

end Hunks

/-! ### The first hunk that does not fit -/

/-- Either some texts stand at the beginning of some lines, or there is a first one that does
not. -/
theorem standing_or_differing (texts lines : List String) :
    texts <+: lines ∨ ∃ same expected more, texts = same ++ expected :: more ∧ same <+: lines ∧
      lines[same.length]? ≠ some expected := by
  induction texts generalizing lines with
  | nil => exact .inl List.nil_prefix
  | cons text texts ih =>
    by_cases hhead : lines.head? = some text
    · obtain ⟨rest, rfl⟩ := List.head?_eq_some_iff.1 hhead
      rcases ih rest with hstanding | ⟨same, expected, more, htexts, hsame, hfound⟩
      · exact .inl (List.cons_prefix_cons.2 ⟨rfl, hstanding⟩)
      · exact .inr ⟨text :: same, expected, more, congrArg (text :: ·) htexts,
          List.cons_prefix_cons.2 ⟨rfl, hsame⟩, hfound⟩
    · exact .inr ⟨[], text, texts, rfl, List.nil_prefix, List.head?_eq_getElem? ▸ hhead⟩

/-- A hunk fits or there is a reason why it does not. -/
theorem fits_or_blames (hunk : Hunk) (patched number : Nat) (lines : List String) :
    hunk.FitsAfter patched lines ∨ ∃ mismatch, Blames lines patched number hunk mismatch := by
  by_cases hplace : patched ≤ hunk.before ∧ hunk.before ≤ lines.length
  · obtain ⟨hpatched, hbefore⟩ := hplace
    rcases standing_or_differing (HunkLine.oldTexts hunk.lines) (lines.drop hunk.before) with
      hstanding | ⟨same, expected, more, htexts, hsame, hfound⟩
    · exact .inl ⟨hpatched, hbefore, hstanding⟩
    · rw [List.getElem?_drop] at hfound
      exact .inr ⟨_, .line hpatched hbefore htexts hsame hfound⟩
  · exact .inr ⟨_, .place hplace⟩

/-- All hunks fit or there is a first one that does not. -/
theorem fit_or_blames (hunks : List Hunk) (patched number : Nat) (lines : List String) :
    FitFrom patched hunks lines ∨ ∃ earlier hunk later mismatch,
      hunks = earlier ++ hunk :: later ∧ FitFrom patched earlier lines ∧
      Blames lines (pastOf patched earlier) (number + earlier.length) hunk mismatch := by
  induction hunks generalizing patched number with
  | nil => exact .inl fitFrom_nil
  | cons hunk hunks ih =>
    rcases fits_or_blames hunk patched number lines with hfits | ⟨mismatch, hblames⟩
    · rcases ih hunk.past (number + 1) with
        hrest | ⟨earlier, other, later, mismatch, rfl, hearlier, hblames⟩
      · exact .inl (fitFrom_cons.2 ⟨hfits, hrest⟩)
      · refine .inr ⟨hunk :: earlier, other, later, mismatch, rfl,
          fitFrom_cons.2 ⟨hfits, hearlier⟩, ?_⟩
        rwa [pastOf_cons, List.length_cons, Nat.add_comm earlier.length, ← Nat.add_assoc]
    · exact .inr ⟨[], hunk, hunks, mismatch, rfl, fitFrom_nil, hblames⟩

/-! ### Patches -/

section Patches

variable {patch : Patch} {content : String}

/-- A patch whose hunks fit gives the file with their ranges replaced. Assumes: the hunks are
complete. -/
theorem apply_of_fit (hcomplete : ∀ hunk ∈ patch.hunks, hunk.IsComplete)
    (hfit : Fit patch.hunks (fileLines content)) :
    patch.apply content = .ok (fileOfLines (replaced patch.hunks (fileLines content))
      (!patch.newUnterminated && (patch.oldUnterminated || isTerminated content))) := by
  obtain ⟨out, happly, hout⟩ := applyHunks_of_fit hfit hcomplete 1
  have hout : replaced patch.hunks (fileLines content) = out := hout
  change
    applyHunks (fileLines content).length patch.hunks 1 0 ((fileLines content).drop 0) >>= _ = _
  rw [happly, hout]
  rfl

/-- A patch fails on the first hunk that does not fit. Assumes: the hunks are complete. -/
theorem apply_of_blames {earlier later : List Hunk} {hunk : Hunk} {mismatch : Mismatch}
    (hcomplete : ∀ hunk ∈ patch.hunks, hunk.IsComplete)
    (hsplit : patch.hunks = earlier ++ hunk :: later) (hfit : Fit earlier (fileLines content))
    (hblames : Blames (fileLines content) (pastOf 0 earlier) (earlier.length + 1) hunk mismatch) :
    patch.apply content = .error mismatch := by
  have hearlier : ∀ hunk ∈ earlier, hunk.IsComplete := fun hunk hhunk ↦
    hcomplete hunk (hsplit ▸ List.mem_append_left _ hhunk)
  rw [Nat.add_comm] at hblames
  change
    applyHunks (fileLines content).length patch.hunks 1 0 ((fileLines content).drop 0) >>= _ = _
  rw [hsplit, applyHunks_of_blames hfit hearlier hblames]
  rfl

/-- The hunks of a patch that applies fit. Assumes: they are complete. -/
theorem fit_of_apply {result : String} (hcomplete : ∀ hunk ∈ patch.hunks, hunk.IsComplete)
    (happly : patch.apply content = .ok result) :
    Fit patch.hunks (fileLines content) ∧
      result = fileOfLines (replaced patch.hunks (fileLines content))
        (!patch.newUnterminated && (patch.oldUnterminated || isTerminated content)) := by
  rcases fit_or_blames patch.hunks 0 1 (fileLines content) with
    hfit | ⟨earlier, hunk, later, mismatch, hsplit, hfit, hblames⟩
  · exact ⟨hfit, Except.ok.inj (happly.symm.trans (apply_of_fit hcomplete hfit))⟩
  · rw [Nat.add_comm] at hblames
    exact nomatch happly.symm.trans (apply_of_blames hcomplete hsplit hfit hblames)

end Patches

/-- What it means to apply a patch to a file. It gives a file exactly when each hunk fits after the
one before it: its range begins at or after the end of the range before it and at most at the end of
the file, and its context and what it removes stand there. The lines of the new file are those of
the old one with each range replaced by the context and what is added; they end in a newline unless
the patch marks the new side, and then if it marks the old side or the old file did. Otherwise the
mismatch is about the first hunk that does not fit: that its range cannot begin where it does, or
the first of its lines that is not the one in the file, with what is expected there and what is
found. Assumes: the patch has been read from a text. -/
theorem apply_iff_of_parse {text : String} {patch : Patch} (hparse : parse text = .ok patch)
    (content : String) :
    let lines := fileLines content
    let terminated := !patch.newUnterminated && (patch.oldUnterminated || isTerminated content)
    (∀ result, patch.apply content = .ok result ↔
      Fit patch.hunks lines ∧ result = fileOfLines (replaced patch.hunks lines) terminated) ∧
    ∀ mismatch, patch.apply content = .error mismatch ↔ ∃ earlier hunk later,
      patch.hunks = earlier ++ hunk :: later ∧ Fit earlier lines ∧
      Blames lines (pastOf 0 earlier) (earlier.length + 1) hunk mismatch := by
  intro lines terminated
  have hcomplete := isComplete_of_parse hparse
  have hfits : Fit patch.hunks lines →
      patch.apply content = .ok (fileOfLines (replaced patch.hunks lines) terminated) :=
    apply_of_fit hcomplete
  have hfails : ∀ earlier hunk later mismatch, patch.hunks = earlier ++ hunk :: later →
      Fit earlier lines → Blames lines (pastOf 0 earlier) (earlier.length + 1) hunk mismatch →
      patch.apply content = .error mismatch :=
    fun _ _ _ _ ↦ apply_of_blames hcomplete
  rcases fit_or_blames patch.hunks 0 1 lines with
    hfit | ⟨earlier, hunk, later, mismatch, hsplit, hfit, hblames⟩
  · have happly := hfits hfit
    refine ⟨fun result ↦ ⟨fun h ↦ ?_, fun ⟨_, h⟩ ↦ h ▸ happly⟩, fun mismatch ↦ ⟨fun h ↦ ?_, ?_⟩⟩
    · exact ⟨hfit, Except.ok.inj (h.symm.trans happly)⟩
    · exact nomatch happly.symm.trans h
    · rintro ⟨earlier, hunk, later, hsplit, hearlier, hblames⟩
      exact hfails earlier hunk later mismatch hsplit hearlier hblames
  · rw [Nat.add_comm] at hblames
    have happly := hfails earlier hunk later mismatch hsplit hfit hblames
    refine ⟨fun result ↦ ⟨fun h ↦ ?_, fun ⟨h, _⟩ ↦ ?_⟩, fun other ↦ ⟨fun h ↦ ?_, ?_⟩⟩
    · exact nomatch happly.symm.trans h
    · exact nomatch happly.symm.trans (hfits h)
    · obtain rfl : mismatch = other := Except.error.inj (happly.symm.trans h)
      exact ⟨earlier, hunk, later, hsplit, hfit, hblames⟩
    · rintro ⟨earlier, hunk, later, hsplit, hearlier, hblames⟩
      exact hfails earlier hunk later other hsplit hearlier hblames

/-- A hunk replaces a line and another one adds a line after the third. A file of two lines is too
short for that one. -/
theorem apply_two_hunks :
    let text := "@@ -2 +2 @@\n-b\n+x\n@@ -3,0 +4 @@\n+y\n"
    ∃ patch, parse text = .ok patch ∧ patch.apply "a\nb\nc\n" = .ok "a\nx\nc\ny\n" ∧
      patch.apply "a\nb" = .error (.place 2 3 2 2) := by
  intro text
  let first : Hunk := ⟨2, 1, 2, 1, [.removed "b", .added "x"]⟩
  let second : Hunk := ⟨3, 0, 4, 1, [.added "y"]⟩
  have hparse : parse text = .ok ⟨none, [first, second], false, false⟩ := by decide +kernel
  have hfit : Fit [first, second] (fileLines "a\nb\nc\n") :=
    fitFrom_cons.2 ⟨⟨by decide, by decide, by decide⟩,
      fitFrom_cons.2 ⟨⟨by decide, by decide, by decide⟩, fitFrom_nil⟩⟩
  have hfirst : Fit [first] (fileLines "a\nb") :=
    fitFrom_cons.2 ⟨⟨by decide, by decide, by decide⟩, fitFrom_nil⟩
  obtain ⟨happly, -⟩ := apply_iff_of_parse hparse "a\nb\nc\n"
  obtain ⟨-, hfails⟩ := apply_iff_of_parse hparse "a\nb"
  exact ⟨_, hparse, (happly _).2 ⟨hfit, by decide⟩,
    (hfails _).2 ⟨[first], second, [], rfl, hfirst, .place (by decide)⟩⟩

/-! ### Patches that make a file -/

/-- The lines that hunks add, in order. -/
def addedTexts (hunks : List Hunk) : List String :=
  hunks.flatMap fun hunk ↦ hunk.lines.filterMap HunkLine.addedText?

theorem createsFile_iff {patch : Patch} :
    patch.createsFile = true ↔ ∀ hunk ∈ patch.hunks, hunk.StartsFile := by
  unfold createsFile
  simp only [List.all_eq_true, Bool.and_eq_true, decide_eq_true_eq]
  exact forall₂_congr fun hunk _ ↦ ⟨fun ⟨hstart, hlength⟩ ↦ ⟨hstart, hlength⟩,
    fun ⟨hstart, hlength⟩ ↦ ⟨hstart, hlength⟩⟩

section Hunks

variable {hunks : List Hunk} {lines : List String}

/-- Hunks that start a file fit every file. Assumes: they are complete. -/
theorem fit_of_startsFile (hstarts : ∀ hunk ∈ hunks, hunk.StartsFile)
    (hcomplete : ∀ hunk ∈ hunks, hunk.IsComplete) : Fit hunks lines := by
  induction hunks with
  | nil => exact fitFrom_nil
  | cons hunk hunks ih =>
    obtain ⟨hstart, hstarts⟩ := List.forall_mem_cons.1 hstarts
    obtain ⟨hwhole, hcomplete⟩ := List.forall_mem_cons.1 hcomplete
    refine fitFrom_cons.2 ⟨⟨Nat.zero_le _, ?_, ?_⟩, ?_⟩
    · rw [hstart.before_eq]
      exact Nat.zero_le _
    · rw [hstart.oldTexts_eq_nil hwhole]
      exact List.nil_prefix
    · rw [hstart.past_eq]
      exact ih hstarts hcomplete

/-- Hunks that start a file put what they add before all lines. Assumes: they are complete. -/
theorem replaced_of_startsFile (hstarts : ∀ hunk ∈ hunks, hunk.StartsFile)
    (hcomplete : ∀ hunk ∈ hunks, hunk.IsComplete) :
    replaced hunks lines = addedTexts hunks ++ lines := by
  induction hunks with
  | nil => rfl
  | cons hunk hunks ih =>
    obtain ⟨hstart, hstarts⟩ := List.forall_mem_cons.1 hstarts
    obtain ⟨hwhole, hcomplete⟩ := List.forall_mem_cons.1 hcomplete
    calc replaced (hunk :: hunks) lines = hunk.replaceIn (replaced hunks lines) := rfl
      _ = hunk.lines.filterMap HunkLine.addedText? ++ (addedTexts hunks ++ lines) := by
        rw [hstart.replaceIn_eq hwhole, ih hstarts hcomplete]
      _ = addedTexts (hunk :: hunks) ++ lines := by
        rw [← List.append_assoc, addedTexts, addedTexts, List.flatMap_cons]

end Hunks

/-- A patch that makes a file applies to the empty file and gives exactly the lines that it adds,
which end in a newline unless the patch marks the new side. Assumes: the patch has been read from a
text. -/
theorem apply_empty_of_createsFile {text : String} {patch : Patch}
    (hparse : parse text = .ok patch) (hcreates : patch.createsFile = true) :
    patch.apply "" = .ok (fileOfLines (addedTexts patch.hunks) (!patch.newUnterminated)) := by
  have hcomplete := isComplete_of_parse hparse
  have hstarts := createsFile_iff.1 hcreates
  have hadded : replaced patch.hunks (fileLines "") = addedTexts patch.hunks :=
    (replaced_of_startsFile hstarts hcomplete).trans (List.append_nil _)
  have hterminated : isTerminated "" = true := rfl
  rw [apply_of_fit hcomplete (fit_of_startsFile hstarts hcomplete), hadded, hterminated,
    Bool.or_true, Bool.and_true]

end Patch

end Runbook
