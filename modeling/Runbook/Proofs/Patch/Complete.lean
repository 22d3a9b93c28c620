import Runbook.Patch.Parse
/-!
# Hunks of parsed patches

`Reading.LineStep` says all that one line of a patch can do while it is read: open a hunk, mark the
line before it, name the file, or add a line to the last hunk. What each of these keeps is kept by
all lines (`Reading.readLines_induction`).

A hunk of a patch that has been read has as many lines on each side as its header declares, and it
starts at a line if it has old lines (`Hunk.IsComplete`). While a patch is read this holds of every
hunk but the last, which can still be growing and has no more lines than declared. One line keeps
this (`Reading.Sound.step`), and at the end the last hunk has been closed too
(`isComplete_of_parse`).
-/

set_option autoImplicit false

namespace Runbook

namespace Hunk

/-- A hunk has the lines that its header declares. -/
structure IsComplete (hunk : Hunk) : Prop where
  oldCount_eq : hunk.oldCount = hunk.oldLength
  newCount_eq : hunk.newCount = hunk.newLength
  /-- Old lines start at some line. -/
  oldStart_pos : 0 < hunk.oldLength → 0 < hunk.oldStart

/-- A hunk has no more lines than its header declares. -/
structure IsWithin (hunk : Hunk) : Prop where
  oldCount_le : hunk.oldCount ≤ hunk.oldLength
  newCount_le : hunk.newCount ≤ hunk.newLength
  /-- Old lines start at some line. -/
  oldStart_pos : 0 < hunk.oldLength → 0 < hunk.oldStart

variable {hunk : Hunk} {entry : HunkLine}

/-- A hunk to which no line is to come is complete. -/
theorem IsWithin.isComplete (h : hunk.IsWithin) (hopen : hunk.isOpen = false) :
    hunk.IsComplete := by
  obtain ⟨hold, hnew, hstart⟩ := h
  obtain ⟨hmissingOld, hmissingNew⟩ := Bool.or_eq_false_iff.1 hopen
  have hmissingOld : ¬hunk.oldLength - hunk.oldCount > 0 := of_decide_eq_false hmissingOld
  have hmissingNew : ¬hunk.newLength - hunk.newCount > 0 := of_decide_eq_false hmissingNew
  exact ⟨by omega, by omega, hstart⟩

/-- A hunk stays within its lengths when a line is added for which there is room. -/
theorem IsWithin.extend (h : hunk.IsWithin)
    (hroom : ¬((entry.inOld && hunk.missingOld = 0) || (entry.inNew && hunk.missingNew = 0))) :
    IsWithin { hunk with lines := hunk.lines ++ [entry] } := by
  obtain ⟨hold, hnew, hstart⟩ := h
  simp only [Bool.or_eq_true, Bool.and_eq_true, decide_eq_true_eq, not_or, not_and] at hroom
  obtain ⟨hroomOld, hroomNew⟩ := hroom
  unfold missingOld at hroomOld
  unfold missingNew at hroomNew
  refine ⟨?_, ?_, hstart⟩
  · rw [oldCount, List.countP_append, List.countP_singleton]
    change hunk.oldCount + _ ≤ hunk.oldLength
    split
    · next hin =>
      have := hroomOld hin
      omega
    · exact hold
  · rw [newCount, List.countP_append, List.countP_singleton]
    change hunk.newCount + _ ≤ hunk.newLength
    split
    · next hin =>
      have := hroomNew hin
      omega
    · exact hnew

end Hunk

namespace Patch

/-- The hunk that a header opens has no lines yet. -/
theorem Header.lines_of_hunk? {header : Header} {hunk : Hunk} (h : header.hunk? = some hunk) :
    hunk.lines = [] := by
  simp only [Header.hunk?, Option.bind_eq_bind, Option.bind_eq_some_iff, Option.pure_def,
    Option.some.injEq] at h
  obtain ⟨_, -, _, -, _, -, _, -, rfl⟩ := h
  rfl

namespace Reading

variable {reading next : Reading} {number : Nat} {line : List Char}

/-! ### One line -/

/-- All that one line of a patch can do. -/
inductive LineStep (reading : Reading) (line : List Char) : Reading → Prop where
  /-- A header opens a hunk when the hunk before it has all its lines. -/
  | opened {header : Header} {hunk : Hunk} (hline : header? line = some header)
      (hheader : header.hunk? = some hunk) (hclosed : reading.truncation? = none)
      (hstart : 0 < hunk.oldLength → 0 < hunk.oldStart) :
      LineStep reading line { reading with earlier := reading.hunks, last := some hunk }
  /-- A backslash marks the line that was read last. -/
  | marked (hmark : line.head? = some '\\') : LineStep reading line reading.noteUnterminated
  /-- A line outside the hunks changes at most the name of the file. -/
  | outside (target : Option String) (hmark : line.head? ≠ some '\\') :
      LineStep reading line { reading with target := target }
  /-- A line of the last hunk is added to it when there is room. -/
  | extended {hunk : Hunk} {entry : HunkLine} (hlast : reading.last = some hunk)
      (hmark : line.head? ≠ some '\\') (hentry : hunkLine? line = some entry)
      (hroom : ¬((entry.inOld && hunk.missingOld = 0) || (entry.inNew && hunk.missingNew = 0))) :
      LineStep reading line
        { reading with last := some { hunk with lines := hunk.lines ++ [entry] } }

theorem lineStep_of_openHunk {header : Header} (hline : header? line = some header)
    (hread : reading.openHunk number header = .ok next) : reading.LineStep line next := by
  unfold Reading.openHunk at hread
  split at hread
  · cases hread
  next hclosed =>
  split at hread
  · cases hread
  next hunk hheader =>
  split at hread
  · cases hread
  next hstart =>
  cases hread
  simp only [Bool.and_eq_true, decide_eq_true_eq, not_and] at hstart
  exact .opened hline hheader hclosed fun hlength ↦ Nat.pos_of_ne_zero (hstart hlength)

theorem lineStep_of_readOutside (hmark : line.head? ≠ some '\\')
    (hread : reading.readOutside number line = .ok next) : reading.LineStep line next := by
  unfold Reading.readOutside at hread
  simp only at hread
  split at hread <;> split at hread
  · obtain rfl := Except.ok.inj hread
    exact .outside reading.target hmark
  · cases hread
  · obtain rfl := Except.ok.inj hread
    exact .outside _ hmark
  · split at hread
    · obtain rfl := Except.ok.inj hread
      exact .outside reading.target hmark
    · cases hread

theorem lineStep_of_readInside {hunk : Hunk} (hlast : reading.last = some hunk)
    (hmark : line.head? ≠ some '\\') (hread : reading.readInside hunk number line = .ok next) :
    reading.LineStep line next := by
  unfold Reading.readInside at hread
  split at hread
  · cases hread
  next entry hentry =>
  split at hread
  · cases hread
  next hroom =>
  cases hread
  exact .extended hlast hmark hentry hroom

/-- What reading a line does. -/
theorem lineStep_of_readLine (hread : reading.readLine number line = .ok next) :
    reading.LineStep line next := by
  unfold Reading.readLine at hread
  split at hread
  · next header hline => exact lineStep_of_openHunk hline hread
  split at hread
  · next hmark =>
    obtain rfl := Except.ok.inj hread
    exact .marked hmark
  next hmark =>
  split at hread
  · next hunk hlast =>
    split at hread
    · exact lineStep_of_readInside hlast hmark hread
    · exact lineStep_of_readOutside hmark hread
  · exact lineStep_of_readOutside hmark hread

/-- What holds before lines and is kept by each of them holds after them. -/
theorem readLines_induction {motive : Reading → Prop} {lines : List (List Char)}
    (hstep : ∀ {reading next : Reading} {line : List Char}, motive reading →
      reading.LineStep line next → motive next)
    (h : motive reading) (hread : reading.readLines number lines = .ok next) : motive next := by
  induction lines generalizing reading number with
  | nil =>
    cases hread
    exact h
  | cons line lines ih =>
    rw [Reading.readLines] at hread
    split at hread
    · cases hread
    · next between hline => exact ih (hstep h (lineStep_of_readLine hline)) hread

theorem earlier_noteUnterminated (reading : Reading) :
    reading.noteUnterminated.earlier = reading.earlier := by
  unfold Reading.noteUnterminated
  split <;> rfl

theorem last_noteUnterminated (reading : Reading) :
    reading.noteUnterminated.last = reading.last := by
  unfold Reading.noteUnterminated
  split <;> rfl

/-! ### Complete hunks -/

/-- The hunks that have been read are complete, but for the last, which can be growing. -/
structure Sound (reading : Reading) : Prop where
  earlier : ∀ hunk ∈ reading.earlier, hunk.IsComplete
  last : ∀ hunk ∈ reading.last, hunk.IsWithin

theorem sound_empty : empty.Sound := ⟨nofun, nofun⟩

/-- All hunks are complete once the last one is closed. -/
theorem Sound.isComplete (h : reading.Sound) (hclosed : reading.truncation? = none) :
    ∀ hunk ∈ reading.hunks, hunk.IsComplete := by
  intro hunk hhunk
  rcases List.mem_append.1 hhunk with hearlier | hlast
  · exact h.earlier hunk hearlier
  · have hlast := Option.mem_toList.1 hlast
    rw [truncation?, hlast] at hclosed
    simp only at hclosed
    split at hclosed
    · cases hclosed
    · next hopen => exact (h.last hunk hlast).isComplete (Bool.eq_false_iff.2 hopen)

/-- One line keeps the hunks complete. -/
theorem Sound.step (h : reading.Sound) (hstep : reading.LineStep line next) : next.Sound := by
  cases hstep with
  | opened _ hheader hclosed hstart =>
    refine ⟨h.isComplete hclosed, ?_⟩
    rintro hunk ⟨⟩
    have hlines := Header.lines_of_hunk? hheader
    refine ⟨?_, ?_, hstart⟩
    · rw [Hunk.oldCount, hlines]
      exact Nat.zero_le _
    · rw [Hunk.newCount, hlines]
      exact Nat.zero_le _
  | marked _ =>
    refine ⟨?_, ?_⟩
    · rw [earlier_noteUnterminated]
      exact h.earlier
    · rw [last_noteUnterminated]
      exact h.last
  | outside _ _ => exact ⟨h.earlier, h.last⟩
  | extended hlast _ _ hroom =>
    refine ⟨h.earlier, ?_⟩
    rintro _ ⟨⟩
    exact (h.last _ hlast).extend hroom

end Reading

/-- A patch that has been read is what was read of its lines, the last hunk closed. -/
theorem exists_of_parse {text : String} {patch : Patch} (h : parse text = .ok patch) :
    ∃ reading, Reading.empty.readLines 1 (Text.contentLines text.toList) = .ok reading ∧
      reading.truncation? = none ∧ reading.hunks ≠ [] ∧
      patch = ⟨reading.target, reading.hunks, reading.newUnterminated,
        reading.oldUnterminated⟩ := by
  unfold parse at h
  split at h
  · cases h
  next reading hread =>
  unfold Reading.finish at h
  split at h
  · cases h
  next hclosed =>
  split at h
  · cases h
  next hempty =>
  exact ⟨reading, hread, hclosed, fun hnil ↦ hempty (List.isEmpty_iff.2 hnil),
    (Except.ok.inj h).symm⟩

/-- The hunks of a patch that has been read are complete. -/
theorem isComplete_of_parse {text : String} {patch : Patch} (h : parse text = .ok patch) :
    ∀ hunk ∈ patch.hunks, hunk.IsComplete := by
  obtain ⟨reading, hread, hclosed, -, rfl⟩ := exists_of_parse h
  have hsound := Reading.readLines_induction Reading.Sound.step Reading.sound_empty hread
  exact hsound.isComplete hclosed

end Patch

end Runbook
