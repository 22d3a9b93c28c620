import Runbook.Patch.Parse
import Runbook.Proofs.Patch.Difference
import Runbook.Proofs.Text.Literal
/-!
# Reading and applying written differences

A difference that is written as a patch is read back: `parse_of_writes`. The proof follows the
lines. A header is read to the numbers that it was made from, `header?_headerLine`; a line of an
excerpt can be taken for no header, whatever its text, since it starts with one of three marks or is
empty (`header?_eq_none`). `readLines_change` is the step of reading for one change with the mark
after it, `readLines_changes` and `readLines_excerpts` are the runs.

While an excerpt is read, its hunk is as long as what has been read of it, and the lengths of its
header are reached exactly at its end (`Awaits`).

A difference that is written as a patch, read and applied to the old file gives the new one:
`parse_apply_of_turns`. What is read is known from `parse_of_writes`; here its hunks are applied.
`applyLines_entries` is a hunk whose lines are those of an excerpt, `applyHunks_of_turns` all of
them, by induction on how they turn one file into the other. The last newline is settled apart from
the lines, by `isTerminated_of_turns`.
-/

set_option autoImplicit false

namespace Runbook.Patch

open Text

/-! ### Numbers -/

/-- A number is read back from its digits. Assumes: it fits a machine word. -/
theorem number?_toString {n : Nat} (h : n ≤ maxNumber) : number? (toString n).toList = some n := by
  have hdigits : (toString n).toList.all Char.isDigit = true :=
    List.all_eq_true.2 fun c hc ↦ isDigit_of_mem_toString hc
  have hvalue : (toString n).toList.foldl (fun n d ↦ 10 * n + (d.toNat - '0'.toNat)) 0 = n :=
    ofDigitChars_toString n
  rw [number?, if_pos hdigits, hvalue]
  exact if_pos h

/-- The digits of a number are found. Assumes: what follows does not start with a digit. -/
theorem digits?_toString (n : Nat) {rest : List Char}
    (h : ∀ c ∈ rest.head?, isDecimalDigit c = false) :
    digits? ((toString n).toList ++ rest) = some ((toString n).toList, rest) := by
  have hall : ∀ c ∈ (toString n).toList, isDecimalDigit c = true := fun c hc ↦
    isDecimalDigit_of_isDigit c (isDigit_of_mem_toString hc)
  have htake : ((toString n).toList ++ rest).takeWhile isDecimalDigit = (toString n).toList := by
    rw [List.takeWhile_append_of_pos hall]
    cases rest with
    | nil => exact List.append_nil _
    | cons c rest =>
      rw [List.takeWhile_cons_of_neg (by rw [h c rfl]; exact Bool.false_ne_true)]
      exact List.append_nil _
  rw [digits?, htake, List.isEmpty_eq_false_iff.2 (toString_ne_nil n), List.drop_left]
  rfl

theorem strip?_append (opening rest : List Char) :
    strip? opening (opening ++ rest) = some rest := by
  induction opening with
  | nil => rfl
  | cons c opening ih => rw [List.cons_append, strip?, if_pos rfl, ih]

/-! ### Headers -/

/-- A side of a header is read. Assumes: its numbers fit a machine word, and a blank follows. -/
theorem side?_of_writes {before count : Nat} {text : List Char} (h : WritesSide before count text)
    (hfits : startNumber before count ≤ maxNumber) (hcount : count ≤ maxNumber)
    (rest : List Char) :
    ∃ start length, side? (text ++ ' ' :: rest) = some (start, length, ' ' :: rest) ∧
      number? start = some (startNumber before count) ∧
      number? (length.getD ['1']) = some count := by
  have hblank : ∀ c ∈ (' ' :: rest).head?, isDecimalDigit c = false := by
    intro c hc
    cases Option.mem_some_iff.1 hc
    decide
  cases h with
  | full =>
    refine ⟨_, some (toString count).toList, ?_, number?_toString hfits, number?_toString hcount⟩
    have hcomma : ∀ c ∈ (',' :: ((toString count).toList ++ ' ' :: rest)).head?,
        isDecimalDigit c = false := by
      intro c hc
      cases Option.mem_some_iff.1 hc
      decide
    rw [side?, List.append_assoc, List.cons_append, digits?_toString _ hcomma]
    simp only [Option.bind_eq_bind, Option.bind_some, digits?_toString _ hblank]
    rfl
  | one hone =>
    subst hone
    refine ⟨_, none, ?_, number?_toString hfits, by decide⟩
    rw [side?, digits?_toString _ hblank]
    rfl

/-- The hunk that a header opens for an excerpt. -/
def Excerpt.opened (excerpt : Excerpt) : Hunk where
  oldStart := startNumber excerpt.oldBefore excerpt.oldLines.length
  oldLength := excerpt.oldLines.length
  newStart := startNumber excerpt.newBefore excerpt.newLines.length
  newLength := excerpt.newLines.length
  lines := []

/-- The numbers of an excerpt fit a machine word. -/
def Excerpt.Fits (excerpt : Excerpt) : Prop :=
  excerpt.oldBefore + excerpt.oldLines.length ≤ maxNumber ∧
    excerpt.newBefore + excerpt.newLines.length ≤ maxNumber

theorem startNumber_le (before count : Nat) : startNumber before count ≤ before + count := by
  unfold startNumber
  split <;> omega

/-- The header of an excerpt is read to the hunk that it opens. -/
theorem header?_headerLine {excerpt : Excerpt} {old new : List Char} (hfits : excerpt.Fits)
    (hold : WritesSide excerpt.oldBefore excerpt.oldLines.length old)
    (hnew : WritesSide excerpt.newBefore excerpt.newLines.length new) :
    ∃ header, header? (headerLine old new) = some header ∧ header.hunk? = some excerpt.opened := by
  have hstart := startNumber_le excerpt.oldBefore excerpt.oldLines.length
  have hstart' := startNumber_le excerpt.newBefore excerpt.newLines.length
  obtain ⟨hfitsOld, hfitsNew⟩ := hfits
  obtain ⟨oldStart, oldLength, hside, holdStart, holdLength⟩ :=
    side?_of_writes hold (by omega) (by omega) ('+' :: (new ++ " @@".toList))
  obtain ⟨newStart, newLength, hside', hnewStart, hnewLength⟩ :=
    side?_of_writes hnew (by omega) (by omega) "@@".toList
  refine ⟨⟨oldStart, oldLength, newStart, newLength⟩, ?_, ?_⟩
  · have hstrip (rest : List Char) : strip? " +".toList (' ' :: '+' :: rest) = some rest := rfl
    have hclose : strip? " @@".toList (' ' :: "@@".toList) = some [] := rfl
    have hside'' : side? (new ++ " @@".toList) =
        some (newStart, newLength, ' ' :: "@@".toList) := hside'
    have hside''' : side? (old ++ (" +".toList ++ (new ++ " @@".toList))) =
        some (oldStart, oldLength, ' ' :: '+' :: (new ++ " @@".toList)) := hside
    simp only [header?, headerLine, strip?_append, Option.bind_eq_bind, Option.bind_some, hside''',
      hstrip, hside'', hclose]
    rfl
  · simp only [Header.hunk?, holdStart, holdLength, hnewStart, hnewLength, Option.bind_eq_bind,
      Option.bind_some]
    rfl

/-- No line is a header unless it starts with the mark of one. -/
theorem header?_eq_none {line : List Char} (h : line.head? ≠ some '@') : header? line = none := by
  have hstrip : strip? "@@ -".toList line = none := by
    cases line with
    | nil => rfl
    | cons c rest =>
      have hc : '@' ≠ c := fun hc ↦ h (by rw [hc]; rfl)
      show strip? ('@' :: _) (c :: rest) = none
      rw [strip?, if_neg hc]
  rw [header?, hstrip]
  rfl

/-! ### Lines of hunks -/

/-- The line that a change is about. -/
def Change.line : Change → List Char
  | same line => line
  | removed line => line
  | added line => line

/-- The line of a hunk that a change is. -/
def Change.entry : Change → HunkLine
  | same line => .context (String.ofList (lineText line))
  | removed line => .removed (String.ofList (lineText line))
  | added line => .added (String.ofList (lineText line))

theorem oldSide_cons (change : Change) (changes : List Change) :
    oldSide (change :: changes) =
      (if change.entry.inOld then [change.line] else []) ++ oldSide changes := by
  cases change <;> rfl

theorem newSide_cons (change : Change) (changes : List Change) :
    newSide (change :: changes) =
      (if change.entry.inNew then [change.line] else []) ++ newSide changes := by
  cases change <;> rfl

/-- The lengths of a hunk are reached when these changes have been read. -/
def Awaits (hunk : Hunk) (changes : List Change) : Prop :=
  hunk.oldLength = hunk.oldCount + (oldSide changes).length ∧
    hunk.newLength = hunk.newCount + (newSide changes).length

/-- A hunk with one more line. -/
def extend (hunk : Hunk) (entry : HunkLine) : Hunk := { hunk with lines := hunk.lines ++ [entry] }

theorem Awaits.extend {hunk : Hunk} {change : Change} {changes : List Change}
    (h : Awaits hunk (change :: changes)) : Awaits (extend hunk change.entry) changes := by
  obtain ⟨hold, hnew⟩ := h
  rw [oldSide_cons, List.length_append] at hold
  rw [newSide_cons, List.length_append] at hnew
  constructor
  · show hunk.oldLength = (hunk.lines ++ [change.entry]).countP HunkLine.inOld + _
    rw [List.countP_append, hold, Hunk.oldCount, List.countP_singleton, Nat.add_assoc]
    split <;> rfl
  · show hunk.newLength = (hunk.lines ++ [change.entry]).countP HunkLine.inNew + _
    rw [List.countP_append, hnew, Hunk.newCount, List.countP_singleton, Nat.add_assoc]
    split <;> rfl

/-- A hunk that awaits a change has room for it. -/
theorem Awaits.hasRoom {hunk : Hunk} {change : Change} {changes : List Change}
    (h : Awaits hunk (change :: changes)) :
    hunk.isOpen = true ∧ ((change.entry.inOld && hunk.missingOld = 0) ||
      (change.entry.inNew && hunk.missingNew = 0)) = false := by
  obtain ⟨hold, hnew⟩ := h
  rw [oldSide_cons, List.length_append] at hold
  rw [newSide_cons, List.length_append] at hnew
  unfold Hunk.isOpen Hunk.missingOld Hunk.missingNew
  cases change <;>
    simp only [Change.entry, HunkLine.inOld, HunkLine.inNew, if_true,
      List.length_singleton] at * <;>
    simp <;> omega

/-- A hunk that awaits nothing is closed. -/
theorem Awaits.isOpen_eq {hunk : Hunk} (h : Awaits hunk []) : hunk.isOpen = false := by
  obtain ⟨hold, hnew⟩ := h
  unfold Hunk.isOpen Hunk.missingOld Hunk.missingNew
  rw [hold, hnew]
  simp [oldSide, newSide]

/-- The hunk that an excerpt is. -/
def Excerpt.hunk (excerpt : Excerpt) : Hunk :=
  { excerpt.opened with lines := excerpt.changes.map Change.entry }

theorem Excerpt.awaits (excerpt : Excerpt) : Awaits excerpt.opened excerpt.changes :=
  ⟨(Nat.zero_add _).symm, (Nat.zero_add _).symm⟩

theorem countP_inOld (changes : List Change) :
    (changes.map Change.entry).countP HunkLine.inOld = (oldSide changes).length := by
  induction changes with
  | nil => rfl
  | cons change changes ih =>
    rw [List.map_cons, List.countP_cons, ih, oldSide_cons, List.length_append, Nat.add_comm]
    congr 1
    split <;> rfl

theorem countP_inNew (changes : List Change) :
    (changes.map Change.entry).countP HunkLine.inNew = (newSide changes).length := by
  induction changes with
  | nil => rfl
  | cons change changes ih =>
    rw [List.map_cons, List.countP_cons, ih, newSide_cons, List.length_append, Nat.add_comm]
    congr 1
    split <;> rfl

theorem Excerpt.isOpen_hunk (excerpt : Excerpt) : excerpt.hunk.isOpen = false := by
  refine Awaits.isOpen_eq ⟨?_, ?_⟩
  · exact (countP_inOld excerpt.changes).symm
  · exact (countP_inNew excerpt.changes).symm

namespace Reading

/-- What has been read once changes have been read into a hunk. -/
def withChanges (reading : Reading) (hunk : Hunk) (changes : List Change) : Reading :=
  { reading with
    last := some { hunk with lines := hunk.lines ++ changes.map Change.entry }
    newUnterminated := reading.newUnterminated || (newSide changes).any isOpenLine
    oldUnterminated := reading.oldUnterminated || (oldSide changes).any isOpenLine }

theorem withChanges_nil {reading : Reading} {hunk : Hunk} (h : reading.last = some hunk) :
    reading.withChanges hunk [] = reading := by
  obtain ⟨target, earlier, last, newUnterminated, oldUnterminated⟩ := reading
  cases h
  simp [withChanges, oldSide, newSide]

theorem withChanges_cons (reading : Reading) (hunk : Hunk) (change : Change)
    (changes : List Change) :
    (reading.withChanges hunk [change]).withChanges (extend hunk change.entry) changes =
      reading.withChanges hunk (change :: changes) := by
  simp only [withChanges, extend, List.map_cons, List.map_nil, List.append_assoc,
    List.singleton_append, Bool.or_assoc, ← List.any_append, mk.injEq, true_and]
  rw [oldSide_cons change changes, newSide_cons change changes, oldSide_cons change [],
    newSide_cons change []]
  simp [oldSide, newSide]

/-- A line of a hunk that has room for it is read. -/
theorem readLine_entry {reading : Reading} {hunk : Hunk} {change : Change} {changes : List Change}
    {line : List Char} (hlast : reading.last = some hunk)
    (hawaits : Awaits hunk (change :: changes)) (hentry : hunkLine? line = some change.entry)
    (number : Nat) :
    reading.readLine number line =
      .ok { reading with last := some (extend hunk change.entry) } := by
  have hheader : header? line = none := by
    refine header?_eq_none fun hhead ↦ ?_
    obtain ⟨rest, rfl⟩ := List.head?_eq_some_iff.1 hhead
    cases hentry
  have hmark : line.head? ≠ some '\\' := by
    intro hhead
    obtain ⟨rest, rfl⟩ := List.head?_eq_some_iff.1 hhead
    cases hentry
  obtain ⟨hopen, hroom⟩ := hawaits.hasRoom
  simp only [readLine, hheader, if_neg hmark, hlast, hopen, if_true, readInside, hentry, hroom,
    Bool.false_eq_true, if_false]
  rfl

/-- The mark after a line is read: the line lacks its newline in the files that have it. -/
theorem readLine_openMark {reading : Reading} {hunk : Hunk} {entry : HunkLine}
    (hlast : reading.last = some (extend hunk entry)) (number : Nat) :
    reading.readLine number openMark = .ok { reading with
      newUnterminated := reading.newUnterminated || entry.inNew
      oldUnterminated := reading.oldUnterminated || entry.inOld } := by
  have hheader : header? openMark = none := header?_eq_none (by decide)
  have hmark : openMark.head? = some '\\' := by decide
  simp only [readLine, hheader, if_pos hmark, noteUnterminated, hlast, Option.bind_some, extend,
    List.getLast?_concat]

theorem readLines_cons {reading next : Reading} {number : Nat} {line : List Char}
    (h : reading.readLine number line = .ok next) (rest : List (List Char)) :
    reading.readLines number (line :: rest) = next.readLines (number + 1) rest := by
  rw [readLines, h]

/-- What a change adds to what has been read. -/
theorem withChanges_singleton (reading : Reading) (hunk : Hunk) (change : Change) :
    reading.withChanges hunk [change] =
      { reading with
        last := some (extend hunk change.entry)
        newUnterminated :=
          reading.newUnterminated || (change.entry.inNew && isOpenLine change.line)
        oldUnterminated :=
          reading.oldUnterminated || (change.entry.inOld && isOpenLine change.line) } := by
  cases change <;>
    simp [withChanges, oldSide, newSide, Change.old?, Change.new?, Change.entry, Change.line,
      HunkLine.inOld, HunkLine.inNew, extend]

/-- A line for a change and, if it lacks its newline, the mark after it are read. -/
theorem readLines_marked {reading : Reading} {hunk : Hunk} {change : Change}
    {changes : List Change} {line : List Char} (hlast : reading.last = some hunk)
    (hawaits : Awaits hunk (change :: changes)) (hentry : hunkLine? line = some change.entry)
    (number : Nat) (rest : List (List Char)) :
    reading.readLines number (line :: marksAfter change.line ++ rest) =
      (reading.withChanges hunk [change]).readLines
        (number + (line :: marksAfter change.line).length) rest := by
  rw [List.cons_append, readLines_cons (readLine_entry hlast hawaits hentry _),
    withChanges_singleton]
  by_cases hended : isEnded change.line
  · have hopen : isOpenLine change.line = false := by rw [isOpenLine, hended]; rfl
    rw [marksAfter, if_pos hended, hopen, Bool.and_false, Bool.and_false, Bool.or_false,
      Bool.or_false]
    rfl
  · have hopen : isOpenLine change.line = true := by
      rw [isOpenLine, Bool.eq_false_iff.2 hended]
      rfl
    rw [marksAfter, if_neg hended, hopen, Bool.and_true, Bool.and_true, List.singleton_append,
      readLines_cons (readLine_openMark rfl _)]
    rfl

/-- A change is read. -/
theorem readLines_change {reading : Reading} {hunk : Hunk} {change : Change}
    {changes : List Change} {written : List (List Char)} (hchange : WritesChange change written)
    (hlast : reading.last = some hunk) (hawaits : Awaits hunk (change :: changes)) (number : Nat)
    (rest : List (List Char)) :
    reading.readLines number (written ++ rest) =
      (reading.withChanges hunk [change]).readLines (number + written.length) rest := by
  cases hchange with
  | same line => exact readLines_marked hlast hawaits rfl number rest
  | blank => exact readLines_marked hlast hawaits rfl number rest
  | removed line => exact readLines_marked hlast hawaits rfl number rest
  | added line => exact readLines_marked hlast hawaits rfl number rest

/-- Changes are read, one after the other. -/
theorem readLines_changes {reading : Reading} {hunk : Hunk} {changes : List Change}
    {body : List (List Char)} (hbody : WritesChanges changes body)
    (hlast : reading.last = some hunk) (hawaits : Awaits hunk changes) (number : Nat)
    (rest : List (List Char)) :
    reading.readLines number (body ++ rest) =
      (reading.withChanges hunk changes).readLines (number + body.length) rest := by
  induction hbody generalizing reading hunk number with
  | nil => rw [withChanges_nil hlast]; rfl
  | @cons change changes written body hchange hrest ih =>
    have hnext : (reading.withChanges hunk [change]).last = some (extend hunk change.entry) := rfl
    rw [List.append_assoc, readLines_change hchange hlast hawaits, ih hnext hawaits.extend,
      withChanges_cons, List.length_append, Nat.add_assoc]

/-! ### Excerpts -/

/-- A header opens a hunk when the one before it is complete. -/
theorem readLine_headerLine {reading : Reading} {excerpt : Excerpt} {old new : List Char}
    (hclosed : reading.truncation? = none) (hfits : excerpt.Fits)
    (hold : WritesSide excerpt.oldBefore excerpt.oldLines.length old)
    (hnew : WritesSide excerpt.newBefore excerpt.newLines.length new) (number : Nat) :
    reading.readLine number (headerLine old new) =
      .ok { reading with earlier := reading.hunks, last := some excerpt.opened } := by
  obtain ⟨header, hheader, hhunk⟩ := header?_headerLine hfits hold hnew
  have hstart : (decide (excerpt.opened.oldLength > 0) &&
      decide (excerpt.opened.oldStart = 0)) = false := by
    simp only [Excerpt.opened, startNumber]
    split <;> simp_all
  simp only [readLine, hheader, openHunk, hclosed, hhunk, hstart, Bool.false_eq_true, if_false]

/-- Excerpts are read, one after the other: their hunks come after those that were read before, and
it is noted whether they show lines that lack their newline. -/
theorem readLines_excerpts {reading : Reading} {excerpts : List Excerpt}
    {lines : List (List Char)} (h : WritesExcerpts excerpts lines)
    (hclosed : reading.truncation? = none) (hfits : ∀ excerpt ∈ excerpts, excerpt.Fits)
    (number : Nat) :
    ∃ final, reading.readLines number lines = .ok final ∧ final.truncation? = none ∧
      final.target = reading.target ∧
      final.hunks = reading.hunks ++ excerpts.map Excerpt.hunk ∧
      final.newUnterminated =
        (reading.newUnterminated || (excerpts.flatMap Excerpt.newLines).any isOpenLine) ∧
      final.oldUnterminated =
        (reading.oldUnterminated || (excerpts.flatMap Excerpt.oldLines).any isOpenLine) := by
  induction h generalizing reading number with
  | nil =>
    exact ⟨reading, rfl, hclosed, rfl, (List.append_nil _).symm, (Bool.or_false _).symm,
      (Bool.or_false _).symm⟩
  | @cons excerpt excerpts old new body rest hold hnew hbody hrest ih =>
    have hheader := readLine_headerLine hclosed (hfits excerpt List.mem_cons_self) hold hnew number
    let opened : Reading :=
      { reading with earlier := reading.hunks, last := some excerpt.opened }
    let reached := opened.withChanges excerpt.opened excerpt.changes
    have hlast : reached.last = some excerpt.hunk := rfl
    have hcomplete : reached.truncation? = none := by
      rw [truncation?, hlast]
      exact if_neg (by rw [excerpt.isOpen_hunk]; exact Bool.false_ne_true)
    obtain ⟨final, hread, htruncation, htarget, hhunks, hnewOpen, holdOpen⟩ :=
      ih hcomplete (fun other hother ↦ hfits other (List.mem_cons_of_mem excerpt hother))
        (number + 1 + body.length)
    refine ⟨final, ?_, htruncation, htarget, ?_, ?_, ?_⟩
    · rw [readLines_cons hheader, readLines_changes hbody rfl excerpt.awaits]
      exact hread
    · rw [hhunks, List.map_cons]
      show reading.hunks ++ [excerpt.hunk] ++ _ = _
      rw [List.append_assoc, List.singleton_append]
    · rw [hnewOpen, List.flatMap_cons, List.any_append, ← Bool.or_assoc]
      rfl
    · rw [holdOpen, List.flatMap_cons, List.any_append, ← Bool.or_assoc]
      rfl

end Reading

/-! ### Whole texts -/

/-- A line that is read as it was written: it holds no newline and does not end in a carriage
return. -/
def IsLegible (line : List Char) : Prop := '\n' ∉ line ∧ line.getLast? ≠ some '\r'

theorem isLegible_cons {mark : Char} {line : List Char} (hline : IsLegible line)
    (hnewline : mark ≠ '\n') (hreturn : mark ≠ '\r') : IsLegible (mark :: line) := by
  refine ⟨?_, ?_⟩
  · intro hmem
    rcases List.mem_cons.1 hmem with hmark | hmem
    · exact hnewline hmark.symm
    · exact hline.1 hmem
  · cases line with
    | nil => exact fun hlast ↦ hreturn (Option.some.inj hlast)
    | cons c rest =>
      rw [List.getLast?_cons_cons]
      exact hline.2

theorem isLegible_marksAfter (line : List Char) : ∀ mark ∈ marksAfter line, IsLegible mark := by
  unfold marksAfter
  split
  · nofun
  · intro mark hmark
    rw [List.mem_singleton.1 hmark]
    exact ⟨by decide, by decide⟩

/-- The lines for a change are legible. Assumes: what it writes of its line is. -/
theorem WritesChange.isLegible {change : Change} {written : List (List Char)}
    (h : WritesChange change written) (hline : IsLegible (lineText change.line)) :
    ∀ line ∈ written, IsLegible line := by
  intro line hmem
  cases h with
  | same text =>
    rcases List.mem_cons.1 hmem with rfl | hmem
    · exact isLegible_cons hline (by decide) (by decide)
    · exact isLegible_marksAfter text line hmem
  | blank =>
    rw [List.mem_singleton.1 hmem]
    exact ⟨nofun, nofun⟩
  | removed text =>
    rcases List.mem_cons.1 hmem with rfl | hmem
    · exact isLegible_cons hline (by decide) (by decide)
    · exact isLegible_marksAfter text line hmem
  | added text =>
    rcases List.mem_cons.1 hmem with rfl | hmem
    · exact isLegible_cons hline (by decide) (by decide)
    · exact isLegible_marksAfter text line hmem

theorem WritesChanges.isLegible {changes : List Change} {body : List (List Char)}
    (h : WritesChanges changes body)
    (hlines : ∀ change ∈ changes, IsLegible (lineText change.line)) :
    ∀ line ∈ body, IsLegible line := by
  induction h with
  | nil => nofun
  | @cons change changes written body hchange hrest ih =>
    intro line hmem
    rcases List.mem_append.1 hmem with hmem | hmem
    · exact hchange.isLegible (hlines change List.mem_cons_self) line hmem
    · exact ih (fun other hother ↦ hlines other (List.mem_cons_of_mem change hother)) line hmem

theorem newline_not_mem_toString (n : Nat) : '\n' ∉ (toString n).toList := fun hmem ↦
  absurd (isDigit_of_mem_toString hmem) (by decide)

theorem WritesSide.newline_not_mem {before count : Nat} {text : List Char}
    (h : WritesSide before count text) : '\n' ∉ text := by
  cases h with
  | full =>
    intro hmem
    rcases List.mem_append.1 hmem with hmem | hmem
    · exact newline_not_mem_toString _ hmem
    · rcases List.mem_cons.1 hmem with hcomma | hmem
      · exact absurd hcomma (by decide)
      · exact newline_not_mem_toString _ hmem
  | one hone => exact newline_not_mem_toString _

theorem isLegible_headerLine {before count before' count' : Nat} {old new : List Char}
    (hold : WritesSide before count old) (hnew : WritesSide before' count' new) :
    IsLegible (headerLine old new) := by
  have hopening : '\n' ∉ "@@ -".toList := by decide
  have hmiddle : '\n' ∉ " +".toList := by decide
  have hclosing : '\n' ∉ " @@".toList := by decide
  refine ⟨?_, ?_⟩
  · simp only [headerLine, List.mem_append, not_or]
    exact ⟨hopening, hold.newline_not_mem, hmiddle, hnew.newline_not_mem, hclosing⟩
  · have hlast : (headerLine old new).getLast? = some '@' := by
      simp only [headerLine, ← List.append_assoc]
      rw [List.getLast?_append]
      rfl
    rw [hlast]
    decide

theorem WritesExcerpts.isLegible {excerpts : List Excerpt} {lines : List (List Char)}
    (h : WritesExcerpts excerpts lines)
    (hlines : ∀ excerpt ∈ excerpts, ∀ change ∈ excerpt.changes,
      IsLegible (lineText change.line)) :
    ∀ line ∈ lines, IsLegible line := by
  induction h with
  | nil => nofun
  | @cons excerpt excerpts old new body rest hold hnew hbody hrest ih =>
    intro line hmem
    rcases List.mem_cons.1 hmem with rfl | hmem
    · exact isLegible_headerLine hold hnew
    rcases List.mem_append.1 hmem with hmem | hmem
    · exact hbody.isLegible (hlines excerpt List.mem_cons_self) line hmem
    · exact ih (fun other hother ↦ hlines other (List.mem_cons_of_mem excerpt hother)) line hmem

/-- A written difference is a patch: its hunks are the excerpts, and it is noted whether they show
lines that lack their newline. Assumes: there is an excerpt, its numbers fit machine words, and its
lines are read as they are written. -/
theorem parse_of_writes {excerpts : List Excerpt} {text : String} (h : Writes excerpts text)
    (hne : excerpts ≠ []) (hfits : ∀ excerpt ∈ excerpts, excerpt.Fits)
    (hlines : ∀ excerpt ∈ excerpts, ∀ change ∈ excerpt.changes,
      IsLegible (lineText change.line)) :
    parse text = .ok
      { target := none
        hunks := excerpts.map Excerpt.hunk
        newUnterminated := (excerpts.flatMap Excerpt.newLines).any isOpenLine
        oldUnterminated := (excerpts.flatMap Excerpt.oldLines).any isOpenLine } := by
  obtain ⟨lines, hwrites, htext⟩ := h
  obtain ⟨final, hread, htruncation, htarget, hhunks, hnew, hold⟩ :=
    Reading.readLines_excerpts hwrites (rfl : Reading.empty.truncation? = none) hfits 1
  have hsome : final.hunks.isEmpty = false := by
    rw [hhunks, List.isEmpty_eq_false_iff]
    exact fun hnil ↦ hne (List.map_eq_nil_iff.1 hnil)
  rw [parse, htext, contentLines_flatMap (hwrites.isLegible hlines), hread]
  simp only [Reading.finish, htruncation, hsome, Bool.false_eq_true, if_false]
  rw [hhunks, htarget, hnew, hold]
  rfl

/-! ### Applying what is read -/

/-- The lines of an excerpt apply where its old lines stand: they give its new lines. -/
theorem applyLines_entries (hunk : Nat) (changes : List Change) (position : Nat)
    (rest : List String) :
    applyLines hunk (changes.map Change.entry) position ((oldSide changes).map bare ++ rest) =
      .ok ((newSide changes).map bare, rest, position + (oldSide changes).length) := by
  induction changes generalizing position with
  | nil => rfl
  | cons change changes ih =>
    cases change with
    | same line =>
      show applyLines hunk (.context (bare line) :: _) position
        (bare line :: ((oldSide changes).map bare ++ rest)) = _
      rw [applyLines, if_pos rfl, ih, Nat.add_assoc, Nat.add_comm 1]
      rfl
    | removed line =>
      show applyLines hunk (.removed (bare line) :: _) position
        (bare line :: ((oldSide changes).map bare ++ rest)) = _
      rw [applyLines, if_pos rfl, ih, Nat.add_assoc, Nat.add_comm 1]
      rfl
    | added line =>
      show applyLines hunk (.added (bare line) :: _) position
        ((oldSide changes).map bare ++ rest) = _
      rw [applyLines, ih]
      rfl

/-- A hunk names the place of its excerpt. -/
theorem before_hunk (excerpt : Excerpt) : excerpt.hunk.before = excerpt.oldBefore := by
  show (if excerpt.oldLines.length = 0 then startNumber _ _ else startNumber _ _ - 1) = _
  unfold startNumber
  split <;> rfl

/-- The hunks of excerpts that turn one file into another apply to the one and give the other. -/
theorem applyHunks_of_turns {oldBefore newBefore lineCount : Nat} {excerpts : List Excerpt}
    {old new : List (List Char)} (h : Turns oldBefore newBefore excerpts old new)
    (hcount : lineCount = oldBefore + old.length) (number : Nat) :
    applyHunks lineCount (excerpts.map Excerpt.hunk) number oldBefore (old.map bare) =
      .ok (new.map bare) := by
  induction h generalizing number with
  | rest => rfl
  | @excerpt oldBefore newBefore excerpt excerpts gap old new hold hnew hrest ih =>
    have hplace : (decide (excerpt.oldBefore < oldBefore) ||
        decide (lineCount < excerpt.oldBefore)) = false := by
      simp only [List.length_append] at hcount
      simp only [Bool.or_eq_false_iff, decide_eq_false_iff_not]
      omega
    have hskipped : excerpt.oldBefore - oldBefore = (gap.map bare).length := by
      rw [List.length_map]
      omega
    have hlines : applyLines number excerpt.hunk.lines excerpt.oldBefore
        (excerpt.oldLines.map bare ++ old.map bare) =
          .ok (excerpt.newLines.map bare, old.map bare,
            excerpt.oldBefore + excerpt.oldLines.length) :=
      applyLines_entries number excerpt.changes excerpt.oldBefore (old.map bare)
    have htail := ih (by simp only [List.length_append] at hcount; omega) (number + 1)
    rw [List.map_cons, applyHunks, before_hunk, hplace, hskipped, List.append_assoc,
      List.append_assoc, List.map_append, List.map_append, List.map_append, List.map_append]
    simp only [Bool.false_eq_true, if_false, List.drop_left, List.take_left, hlines]
    show (applyHunks lineCount (excerpts.map Excerpt.hunk) (number + 1)
      (excerpt.oldBefore + excerpt.oldLines.length) (old.map bare) >>= _) = _
    rw [htail]
    show Except.ok (gap.map bare ++ excerpt.newLines.map bare ++ new.map bare) = _
    rw [List.append_assoc]

/-- A difference of two files, written as a patch, is read as one, and the patch applied to the old
file gives the new file. Assumes: there is an excerpt; no line of the files ends in a carriage
return, which would be read as a part of the line ending; and the files are no longer than a machine
word can count, as all texts in memory are. -/
theorem parse_apply_of_turns {old new text : String} {excerpts : List Excerpt}
    (hne : excerpts ≠ [])
    (hturns : Turns 0 0 excerpts (terminated old.toList) (terminated new.toList))
    (hold : ∀ line ∈ terminated old.toList, (lineText line).getLast? ≠ some '\r')
    (hnew : ∀ line ∈ terminated new.toList, (lineText line).getLast? ≠ some '\r')
    (holdSize : old.utf8ByteSize ≤ maxNumber) (hnewSize : new.utf8ByteSize ≤ maxNumber)
    (hwrites : Writes excerpts text) :
    ∃ patch, parse text = .ok patch ∧ patch.apply old = .ok new := by
  have hfits : ∀ excerpt ∈ excerpts, excerpt.Fits := by
    intro excerpt hexcerpt
    obtain ⟨hle, hle'⟩ := hturns.excerpt_le excerpt hexcerpt
    have hlength := length_terminated_le old.toList
    have hlength' := length_terminated_le new.toList
    have hbytes := length_le_utf8ByteSize old
    have hbytes' := length_le_utf8ByteSize new
    constructor <;> omega
  have hlines : ∀ excerpt ∈ excerpts, ∀ change ∈ excerpt.changes,
      IsLegible (lineText change.line) := by
    intro excerpt hexcerpt change hchange
    obtain ⟨holdMem, hnewMem⟩ := hturns.mem_of_mem_excerpt excerpt hexcerpt
    have hmem : change.line ∈ terminated old.toList ∨ change.line ∈ terminated new.toList := by
      cases change with
      | same line => exact .inl (holdMem line (List.mem_filterMap.2 ⟨_, hchange, rfl⟩))
      | removed line => exact .inl (holdMem line (List.mem_filterMap.2 ⟨_, hchange, rfl⟩))
      | added line => exact .inr (hnewMem line (List.mem_filterMap.2 ⟨_, hchange, rfl⟩))
    rcases hmem with hmem | hmem
    · exact ⟨newline_not_mem_lineText hmem, hold _ hmem⟩
    · exact ⟨newline_not_mem_lineText hmem, hnew _ hmem⟩
  refine ⟨_, parse_of_writes hwrites hne hfits hlines, ?_⟩
  have hhunks := applyHunks_of_turns hturns (Nat.zero_add _).symm 1
  rw [← fileLines_eq, ← fileLines_eq] at hhunks
  have hterminated := isTerminated_of_turns hturns
  show (applyHunks (fileLines old).length (excerpts.map Excerpt.hunk) 1 0 (fileLines old) >>= _) = _
  rw [fileLines_eq old, List.length_map, ← fileLines_eq, hhunks]
  show Except.ok (fileOfLines (fileLines new) (!_ && (_ || isTerminated old))) = _
  rw [← hterminated, fileOfLines_fileLines]

/-- Two excerpts: the first leaves out lengths of one; in the second an empty line has lost its mark
and the last line gets a newline. -/
theorem parse_apply_of_turns_unterminated :
    let text := "@@ -2 +2 @@\n-b\n+x\n@@ -4,2 +4,2 @@\n\n-d\n\\ No newline at end of file\n+d\n"
    ∃ patch, parse text = .ok patch ∧ patch.apply "a\nb\nc\n\nd" = .ok "a\nx\nc\n\nd\n" := by
  intro text
  let first : Excerpt := ⟨1, 1, [.removed ['b', '\n'], .added ['x', '\n']]⟩
  let second : Excerpt := ⟨3, 3, [.same ['\n'], .removed ['d'], .added ['d', '\n']]⟩
  have hturns : Turns 0 0 [first, second] (terminated "a\nb\nc\n\nd".toList)
      (terminated "a\nx\nc\n\nd\n".toList) :=
    @Turns.excerpt 0 0 first [second] [['a', '\n']] _ _ rfl rfl
      (@Turns.excerpt 2 2 second [] [['c', '\n']] _ _ rfl rfl (.rest _ _ []))
  have hwrites : Writes [first, second] text := by
    refine ⟨_, .cons (.one rfl) (.one rfl) (.cons (.removed _) (.cons (.added _) .nil))
      (.cons .full .full (.cons .blank (.cons (.removed _) (.cons (.added _) .nil))) .nil), ?_⟩
    decide
  exact parse_apply_of_turns (by decide) hturns (by decide) (by decide) (by decide) (by decide)
    hwrites

end Runbook.Patch
