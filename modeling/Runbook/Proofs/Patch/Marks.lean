import Runbook.Proofs.Patch.Application
import Runbook.Proofs.Patch.Reading
/-!
# Marks at the end of a file

A line of a patch that starts with a backslash marks the line of a hunk before it: that line is the
last one of its file and has no newline. `marks` gives the lines of a patch that are marked, by
their place in the hunks (`Spot`). A patch that has been read keeps no more of this than two
answers, whether a line of the old side and whether one of the new side is marked. One line that is
read adds to them what it marks (`Reading.notes_of_lineStep`), so all lines do
(`Reading.notes_readLines`), and `unterminated_of_parse` recovers the two answers from the marks of
the text.

The line of the old file on which a line of the old side falls is `oldPlace?`; when a patch applies
no two lines fall on one (`oldPlace?_inj`). `EndAgrees` is what a comparison of the marks with the
end of the file would ask. The program asks nothing of it, and `apply_ignores_marks` says what it
does instead.
-/

set_option autoImplicit false

namespace Runbook.Patch

open Text

/-! ### Lines of hunks by their place -/

/-- The place of a line in the hunks of a patch: the number of the hunk and the number of the line
in it, both from zero. -/
structure Spot where
  hunk : Nat
  line : Nat
deriving DecidableEq, Repr

/-- A place comes before another in the order in which the lines are written. -/
def Spot.IsBefore (spot other : Spot) : Prop :=
  spot.hunk < other.hunk ∨ spot.hunk = other.hunk ∧ spot.line < other.line

theorem Spot.trichotomy (spot other : Spot) :
    spot.IsBefore other ∨ spot = other ∨ other.IsBefore spot := by
  rcases Nat.lt_trichotomy spot.hunk other.hunk with hlt | hhunk | hgt
  · exact .inl (.inl hlt)
  · rcases Nat.lt_trichotomy spot.line other.line with hlt | hline | hgt
    · exact .inl (.inr ⟨hhunk, hlt⟩)
    · exact .inr (.inl (congrArg₂ Spot.mk hhunk hline))
    · exact .inr (.inr (.inr ⟨hhunk.symm, hgt⟩))
  · exact .inr (.inr (.inl hgt))

/-- The line at a place. -/
def lineAt? (hunks : List Hunk) (spot : Spot) : Option HunkLine :=
  hunks[spot.hunk]?.bind fun hunk ↦ hunk.lines[spot.line]?

/-- The line of the old file, counted from zero, on which the line at a place falls if it is one of
the old side. -/
def oldPlace? (hunks : List Hunk) (spot : Spot) : Option Nat :=
  hunks[spot.hunk]?.bind fun hunk ↦ hunk.lines[spot.line]?.bind fun line ↦
    if line.inOld then some (hunk.before + (HunkLine.oldTexts (hunk.lines.take spot.line)).length)
    else none

/-- Whether a line of some side is at one of some places. -/
def anyAt (side : HunkLine → Bool) (hunks : List Hunk) (spots : List Spot) : Bool :=
  spots.any fun spot ↦ (lineAt? hunks spot).any side

/-! ### Lines that stay where they are -/

/-- The lines of hunks are at the same places in other hunks. -/
def LinesStay (hunks others : List Hunk) : Prop :=
  ∀ spot line, lineAt? hunks spot = some line → lineAt? others spot = some line

theorem LinesStay.refl (hunks : List Hunk) : LinesStay hunks hunks := fun _ _ h ↦ h

theorem LinesStay.trans {first middle last : List Hunk} (hfirst : LinesStay first middle)
    (hlast : LinesStay middle last) : LinesStay first last :=
  fun spot line h ↦ hlast spot line (hfirst spot line h)

theorem linesStay_append (hunks more : List Hunk) : LinesStay hunks (hunks ++ more) := by
  intro spot line h
  obtain ⟨hunk, hhunk, hline⟩ := Option.bind_eq_some_iff.1 h
  refine Option.bind_eq_some_iff.2 ⟨hunk, ?_, hline⟩
  obtain ⟨hlt, -⟩ := List.getElem?_eq_some_iff.1 hhunk
  rw [List.getElem?_append_left hlt, hhunk]

/-- Lines stay when more are written at the end of the last hunk. -/
theorem linesStay_extend (earlier : List Hunk) (hunk : Hunk) (entry : HunkLine) :
    LinesStay (earlier ++ [hunk]) (earlier ++ [extend hunk entry]) := by
  intro spot line h
  obtain ⟨found, hfound, hline⟩ := Option.bind_eq_some_iff.1 h
  rcases Nat.lt_trichotomy spot.hunk earlier.length with hlt | heq | hgt
  · refine Option.bind_eq_some_iff.2 ⟨found, ?_, hline⟩
    rw [List.getElem?_append_left hlt] at hfound ⊢
    exact hfound
  · rw [heq, List.getElem?_concat_length] at hfound
    obtain rfl := Option.some.inj hfound
    refine Option.bind_eq_some_iff.2 ⟨extend hunk entry, ?_, ?_⟩
    · rw [heq, List.getElem?_concat_length]
    · obtain ⟨hlt, -⟩ := List.getElem?_eq_some_iff.1 hline
      change (hunk.lines ++ [entry])[spot.line]? = _
      rw [List.getElem?_append_left hlt, hline]
  · rw [List.getElem?_eq_none (by rw [List.length_append, List.length_singleton]; omega)] at hfound
    cases hfound

/-! ### The two answers -/

theorem anyAt_append (side : HunkLine → Bool) (hunks : List Hunk) (spots others : List Spot) :
    anyAt side hunks (spots ++ others) = (anyAt side hunks spots || anyAt side hunks others) :=
  List.any_append

/-- Places have lines of a side still where lines stay. Assumes: there are lines at the places. -/
theorem anyAt_of_linesStay {hunks others : List Hunk} {spots : List Spot}
    (hstay : LinesStay hunks others) (hat : ∀ spot ∈ spots, (lineAt? hunks spot).isSome)
    (side : HunkLine → Bool) : anyAt side others spots = anyAt side hunks spots := by
  rw [anyAt, anyAt, Bool.eq_iff_iff, List.any_eq_true, List.any_eq_true]
  refine exists_congr fun spot ↦ and_congr_right fun hspot ↦ ?_
  obtain ⟨line, hline⟩ := Option.isSome_iff_exists.1 (hat spot hspot)
  rw [hstay spot line hline, hline]

namespace Reading

/-- The place of the line that was read last into a hunk. -/
def lastSpot? (reading : Reading) : Option Spot :=
  reading.last.bind fun hunk ↦
    if hunk.lines.isEmpty then none else some ⟨reading.earlier.length, hunk.lines.length - 1⟩

/-- The place of the line that a line of the text marks. -/
def marked? (reading : Reading) (line : List Char) : Option Spot :=
  if line.head? = some '\\' then reading.lastSpot? else none

/-- The places that are marked while lines are read. -/
def marks (reading : Reading) : Nat → List (List Char) → List Spot
  | _, [] => []
  | number, line :: lines =>
    (reading.marked? line).toList ++
      match reading.readLine number line with
      | .error _ => []
      | .ok next => next.marks (number + 1) lines

variable {reading next : Reading} {number : Nat} {line : List Char} {spots : List Spot}

/-- What reading adds: the lines that have been read stay, and the two answers take in the places
that are marked. -/
structure Notes (reading next : Reading) (spots : List Spot) : Prop where
  stay : LinesStay reading.hunks next.hunks
  /-- What is marked is a line. -/
  atLine : ∀ spot ∈ spots, (lineAt? next.hunks spot).isSome
  new_eq : next.newUnterminated =
    (reading.newUnterminated || anyAt HunkLine.inNew next.hunks spots)
  old_eq : next.oldUnterminated =
    (reading.oldUnterminated || anyAt HunkLine.inOld next.hunks spots)

/-- Reading that marks nothing. -/
theorem Notes.nothing (hstay : LinesStay reading.hunks next.hunks)
    (hnew : next.newUnterminated = reading.newUnterminated)
    (hold : next.oldUnterminated = reading.oldUnterminated) : Notes reading next [] :=
  ⟨hstay, nofun, hnew.trans (Bool.or_false _).symm, hold.trans (Bool.or_false _).symm⟩

/-- Reading that changes no hunk and marks nothing. -/
theorem Notes.same (hearlier : next.earlier = reading.earlier) (hlast : next.last = reading.last)
    (hnew : next.newUnterminated = reading.newUnterminated)
    (hold : next.oldUnterminated = reading.oldUnterminated) : Notes reading next [] := by
  have hhunks : next.hunks = reading.hunks := by rw [hunks, hunks, hearlier, hlast]
  exact .nothing (hhunks ▸ .refl _) hnew hold

theorem Notes.trans {middle : Reading} {others : List Spot} (h : Notes reading middle spots)
    (hrest : Notes middle next others) : Notes reading next (spots ++ others) := by
  have hkept := anyAt_of_linesStay hrest.stay h.atLine
  refine ⟨h.stay.trans hrest.stay, fun spot hspot ↦ ?_, ?_, ?_⟩
  · rcases List.mem_append.1 hspot with hspot | hspot
    · obtain ⟨line, hline⟩ := Option.isSome_iff_exists.1 (h.atLine spot hspot)
      rw [hrest.stay spot line hline]
      rfl
    · exact hrest.atLine spot hspot
  · rw [hrest.new_eq, h.new_eq, anyAt_append, hkept, Bool.or_assoc]
  · rw [hrest.old_eq, h.old_eq, anyAt_append, hkept, Bool.or_assoc]

theorem lineAt?_lastSpot? {spot : Spot} (h : reading.lastSpot? = some spot) :
    lineAt? reading.hunks spot = reading.last.bind fun hunk ↦ hunk.lines.getLast? := by
  obtain ⟨hunk, hlast, hspot⟩ := Option.bind_eq_some_iff.1 h
  split at hspot
  · cases hspot
  · obtain rfl := Option.some.inj hspot
    rw [lineAt?, hunks, hlast]
    change ((reading.earlier ++ [hunk])[reading.earlier.length]?).bind _ = hunk.lines.getLast?
    rw [List.getElem?_concat_length, List.getLast?_eq_getElem?]
    rfl

/-- A mark adds the sides of the line that was read last. -/
theorem notes_noteUnterminated (reading : Reading) :
    Notes reading reading.noteUnterminated reading.lastSpot?.toList := by
  cases hspot : reading.lastSpot? with
  | none =>
    have hnone : (reading.last.bind fun hunk ↦ hunk.lines.getLast?) = none := by
      cases hlast : reading.last with
      | none => rfl
      | some hunk =>
        cases hlines : hunk.lines with
        | nil => exact congrArg List.getLast? hlines
        | cons entry lines => simp [lastSpot?, hlast, hlines] at hspot
    have hsame : reading.noteUnterminated = reading := by rw [noteUnterminated, hnone]
    rw [hsame]
    exact .same rfl rfl rfl rfl
  | some spot =>
    have hat := lineAt?_lastSpot? hspot
    obtain ⟨hunk, hlast, hlines⟩ := Option.bind_eq_some_iff.1 hspot
    split at hlines
    · cases hlines
    next hne =>
    obtain ⟨entry, hentry⟩ : ∃ entry, hunk.lines.getLast? = some entry :=
      Option.isSome_iff_exists.1 (by simpa using hne)
    have hlast' : (reading.last.bind fun hunk ↦ hunk.lines.getLast?) = some entry := by
      rw [hlast]
      exact hentry
    rw [hlast'] at hat
    have hany (side : HunkLine → Bool) : anyAt side reading.hunks [spot] = side entry := by
      rw [anyAt, List.any_cons, hat, List.any_nil, Bool.or_false]
      rfl
    have hnote : reading.noteUnterminated = { reading with
        newUnterminated := reading.newUnterminated || entry.inNew
        oldUnterminated := reading.oldUnterminated || entry.inOld } := by
      rw [noteUnterminated, hlast']
    rw [hnote]
    refine ⟨.refl _, fun other hother ↦ ?_, ?_, ?_⟩
    · rw [List.mem_singleton.1 hother]
      change (lineAt? reading.hunks spot).isSome = true
      rw [hat]
      rfl
    · exact congrArg (reading.newUnterminated || ·) (hany HunkLine.inNew).symm
    · exact congrArg (reading.oldUnterminated || ·) (hany HunkLine.inOld).symm

/-- What one line of the text adds. -/
theorem notes_of_lineStep (hstep : reading.LineStep line next) :
    Notes reading next (reading.marked? line).toList := by
  have hunmarked (hmark : line.head? ≠ some '\\') : reading.marked? line = none := if_neg hmark
  cases hstep with
  | opened hline _ _ _ =>
    rw [hunmarked]
    · exact .nothing (linesStay_append _ _) rfl rfl
    · intro hmark
      rw [header?_eq_none (by rw [hmark]; decide)] at hline
      cases hline
  | marked hmark =>
    rw [marked?, if_pos hmark]
    exact notes_noteUnterminated reading
  | outside _ hmark =>
    rw [hunmarked hmark]
    exact .same rfl rfl rfl rfl
  | extended hlast hmark _ _ =>
    rw [hunmarked hmark]
    refine .nothing ?_ rfl rfl
    rw [hunks, hlast]
    exact linesStay_extend reading.earlier _ _

/-- What all lines of the text add. -/
theorem notes_readLines {lines : List (List Char)} (h : reading.readLines number lines = .ok next) :
    Notes reading next (reading.marks number lines) := by
  induction lines generalizing reading number with
  | nil =>
    cases h
    exact .same rfl rfl rfl rfl
  | cons line lines ih =>
    rw [readLines] at h
    split at h
    · cases h
    next between hline =>
      have hmarks : reading.marks number (line :: lines) =
          (reading.marked? line).toList ++ between.marks (number + 1) lines := by
        rw [marks, hline]
      rw [hmarks]
      exact (notes_of_lineStep (lineStep_of_readLine hline)).trans (ih h)

end Reading

/-- The places that are marked in the text of a patch. -/
def marks (text : String) : List Spot := Reading.empty.marks 1 (contentLines text.toList)

/-- The two answers that a patch keeps are those that the marks of its text give, and what is marked
is a line of a hunk. -/
theorem unterminated_of_parse {text : String} {patch : Patch} (h : parse text = .ok patch) :
    patch.newUnterminated = anyAt HunkLine.inNew patch.hunks (marks text) ∧
    patch.oldUnterminated = anyAt HunkLine.inOld patch.hunks (marks text) ∧
    ∀ spot ∈ marks text, (lineAt? patch.hunks spot).isSome := by
  obtain ⟨reading, hread, -, -, rfl⟩ := exists_of_parse h
  have hnotes := Reading.notes_readLines hread
  exact ⟨hnotes.new_eq, hnotes.old_eq, hnotes.atLine⟩

/-! ### Where lines of the old side fall -/

section Places

variable {hunks : List Hunk} {entries : List HunkLine} {entry : HunkLine} {lines : List String}
  {spot other : Spot} {place patched n k : Nat}

/-- The texts of the old side are cut at each of its lines. -/
theorem oldTexts_eq (hentry : entries[n]? = some entry) (hold : entry.inOld = true) :
    HunkLine.oldTexts entries = HunkLine.oldTexts (entries.take n) ++
      entry.text :: HunkLine.oldTexts (entries.drop (n + 1)) := by
  obtain ⟨hlt, hget⟩ := List.getElem?_eq_some_iff.1 hentry
  have hsplit : entries = entries.take n ++ entry :: entries.drop (n + 1) := by
    rw [← hget, ← List.drop_eq_getElem_cons hlt, List.take_append_drop]
  rw [HunkLine.oldTexts, hsplit, List.filter_append, List.map_append, List.filter_cons_of_pos hold]
  rw [← hsplit]
  rfl

/-- Before a later line there are more texts of the old side. -/
theorem length_oldTexts_take_lt (hentry : entries[n]? = some entry) (hold : entry.inOld = true)
    (hlt : n < k) :
    (HunkLine.oldTexts (entries.take n)).length < (HunkLine.oldTexts (entries.take k)).length := by
  have hentry' : (entries.take k)[n]? = some entry := by rw [List.getElem?_take_of_lt hlt, hentry]
  rw [oldTexts_eq hentry' hold, List.take_take, Nat.min_eq_left hlt.le, List.length_append,
    List.length_cons]
  omega

theorem oldPlace?_eq_some_iff : oldPlace? hunks spot = some place ↔ ∃ hunk line,
    hunks[spot.hunk]? = some hunk ∧ hunk.lines[spot.line]? = some line ∧ line.inOld = true ∧
      hunk.before + (HunkLine.oldTexts (hunk.lines.take spot.line)).length = place := by
  simp only [oldPlace?, Option.bind_eq_some_iff, Option.ite_none_right_eq_some, Option.some.injEq]
  constructor
  · rintro ⟨hunk, hhunk, line, hline, hold, hplace⟩
    exact ⟨hunk, line, hhunk, hline, hold, hplace⟩
  · rintro ⟨hunk, line, hhunk, hline, hold, hplace⟩
    exact ⟨hunk, hhunk, line, hline, hold, hplace⟩

/-- A line of the old side is one that falls on a line of the old file. -/
theorem anyAt_inOld_iff {spots : List Spot} : anyAt HunkLine.inOld hunks spots = true ↔
    ∃ spot ∈ spots, ∃ place, oldPlace? hunks spot = some place := by
  rw [anyAt, List.any_eq_true]
  refine exists_congr fun spot ↦ and_congr_right fun _ ↦ ?_
  simp only [oldPlace?_eq_some_iff, lineAt?, Option.any_eq_true, Option.bind_eq_some_iff]
  constructor
  · rintro ⟨line, ⟨hunk, hhunk, hline⟩, hold⟩
    exact ⟨_, hunk, line, hhunk, hline, hold, rfl⟩
  · rintro ⟨place, hunk, line, hhunk, hline, hold, -⟩
    exact ⟨line, ⟨hunk, hhunk, hline⟩, hold⟩

theorem FitFrom.le_before (h : FitFrom patched hunks lines) :
    ∀ hunk ∈ hunks, patched ≤ hunk.before := by
  induction hunks generalizing patched with
  | nil => nofun
  | cons first hunks ih =>
    obtain ⟨hfirst, hrest⟩ := fitFrom_cons.1 h
    intro hunk hhunk
    rcases List.mem_cons.1 hhunk with rfl | hhunk
    · exact hfirst.patched_le
    · exact (hfirst.patched_le.trans (Nat.le_add_right _ _)).trans (ih hrest hunk hhunk)

/-- The ranges of hunks that fit follow each other. -/
theorem FitFrom.pairwise (h : FitFrom patched hunks lines) :
    hunks.Pairwise fun hunk later ↦ hunk.past ≤ later.before := by
  induction hunks generalizing patched with
  | nil => exact .nil
  | cons first hunks ih =>
    obtain ⟨-, hrest⟩ := fitFrom_cons.1 h
    exact .cons hrest.le_before (ih hrest)

theorem FitFrom.fitsAfter {hunk : Hunk} (h : FitFrom patched hunks lines)
    (hhunk : hunks[n]? = some hunk) : ∃ before, hunk.FitsAfter before lines := by
  obtain ⟨earlier, later, hsplit⟩ := List.append_of_mem (List.mem_of_getElem? hhunk)
  exact ⟨_, h earlier hunk later hsplit⟩

/-- A line of the old side stands in the file where it falls. -/
theorem getElem?_of_oldPlace? (hfit : Fit hunks lines)
    (hplace : oldPlace? hunks spot = some place) :
    lines[place]? = (lineAt? hunks spot).map HunkLine.text := by
  obtain ⟨hunk, line, hhunk, hline, hold, rfl⟩ := oldPlace?_eq_some_iff.1 hplace
  obtain ⟨before, hfits⟩ := FitFrom.fitsAfter hfit hhunk
  obtain ⟨rest, hrest⟩ := hfits.standing
  rw [lineAt?, hhunk, Option.bind_some, hline, Option.map_some, ← List.getElem?_drop, ← hrest,
    oldTexts_eq hline hold, List.append_assoc, List.getElem?_append_right (Nat.le_refl _),
    Nat.sub_self]
  rfl

/-- A line of the old side falls into the range of its hunk. Assumes: the hunks are complete. -/
theorem oldPlace?_lt_past {hunk : Hunk} (hcomplete : ∀ hunk ∈ hunks, hunk.IsComplete)
    (hplace : oldPlace? hunks spot = some place) (hhunk : hunks[spot.hunk]? = some hunk) :
    hunk.before ≤ place ∧ place < hunk.past := by
  obtain ⟨found, line, hfound, hline, hold, rfl⟩ := oldPlace?_eq_some_iff.1 hplace
  obtain rfl := Option.some.inj (hfound.symm.trans hhunk)
  have hlength := (hcomplete found (List.mem_of_getElem? hfound)).length_oldTexts
  rw [oldTexts_eq hline hold, List.length_append, List.length_cons] at hlength
  unfold Hunk.past
  omega

/-- A line of the old side before another falls on an earlier line. Assumes: the hunks fit and are
complete. -/
theorem oldPlace?_lt_of_isBefore {later : Nat} (hfit : Fit hunks lines)
    (hcomplete : ∀ hunk ∈ hunks, hunk.IsComplete) (hbefore : spot.IsBefore other)
    (hspot : oldPlace? hunks spot = some place) (hother : oldPlace? hunks other = some later) :
    place < later := by
  obtain ⟨hunk, line, hhunk, hline, hold, hplace⟩ := oldPlace?_eq_some_iff.1 hspot
  obtain ⟨hunk', line', hhunk', hline', hold', hlater⟩ := oldPlace?_eq_some_iff.1 hother
  rcases hbefore with hlt | ⟨heq, hlt⟩
  · obtain ⟨hbound, hget⟩ := List.getElem?_eq_some_iff.1 hhunk
    obtain ⟨hbound', hget'⟩ := List.getElem?_eq_some_iff.1 hhunk'
    have hranges := List.pairwise_iff_getElem.1 (FitFrom.pairwise hfit) _ _ hbound hbound' hlt
    rw [hget, hget'] at hranges
    calc place < hunk.past := (oldPlace?_lt_past hcomplete hspot hhunk).2
      _ ≤ hunk'.before := hranges
      _ ≤ later := (oldPlace?_lt_past hcomplete hother hhunk').1
  · rw [heq] at hhunk
    obtain rfl := Option.some.inj (hhunk.symm.trans hhunk')
    have hmore := length_oldTexts_take_lt hline hold hlt
    omega

/-- No two lines of the old side fall on one line. Assumes: the hunks fit and are complete. -/
theorem oldPlace?_inj (hfit : Fit hunks lines) (hcomplete : ∀ hunk ∈ hunks, hunk.IsComplete)
    (hspot : oldPlace? hunks spot = some place) (hother : oldPlace? hunks other = some place) :
    spot = other := by
  rcases spot.trichotomy other with hbefore | heq | hafter
  · exact absurd (oldPlace?_lt_of_isBefore hfit hcomplete hbefore hspot hother) (Nat.lt_irrefl _)
  · exact heq
  · exact absurd (oldPlace?_lt_of_isBefore hfit hcomplete hafter hother hspot) (Nat.lt_irrefl _)

end Places

/-! ### Marks and the end of the file -/

/-- What a comparison of the marks of a patch with the end of a file would ask. -/
structure EndAgrees (text : String) (patch : Patch) (content : String) : Prop where
  /-- The last line of the file lacks its newline exactly when the line of the patch that falls on
  it, if there is one, is marked. -/
  last : ∀ spot place, oldPlace? patch.hunks spot = some place →
    place + 1 = (fileLines content).length → (isTerminated content = false ↔ spot ∈ marks text)
  /-- A marked line of the old side falls on the last line of the file. -/
  marked : ∀ spot ∈ marks text, ∀ place, oldPlace? patch.hunks spot = some place →
    place + 1 = (fileLines content).length

/-- Whether the marks of a patch agree with the end of a file comes down to where the marked lines
of the old side fall and, if a line falls on the last one, to whether any of the old side is marked.
Assumes: the patch has been read and its hunks fit. -/
theorem endAgrees_iff {text : String} {patch : Patch} {content : String}
    (hparse : parse text = .ok patch) (hfit : Fit patch.hunks (fileLines content)) :
    EndAgrees text patch content ↔
      (∀ spot ∈ marks text, ∀ place, oldPlace? patch.hunks spot = some place →
        place + 1 = (fileLines content).length) ∧
      ∀ spot place, oldPlace? patch.hunks spot = some place →
        place + 1 = (fileLines content).length →
        (isTerminated content = false ↔ anyAt HunkLine.inOld patch.hunks (marks text) = true) := by
  -- The line on the last one is the only one that can be marked.
  have hmark : (∀ spot ∈ marks text, ∀ place, oldPlace? patch.hunks spot = some place →
      place + 1 = (fileLines content).length) → ∀ spot place,
      oldPlace? patch.hunks spot = some place → place + 1 = (fileLines content).length →
      (spot ∈ marks text ↔ anyAt HunkLine.inOld patch.hunks (marks text) = true) := by
    intro hmarked spot place hplace hlength
    rw [anyAt_inOld_iff]
    refine ⟨fun hspot ↦ ⟨spot, hspot, place, hplace⟩, ?_⟩
    rintro ⟨other, hother, place', hplace'⟩
    obtain rfl : place = place' := by
      have := hmarked other hother place' hplace'
      omega
    rwa [oldPlace?_inj hfit (isComplete_of_parse hparse) hplace hplace']
  refine ⟨fun ⟨hlast, hmarked⟩ ↦ ⟨hmarked, fun spot place hplace hlength ↦ ?_⟩,
    fun ⟨hmarked, hend⟩ ↦ ⟨fun spot place hplace hlength ↦ ?_, hmarked⟩⟩
  · exact (hlast spot place hplace hlength).trans (hmark hmarked spot place hplace hlength)
  · exact (hend spot place hplace hlength).trans (hmark hmarked spot place hplace hlength).symm

/-- What a patch that applies has to do with the end of the file. Each line of the old side stands,
as a text, where it falls in the file. The marks decide on the last newline of the result alone: it
is there unless a line of the new side is marked, and then if one of the old side is or the file
ended in one. Whether the patch applies depends neither on the marks nor on how the file ends: other
marks on the same hunks and another end of the same lines are accepted as well. So the marks agree
with the end of the file only if it happens that each marked line of the old side falls on the last
line and that, if a line falls on it, the file lacks its newline exactly when one is marked.
Assumes: the patch has been read from a text. -/
theorem apply_ignores_marks {text : String} {patch : Patch} (hparse : parse text = .ok patch)
    {content result : String} (happly : patch.apply content = .ok result) :
    let lines := fileLines content
    let newMarked := anyAt HunkLine.inNew patch.hunks (marks text)
    let oldMarked := anyAt HunkLine.inOld patch.hunks (marks text)
    (∀ spot place, oldPlace? patch.hunks spot = some place →
      lines[place]? = (lineAt? patch.hunks spot).map HunkLine.text) ∧
    result = fileOfLines (replaced patch.hunks lines)
      (!newMarked && (oldMarked || isTerminated content)) ∧
    (∀ (other : Patch) file, other.hunks = patch.hunks → fileLines file = lines →
      ∃ result, other.apply file = .ok result) ∧
    (EndAgrees text patch content ↔
      (∀ spot ∈ marks text, ∀ place, oldPlace? patch.hunks spot = some place →
        place + 1 = lines.length) ∧
      ∀ spot place, oldPlace? patch.hunks spot = some place → place + 1 = lines.length →
        (isTerminated content = false ↔ oldMarked = true)) := by
  intro lines newMarked oldMarked
  have hcomplete := isComplete_of_parse hparse
  obtain ⟨hnew, hold, -⟩ := unterminated_of_parse hparse
  obtain ⟨hfit, hresult⟩ := fit_of_apply hcomplete happly
  refine ⟨fun spot place ↦ getElem?_of_oldPlace? hfit, ?_, fun other file hhunks hlines ↦ ?_,
    endAgrees_iff hparse hfit⟩
  · rw [hresult, hnew, hold]
  · refine ⟨_, apply_of_fit (hhunks ▸ hcomplete) ?_⟩
    rw [hhunks, hlines]
    exact hfit

/-- The last line is one of both files and marked. The patch applies to a file that ends as the mark
says, and to the one that does not. -/
theorem apply_ignores_marks_context :
    let text := "@@ -1,2 +1,2 @@\n-a\n+b\n c\n\\ No newline at end of file\n"
    ∃ patch, parse text = .ok patch ∧ patch.apply "a\nc" = .ok "b\nc" ∧
      EndAgrees text patch "a\nc" ∧ ∃ result, patch.apply "a\nc\n" = .ok result := by
  intro text
  let hunk : Hunk := ⟨1, 2, 1, 2, [.removed "a", .added "b", .context "c"]⟩
  have hparse : parse text = .ok ⟨none, [hunk], true, true⟩ := by decide +kernel
  have hmarks : marks text = [⟨0, 2⟩] := by decide +kernel
  have happly : Patch.apply ⟨none, [hunk], true, true⟩ "a\nc" = .ok "b\nc" := by decide
  obtain ⟨-, -, hothers, hagrees⟩ := apply_ignores_marks hparse happly
  refine ⟨_, hparse, happly, hagrees.2 ⟨fun spot hspot place hplace ↦ ?_, fun _ _ _ _ ↦ ?_⟩,
    hothers _ "a\nc\n" rfl (by decide)⟩
  · rw [hmarks, List.mem_singleton] at hspot
    rw [hspot] at hplace
    obtain rfl : 1 = place := Option.some.inj hplace
    decide
  · rw [hmarks]
    decide

/-- A line that is removed from the end of a file stands there without its newline, and the patch
does not mark it. In another patch a line is marked that is not the last one. Both patches apply. -/
theorem apply_end_differs :
    let text := "@@ -1 +1 @@\n-a\n+b\n"
    let inMiddle := "@@ -1 +1 @@\n-a\n\\ No newline at end of file\n+x\n"
    (∃ patch, parse text = .ok patch ∧ patch.apply "a" = .ok "b" ∧ ¬EndAgrees text patch "a") ∧
    ∃ patch, parse inMiddle = .ok patch ∧ patch.apply "a\nb\n" = .ok "x\nb\n" ∧
      ¬EndAgrees inMiddle patch "a\nb\n" := by
  intro text inMiddle
  let hunk : Hunk := ⟨1, 1, 1, 1, [.removed "a", .added "b"]⟩
  let other : Hunk := ⟨1, 1, 1, 1, [.removed "a", .added "x"]⟩
  have hparse : parse text = .ok ⟨none, [hunk], false, false⟩ := by decide +kernel
  have hparse' : parse inMiddle = .ok ⟨none, [other], false, true⟩ := by decide +kernel
  have hmarks : marks text = [] := by decide +kernel
  have hmarks' : marks inMiddle = [⟨0, 0⟩] := by decide +kernel
  refine ⟨⟨_, hparse, by decide, fun hagrees ↦ ?_⟩, ⟨_, hparse', by decide, fun hagrees ↦ ?_⟩⟩
  · have hmem := (hagrees.last ⟨0, 0⟩ 0 rfl (by decide)).1 (by decide)
    rw [hmarks] at hmem
    cases hmem
  · have hlength := hagrees.marked ⟨0, 0⟩ (by rw [hmarks']; exact List.mem_singleton_self _) 0 rfl
    exact absurd hlength (by decide)

end Runbook.Patch
