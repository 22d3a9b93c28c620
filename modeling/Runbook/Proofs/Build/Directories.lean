import Runbook.Proofs.Build.Order
import Runbook.Proofs.Path.Normal
/-!
# Chapters in one directory

Chapters that are run in one directory find what those before them have left there, so they must not
be run side by side. What a build keeps apart are the chapters of one lineage (`InTurn`), and two
chapters are in one lineage when the components of their directories are the same
(`sameLineage_iff`). The same components lead to the same place. The converse needs the directories
to be followed down only: a step up is kept as a component, so a place that is reached by way of one
has many spellings and is not recognized (`chapters_inTurn_sideways`).
-/

set_option autoImplicit false

namespace Runbook.Build

open Machine Session

/-! ### One lineage -/

/-- Two chapters are in one lineage. -/
def SameLineage (chapters : List Chapter) (first second : Nat) : Prop :=
  ∃ lineage ∈ lineages chapters, first ∈ lineage.chapters.map Numbered.index ∧
    second ∈ lineage.chapters.map Numbered.index

section Lineages

variable {chapters : List Chapter} {earlier later : Nat} {first second : Chapter}

theorem mem_map_index_iff {lineage : Lineage} (hlineage : lineage ∈ lineages chapters)
    (hfirst : chapters[earlier]? = some first) :
    earlier ∈ lineage.chapters.map Numbered.index ↔
      Path.components first.workdir = Path.components lineage.workdir := by
  rw [List.mem_map]
  constructor
  · rintro ⟨numbered, hnumbered, rfl⟩
    obtain ⟨hchapter, howns⟩ := (mem_lineage_iff hlineage).1 hnumbered
    obtain rfl := Option.some.inj (hchapter.symm.trans hfirst)
    exact howns
  · intro howns
    exact ⟨⟨earlier, first⟩, (mem_lineage_iff hlineage).2 ⟨hfirst, howns⟩, rfl⟩

/-- Chapters are in one lineage when the components of their directories are the same. -/
theorem sameLineage_iff (hfirst : chapters[earlier]? = some first)
    (hsecond : chapters[later]? = some second) : SameLineage chapters earlier later ↔
      Path.components first.workdir = Path.components second.workdir := by
  constructor
  · rintro ⟨lineage, hlineage, hearlier, hlater⟩
    exact ((mem_map_index_iff hlineage hfirst).1 hearlier).trans
      ((mem_map_index_iff hlineage hsecond).1 hlater).symm
  · intro hsame
    obtain ⟨lineage, hlineage, hmem⟩ := exists_mem_lineage hfirst
    have howns := ((mem_lineage_iff hlineage).1 hmem).2
    exact ⟨lineage, hlineage, (mem_map_index_iff hlineage hfirst).2 howns,
      (mem_map_index_iff hlineage hsecond).2 (hsame.symm.trans howns)⟩

end Lineages

/-! ### Runs in turn -/

/-- Two chapters are run one after the other. -/
structure InTurn (earlier later : Nat) (past : List Event) : Prop where
  /-- The later one begins only when the earlier one has finished. -/
  waits : Along (fun before event ↦
    event = .began later → ∃ markdown, .finished earlier markdown ∈ before) past
  /-- Once the later one has begun, the earlier one neither begins nor ends. -/
  apart : Along (fun before event ↦
    event.chapter? = some earlier → .began later ∉ before) past

/-- In a history that is in order, chapters in one directory are run one after the other. -/
theorem Along.inTurn {chapters : List Chapter} {past : List Event} {earlier later : Nat}
    {first second : Chapter} (h : Along (Lawful chapters) past)
    (hfirst : chapters[earlier]? = some first) (hsecond : chapters[later]? = some second)
    (hlt : earlier < later)
    (hsame : Path.components first.workdir = Path.components second.workdir) :
    InTurn earlier later past := by
  have hwaits : ∀ before after, past = before ++ .began later :: after →
      ∃ markdown, .finished earlier markdown ∈ before := by
    intro before after hsplit
    obtain ⟨-, chapter, hchapter, hearlier⟩ := h before _ after hsplit
    obtain rfl := Option.some.inj (hchapter.symm.trans hsecond)
    exact hearlier earlier hlt first hfirst hsame
  refine ⟨fun before event after hsplit hevent ↦ ?_,
    fun before event after hsplit hchapter hbegan ↦ ?_⟩
  · exact hwaits before after (hevent ▸ hsplit)
  · -- The earlier chapter has finished, so it has begun and ended, and this would be a third event.
    obtain ⟨start, rest, rfl⟩ := List.append_of_mem hbegan
    rw [List.append_assoc] at hsplit
    obtain ⟨markdown, hfinished⟩ := hwaits start _ hsplit
    rw [← List.append_assoc] at hsplit
    have hbefore : Along (Lawful chapters) ((start ++ .began later :: rest) ++ [event]) := by
      rw [hsplit, List.append_cons] at h
      exact h.of_append
    have htwo := hbefore.of_append.ofChapter_finished (List.mem_append_left _ hfinished)
    have honce := hbefore.atMostOnce earlier
    rw [AtMostOnce, ofChapter_concat_of_eq hchapter, htwo] at honce
    rcases honce with hnone | hone | ⟨last, -, hboth⟩
    · cases hnone
    · cases hone
    · cases hboth

/-! ### One place -/

/-- A chapter names its directory, if at all, by a path that leads down from that of the project. -/
def Chapter.GoesDown (chapter : Chapter) : Prop :=
  ∀ directory, chapter.document.frontmatter.bind Document.Frontmatter.workdir = some directory →
    Path.isAbsolute directory = false ∧ Path.Component.parent ∉ Path.components directory

section Places

variable {σ : Type} {host : Host σ} {settings : Settings} {state : σ} {chapters : List Chapter}
  {earlier later : Nat} {first second : Chapter}

/-- The directory of a chapter that is found is the one that its document names. -/
theorem workdir_of_discover (h : ((discover settings).on host state).1 = .ok chapters) :
    ∀ chapter ∈ chapters, chapter.workdir = Chapter.workdirOf settings chapter.document := by
  intro chapter hchapter
  rw [discover_on] at h
  split at h
  · obtain ⟨finding, hjudged⟩ := exists_judged (chaptersFrom_ok .nil h).1 chapter hchapter
    cases hjudged
    rfl
  · cases h

/-- The directory of a chapter that leads down from that of the project. -/
theorem Chapter.GoesDown.exists_components_eq (h : first.GoesDown)
    (hproject : settings.projectDir ≠ "")
    (hworkdir : first.workdir = Chapter.workdirOf settings first.document) :
    ∃ names : List String, Path.components first.workdir =
      Path.components settings.projectDir ++ names.map Path.Component.normal := by
  rw [hworkdir, Chapter.workdirOf]
  split
  · next directory hdirectory =>
    obtain ⟨hrelative, hup⟩ := h directory hdirectory
    exact Path.exists_components_join_eq hproject hrelative hup
  · exact ⟨[], (List.append_nil _).symm⟩

/-- Chapters in one place whose directories are followed down only have the same components. -/
theorem components_workdir_eq (h : ((discover settings).on host state).1 = .ok chapters)
    (hfirst : first ∈ chapters) (hsecond : second ∈ chapters)
    (hdown : Path.IsDirect first.workdir ∧ Path.IsDirect second.workdir ∨
      settings.projectDir ≠ "" ∧ first.GoesDown ∧ second.GoesDown)
    (hplace : Path.place first.workdir = Path.place second.workdir) :
    Path.components first.workdir = Path.components second.workdir := by
  rcases hdown with ⟨hfirstDirect, hsecondDirect⟩ | ⟨hproject, hfirstDown, hsecondDown⟩
  · exact Path.components_eq_of_place_eq hfirstDirect hsecondDirect hplace
  · obtain ⟨names, hnames⟩ :=
      hfirstDown.exists_components_eq hproject (workdir_of_discover h first hfirst)
    obtain ⟨others, hothers⟩ :=
      hsecondDown.exists_components_eq hproject (workdir_of_discover h second hsecond)
    exact Path.components_eq_of_append hnames hothers hplace

/-- What a build does with two chapters by their directories, for every number of chapters that may
be run at once and every order in which the host lets them go on. They are in one lineage exactly
when the components of their directories are the same. Then the directories are one place and the
chapters are run one after the other, in order. Two chapters whose directories are one place are in
one lineage when both directories are followed down only, or both lead down from that of the
project. -/
theorem chapters_inTurn (h : ((discover settings).on host state).1 = .ok chapters)
    (hfirst : chapters[earlier]? = some first) (hsecond : chapters[later]? = some second)
    (hlt : earlier < later) :
    (SameLineage chapters earlier later ↔
      Path.components first.workdir = Path.components second.workdir) ∧
    (SameLineage chapters earlier later →
      Path.place first.workdir = Path.place second.workdir ∧
        InTurn earlier later (history host settings state)) ∧
    (Path.place first.workdir = Path.place second.workdir →
      (Path.IsDirect first.workdir ∧ Path.IsDirect second.workdir ∨
        settings.projectDir ≠ "" ∧ first.GoesDown ∧ second.GoesDown) →
      SameLineage chapters earlier later ∧ InTurn earlier later (history host settings state)) := by
  have hlineage := sameLineage_iff hfirst hsecond
  have hturn : SameLineage chapters earlier later →
      InTurn earlier later (history host settings state) := fun hsame ↦
    (course_of_discover h).lawful.inTurn hfirst hsecond hlt (hlineage.1 hsame)
  refine ⟨hlineage, fun hsame ↦ ⟨?_, hturn hsame⟩, fun hplace hdown ↦ ?_⟩
  · rw [Path.place, Path.place, hlineage.1 hsame]
  · have hsame := hlineage.2 (components_workdir_eq h (List.mem_of_getElem? hfirst)
      (List.mem_of_getElem? hsecond) hdown hplace)
    exact ⟨hsame, hturn hsame⟩

/-- Two spellings of one directory and the directory above it, on a machine on which all goes
well. -/
theorem chapters_inTurn_spellings :
    let host : Host Nat := .answering (fun state _ ↦ (state % 2, state + 1)) fun
      | .entries _ => Except.ok [("a.md", .file), ("b.md", .file), ("c.md", .file)]
      | .readText path => Except.ok (if path = "chapters/a.md" then "---\ncwd: app/api\n---\n"
          else if path = "chapters/b.md" then "---\ncwd: ./app//api/.\n---\n"
          else "---\ncwd: app\n---\n")
      | request => request.easyReply
    let settings := { Settings.default with jobs := 2 }
    ∃ chapters, ((discover settings).on host 0).1 = .ok chapters ∧
      chapters.map Chapter.workdir = ["scratch/app/api", "scratch/./app//api/.", "scratch/app"] ∧
      SameLineage chapters 0 1 ∧ ¬SameLineage chapters 0 2 ∧
      InTurn 0 1 (history host settings 0) := by
  intro host settings
  obtain ⟨chapters, hchapters, hworkdirs⟩ : ∃ chapters,
      ((discover settings).on host 0).1 = .ok chapters ∧ chapters.map Chapter.workdir =
        ["scratch/app/api", "scratch/./app//api/.", "scratch/app"] :=
    exists_chapters_answering rfl rfl rfl (fun _ ↦ rfl)
      (by decide +kernel : ∀ name ∈ ["a.md", "b.md", "c.md"], isChapterName name = true)
      (by decide +kernel) (by decide +kernel) 0
  refine ⟨chapters, hchapters, hworkdirs, ?_⟩
  obtain ⟨first, rest, rfl, hfirst, hrest⟩ := List.map_eq_cons_iff.1 hworkdirs
  obtain ⟨second, rest, rfl, hsecond, hrest⟩ := List.map_eq_cons_iff.1 hrest
  obtain ⟨third, rest, rfl, hthird, -⟩ := List.map_eq_cons_iff.1 hrest
  have hzero : (first :: second :: third :: rest)[0]? = some first := rfl
  have hone : (first :: second :: third :: rest)[1]? = some second := rfl
  have htwo : (first :: second :: third :: rest)[2]? = some third := rfl
  have htogether := (chapters_inTurn hchapters hzero hone Nat.one_pos).2.2
  rw [hfirst, hsecond] at htogether
  obtain ⟨hsame, hturn⟩ := htogether (by decide +kernel)
    (.inl ⟨⟨by decide +kernel, by decide +kernel⟩, ⟨by decide +kernel, by decide +kernel⟩⟩)
  refine ⟨hsame, fun hapart ↦ ?_, hturn⟩
  have hcomponents := (sameLineage_iff hzero htwo).1 hapart
  rw [hfirst, hthird] at hcomponents
  exact absurd hcomponents (by decide +kernel)

/-- Two spellings of one directory, one of which goes up, on a machine on which all goes well. The
chapters are not in one lineage, and both are under way at once, the second one first. -/
theorem chapters_inTurn_sideways :
    let host : Host Nat := .answering (fun state _ ↦ (state % 2, state + 1)) fun
      | .entries _ => Except.ok [("a.md", .file), ("b.md", .file)]
      | .readText path => Except.ok (if path = "chapters/a.md"
          then "---\ncwd: x/../app\n---\n" else "---\ncwd: app\n---\n")
      | request => request.easyReply
    let settings := { Settings.default with jobs := 2 }
    ∃ first second, ((discover settings).on host 0).1 = .ok [first, second] ∧
      Path.place first.workdir = Path.place second.workdir ∧
      ¬SameLineage [first, second] 0 1 ∧
      ∃ before after, history host settings 0 = before ++ .began 1 :: .began 0 :: after ∧
        ∀ markdown, .finished 0 markdown ∉ before := by
  intro host settings
  obtain ⟨chapters, hchapters, hfound⟩ : ∃ chapters,
      ((discover settings).on host 0).1 = .ok chapters ∧
        (chapters.map Chapter.workdir, (Schedule.walk (fun chapter ↦ (chapter.run settings).run)
          host 4 (Schedule.new settings.jobs (lineages chapters)) 0).1) =
        (["scratch/x/../app", "scratch/app"], [.began 1, .began 0]) :=
    exists_chapters_answering rfl rfl rfl (fun _ ↦ rfl)
      (by decide +kernel : ∀ name ∈ ["a.md", "b.md"], isChapterName name = true)
      (by decide +kernel) (by decide +kernel) 0
  obtain ⟨hworkdirs, hevents⟩ := Prod.mk.inj hfound
  obtain ⟨first, rest, rfl, hfirst, hrest⟩ := List.map_eq_cons_iff.1 hworkdirs
  obtain ⟨second, rest, rfl, hsecond, hrest⟩ := List.map_eq_cons_iff.1 hrest
  obtain rfl := List.map_eq_nil_iff.1 hrest
  refine ⟨first, second, hchapters, ?_, fun hsame ↦ ?_, ?_⟩
  · rw [hfirst, hsecond]
    decide +kernel
  · have hzero : [first, second][0]? = some first := rfl
    have hone : [first, second][1]? = some second := rfl
    have hcomponents := (sameLineage_iff hzero hone).1 hsame
    rw [hfirst, hsecond] at hcomponents
    exact absurd hcomponents (by decide +kernel)
  · obtain ⟨after, hhistory⟩ := untilWriting_isPrefix hchapters ⟨fun _ _ ↦ rfl, fun _ _ _ ↦ rfl⟩
    have hstart : ((begin settings).run.on host 0).2 = 0 := Act.on_of_still (fun _ _ ↦ rfl) _ 0
    obtain ⟨later, hlater⟩ := Schedule.walk_isPrefix hevents
    rw [untilWriting, hstart, chaptersHistory, ← hlater] at hhistory
    refine ⟨beforeChapters host settings 0, later ++ after, ?_,
      fun markdown hfinished ↦ ?_⟩
    · rw [← hhistory]
      simp only [List.append_assoc, List.cons_append, List.nil_append]
    · obtain ⟨request, -, hsame⟩ := exists_of_mem_asked hfinished
      cases hsame

end Places

end Runbook.Build
