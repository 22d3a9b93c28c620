import Runbook.Build.Chapter
/-!
# Lineages and their progress

Chapters that run in one directory depend on what the others leave there, so they are run one after
the other, in order. `lineages` puts chapters with equal directories together; paths are equal when
their components are, and the lineages are in the order of their directories.

How far a lineage has got: which of its chapters are finished, which are still to be run, and what
it is doing. `Progress.Precedes` puts the progress of a lineage before all that it was before. Every
step takes a lineage down in this order, which has no endless descents
(`Progress.precedes_wellFounded`), so a lineage comes to an end however its chapters are answered.
-/

set_option autoImplicit false

namespace Runbook.Build

open Machine

/-! ### Lineages -/

/-- A chapter and its place among all chapters. -/
structure Numbered where
  index : Nat
  chapter : Chapter
deriving DecidableEq, Repr

/-- The chapters of one directory, in order. -/
structure Lineage where
  workdir : String
  chapters : List Numbered
deriving DecidableEq, Repr

namespace Lineage

/-- Adds a chapter to the lineage of its directory, or a new lineage at its place. -/
def add (numbered : Numbered) : List Lineage → List Lineage
  | [] => [⟨numbered.chapter.workdir, [numbered]⟩]
  | lineage :: lineages =>
    let workdir := numbered.chapter.workdir
    if Path.components workdir = Path.components lineage.workdir then
      { lineage with chapters := lineage.chapters ++ [numbered] } :: lineages
    else if Path.isBefore workdir lineage.workdir then
      ⟨workdir, [numbered]⟩ :: lineage :: lineages
    else lineage :: add numbered lineages

end Lineage

/-- Chapters with their places. -/
def numberedFrom : Nat → List Chapter → List Numbered
  | _, [] => []
  | index, chapter :: chapters => ⟨index, chapter⟩ :: numberedFrom (index + 1) chapters

/-- The lineages of chapters. -/
def lineages (chapters : List Chapter) : List Lineage :=
  (numberedFrom 0 chapters).foldl (fun lineages numbered => Lineage.add numbered lineages) []

/-! ### Progress -/

/-- The run of a chapter, which comes to the finished chapter. -/
abbrev ChapterRun := Act (Except BuildError String)

/-- A finished chapter. -/
structure Output where
  /-- The place of the chapter among all chapters. -/
  index : Nat
  /-- The path of the chapter in the directory of chapters. -/
  path : String
  markdown : String
deriving DecidableEq, Repr

/-- What a lineage is doing. -/
inductive Stage where
  /-- It has not asked for its next turn. -/
  | idle
  /-- It waits for its next turn. -/
  | queued
  /-- The first of the chapters that are left is being run. -/
  | running (act : ChapterRun)
  /-- A chapter has failed. -/
  | stopped

/-- What a lineage has still to do at a stage, as a number and an act. -/
def Stage.remainder : Stage → Nat × ChapterRun
  | .idle => (3, .done (.ok ""))
  | .queued => (2, .done (.ok ""))
  | .running act => (1, act)
  | .stopped => (0, .done (.ok ""))

/-- How far a lineage has got. -/
structure Progress where
  stage : Stage
  /-- The chapters that are not finished, in order. -/
  rest : List Numbered
  /-- The chapters that are finished, in order. -/
  outputs : List Output

namespace Progress

/-- The progress of a lineage that has not begun. -/
def ofLineage (lineage : Lineage) : Progress := ⟨.idle, lineage.chapters, []⟩

/-- Whether a chapter is being run. -/
def isRunning (progress : Progress) : Bool :=
  match progress.stage with
  | .running _ => true
  | _ => false

/-- The progress once the chapter that is being run has got as far as an act. -/
def reaching (progress : Progress) : ChapterRun → Progress
  | .ask request next => { progress with stage := .running (.ask request next) }
  | .done (.ok markdown) =>
    match progress.rest with
    | [] => { progress with stage := .stopped }
    | numbered :: rest =>
      { stage := .idle
        rest
        outputs := progress.outputs ++ [⟨numbered.index, numbered.chapter.path, markdown⟩] }
  | .done (.error _) => { progress with stage := .stopped }

/-! ### Order -/

/-- What a lineage has still to do. -/
def remainder (progress : Progress) : Nat × Nat × ChapterRun :=
  (progress.rest.length, Stage.remainder progress.stage)

/-- One progress comes after another. -/
def Precedes (later earlier : Progress) : Prop :=
  Prod.Lex (· < ·) (Prod.Lex (· < ·) Act.IsRest) later.remainder earlier.remainder

/-- A lineage cannot go on for ever. -/
theorem precedes_wellFounded : WellFounded Precedes :=
  InvImage.wf remainder
    (Prod.lex Nat.lt_wfRel (Prod.lex Nat.lt_wfRel ⟨_, Act.isRest_wellFounded⟩)).wf

/-- Nothing but the stage has changed, and to one further on. -/
theorem precedes_of_stage {later earlier : Progress} (same : later.rest = earlier.rest)
    (further : Prod.Lex (· < ·) Act.IsRest later.stage.remainder earlier.stage.remainder) :
    later.Precedes earlier := by
  unfold Precedes remainder
  rw [same]
  exact Prod.Lex.right _ further

/-- A lineage that reaches an act goes on if a stage at which the act is run would. -/
theorem reaching_precedes {progress : Progress} {act : ChapterRun}
    (further : Prod.Lex (· < ·) Act.IsRest (1, act) progress.stage.remainder) :
    (progress.reaching act).Precedes progress := by
  have stopped : Prod.Lex (· < ·) Act.IsRest (Stage.remainder .stopped)
      progress.stage.remainder := by
    generalize progress.stage.remainder = before at further ⊢
    refine Prod.Lex.left _ _ ?_
    cases further with
    | left _ _ below => exact Nat.zero_lt_of_lt below
    | right _ _ => exact Nat.one_pos
  match act with
  | .ask _ _ => exact precedes_of_stage rfl further
  | .done (.error _) => exact precedes_of_stage rfl stopped
  | .done (.ok _) =>
    obtain ⟨stage, rest, outputs⟩ := progress
    cases rest with
    | nil => exact precedes_of_stage rfl stopped
    | cons numbered rest => exact Prod.Lex.left _ _ (Nat.lt_succ_self _)

/-- One of several lineages has gone on. -/
inductive OnePrecedes : List Progress → List Progress → Prop where
  | head {later earlier : Progress} (rest : List Progress) (h : later.Precedes earlier) :
    OnePrecedes (later :: rest) (earlier :: rest)
  | tail {later earlier : List Progress} (first : Progress) (h : OnePrecedes later earlier) :
    OnePrecedes (first :: later) (first :: earlier)

/-- Several lineages cannot go on for ever. -/
theorem onePrecedes_wellFounded : WellFounded OnePrecedes := by
  refine ⟨fun all => ?_⟩
  induction all with
  | nil => exact ⟨_, fun _ h => nomatch h⟩
  | cons first rest ih =>
    have reached := precedes_wellFounded.apply first
    induction reached generalizing rest with
    | intro first _ ihFirst =>
      induction ih with
      | intro rest accRest ihRest =>
        refine ⟨_, fun later h => ?_⟩
        cases h with
        | head _ h => exact ihFirst _ h rest ⟨_, accRest⟩
        | tail _ h => exact ihRest _ h

/-- Replacing the progress at one place by a later one is going on. -/
theorem onePrecedes_set {all : List Progress} {place : Nat} {later earlier : Progress}
    (found : all[place]? = some earlier) (h : later.Precedes earlier) :
    OnePrecedes (all.set place later) all := by
  induction all generalizing place with
  | nil => simp at found
  | cons first rest ih =>
    cases place with
    | zero =>
      simp only [List.getElem?_cons_zero, Option.some.injEq] at found
      subst found
      exact .head rest h
    | succ place => exact .tail first (ih (by simpa using found))

end Progress

end Runbook.Build
