import Runbook.Build.Progress
import Runbook.Machine.Act
/-!
# Schedules

A schedule says how far all lineages have got. Each lineage runs its chapters one after the other
and asks for a turn before each of them; turns are had in the order in which they were asked for, no
more at once than the schedule allows. Once a chapter has failed the others are given up: what is
being run goes on only to the next place at which it would wait, and nothing else is begun.

`Schedule.moves` lists the steps that can be taken next, and a host chooses one of them each time,
so the hosts stand for all orders in which lineages can go on. `Schedule.run` takes steps until
there are none; every step takes the schedule down in an order without endless descents
(`Schedule.step?_precedes`).
-/

set_option autoImplicit false

namespace Runbook.Build

open Machine

/-- How far all lineages have got. -/
structure Schedule where
  /-- How many chapters may be run at once. -/
  limit : Nat
  /-- The places of the lineages that wait for their turn, in order. -/
  queue : List Nat
  lineages : List Progress
  /-- The first failure of a chapter. -/
  failure : Option BuildError
  /-- Whether the chapters are given up. -/
  isGivenUp : Bool

/-- A step of a schedule. -/
inductive Move where
  /-- A lineage asks for its next turn. -/
  | enqueue (place : Nat)
  /-- A lineage has its turn. -/
  | start (place : Nat)
  /-- A request of the chapter that a lineage runs is answered. -/
  | answer (place : Nat) (request : Request)
  /-- The chapters are given up. -/
  | giveUp
deriving DecidableEq, Repr

/-- What a host knows of a step. -/
def Move.possibleStep : Move → PossibleStep
  | answer _ request => some request
  | _ => none

namespace Schedule

/-- The greatest number of turns that can be given out at once. There is no schedule with more, and
a build that asks for one comes to no result (`attempt`). -/
def maxTurns : Nat := Nat.pow 2 61 - 1

/-- The schedule of lineages that have not begun. At least one chapter may always be run. Assumes:
no more than `maxTurns` may be run at once. -/
def new (jobs : Nat) (lineages : List Lineage) : Schedule :=
  ⟨max jobs 1, [], lineages.map .ofLineage, none, false⟩

variable (schedule : Schedule)

/-- The number of chapters that are being run. -/
def running : Nat := schedule.lineages.countP Progress.isRunning

/-- The number of chapters that may be begun. -/
def free : Nat := schedule.limit - schedule.running

/-! ### Steps -/

/-- The step that a lineage can take. -/
def moveOf? (place : Nat) (progress : Progress) : Option Move :=
  match progress.stage with
  | .idle => if progress.rest.isEmpty || schedule.isGivenUp then none else some (.enqueue place)
  | .queued =>
    if schedule.isGivenUp then none
    else if schedule.queue.idxOf place < schedule.free then some (.start place)
    else none
  | .running (.ask request _) => some (.answer place request)
  | .running (.done _) => none
  | .stopped => none

/-- The steps that can be taken. -/
def moves : List Move :=
  schedule.lineages.zipIdx.filterMap (fun (progress, place) => schedule.moveOf? place progress) ++
    if schedule.failure.isSome && !schedule.isGivenUp then [.giveUp] else []

/-- The failure that a run has come to. -/
def failureOf? : ChapterRun → Option BuildError
  | .done (.error error) => some error
  | _ => none

/-- The schedule once the chapter that a lineage runs has got as far as an act. -/
def reaching (place : Nat) (progress : Progress) (act : ChapterRun) : Schedule :=
  { schedule with
    lineages := schedule.lineages.set place (progress.reaching act)
    failure := schedule.failure <|> failureOf? act }

/-- The answer to a request of a chapter. -/
def reply {σ : Type} (host : Host σ) (state : σ) (request : Request) : request.Reply × σ :=
  match if schedule.isGivenUp then request.givenUp? else none with
  | some reply => (reply, state)
  | none => host.answer state request

/-- Takes a step, given how to run a chapter; `none` if it cannot be taken. -/
def step? {σ : Type} (runOf : Chapter → ChapterRun) (host : Host σ) (state : σ) :
    Move → Option (Schedule × σ)
  | .giveUp => if schedule.isGivenUp then none else
      some ({ schedule with isGivenUp := true }, state)
  | .enqueue place =>
    match schedule.lineages[place]? with
    | some ⟨.idle, rest, outputs⟩ =>
      some ({ schedule with
        lineages := schedule.lineages.set place ⟨.queued, rest, outputs⟩
        queue := schedule.queue ++ [place] }, state)
    | _ => none
  | .start place =>
    match schedule.lineages[place]? with
    | some ⟨.queued, numbered :: rest, outputs⟩ =>
      some ({ schedule with queue := schedule.queue.erase place }.reaching place
        ⟨.queued, numbered :: rest, outputs⟩ (runOf numbered.chapter), state)
    | _ => none
  | .answer place _ =>
    match schedule.lineages[place]? with
    | some ⟨.running (.ask request next), rest, outputs⟩ =>
      let (reply, state) := schedule.reply host state request
      some (schedule.reaching place ⟨.running (.ask request next), rest, outputs⟩ (next reply),
        state)
    | _ => none

/-! ### Order -/

/-- What is left of a schedule. -/
def remainder : Nat × List Progress :=
  (if schedule.isGivenUp then 0 else 1, schedule.lineages)

/-- Schedules, the further ones first. -/
instance : WellFoundedRelation Schedule :=
  invImage remainder (Prod.lex Nat.lt_wfRel ⟨_, Progress.onePrecedes_wellFounded⟩)

/-- Every step takes a schedule further. -/
theorem step?_precedes {σ : Type} {schedule after : Schedule} {runOf : Chapter → ChapterRun}
    {host : Host σ} {state next : σ} {move : Move}
    (taken : schedule.step? runOf host state move = some (after, next)) :
    WellFoundedRelation.rel after schedule := by
  cases move with
  | giveUp =>
    simp only [step?] at taken
    split at taken
    · cases taken
    · cases taken
      refine Prod.Lex.left _ _ ?_
      simp_all only [Bool.not_eq_true, ↓reduceIte, Bool.false_eq_true]
      exact Nat.zero_lt_one
  | enqueue place =>
    simp only [step?] at taken
    split at taken
    · next found =>
      cases taken
      exact Prod.Lex.right _ (Progress.onePrecedes_set found
        (Progress.precedes_of_stage rfl (Prod.Lex.left _ _ (by decide))))
    · cases taken
  | start place =>
    simp only [step?] at taken
    split at taken
    · next found =>
      cases taken
      exact Prod.Lex.right _ (Progress.onePrecedes_set found
        (Progress.reaching_precedes (Prod.Lex.left _ _ (by decide))))
    · cases taken
  | answer place request =>
    simp only [step?] at taken
    split at taken
    · next found =>
      cases taken
      exact Prod.Lex.right _ (Progress.onePrecedes_set found
        (Progress.reaching_precedes (Prod.Lex.right _ ⟨_, _, _, rfl, rfl⟩)))
    · cases taken

/-! ### Runs -/

/-- Takes the step that a host chooses; `none` if there is none. -/
def advance? {σ : Type} (runOf : Chapter → ChapterRun) (host : Host σ) (state : σ) :
    Option (Schedule × σ) :=
  match schedule.moves with
  | [] => none
  | first :: others =>
    let (place, state) := host.choose state ((first :: others).map Move.possibleStep)
    schedule.step? runOf host state ((first :: others)[place]?.getD first)

/-- Every step that a host chooses takes a schedule further. -/
theorem advance?_precedes {σ : Type} {schedule after : Schedule} {runOf : Chapter → ChapterRun}
    {host : Host σ} {state next : σ}
    (taken : schedule.advance? runOf host state = some (after, next)) :
    WellFoundedRelation.rel after schedule := by
  unfold advance? at taken
  split at taken
  · cases taken
  · exact step?_precedes taken

/-- Takes steps until there are none. -/
def run {σ : Type} (runOf : Chapter → ChapterRun) (host : Host σ)
    (schedule : Schedule) (state : σ) : Schedule × σ :=
  match _taken : schedule.advance? runOf host state with
  | none => (schedule, state)
  | some (after, state) => run runOf host after state
termination_by schedule
decreasing_by exact advance?_precedes _taken

/-- What the chapters have come to: all that are finished, in order, unless one has failed. -/
def result : Except BuildError (List Output) :=
  match schedule.failure with
  | some error => .error error
  | none =>
    .ok ((schedule.lineages.flatMap Progress.outputs).mergeSort fun a b => a.index ≤ b.index)

end Schedule

end Runbook.Build
