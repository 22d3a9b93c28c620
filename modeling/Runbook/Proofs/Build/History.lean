import Runbook.Build.Run
import Runbook.Proofs.Machine.Always
/-!
# Histories of builds

A build runs its chapters side by side, and what can be said about their order is said about its
history: the requests that the host has answered and the beginnings and ends of the chapters, in the
order in which they happened. `history` is read off the run that a host chooses; leaving out all but
the requests gives the requests of the build (`filterMap_request?_history`), so it is a history of
that very build and not of a model of it.

`Schedule.Steps` says once what a step can do, with its guards and its events, and everything about
schedules is derived from it. `Schedule.run_records` takes a relation between what has happened and
how far the lineages have got from steps to runs. `Schedule.AllRuns` is the simplest such relation:
a property that answers keep holds of everything that is run. `Along` says of each event of a
history something that depends on what has happened before it.
-/

set_option autoImplicit false

namespace Runbook

namespace Build

open Machine

variable {σ : Type}

/-! ### Events -/

/-- What happens in a build. -/
inductive Event where
  /-- The host answers a request. -/
  | asked (request : Request)
  /-- The run of the chapter with a number begins. -/
  | began (index : Nat)
  /-- The run of the chapter with a number ends with the finished chapter. -/
  | finished (index : Nat) (markdown : String)
  /-- The run of the chapter with a number ends with a failure. -/
  | failed (index : Nat) (error : BuildError)
deriving DecidableEq, Repr

namespace Event

/-- The request that is answered. -/
def request? : Event → Option Request
  | asked request => some request
  | _ => none

/-- The number of the chapter whose run begins or ends. -/
def chapter? : Event → Option Nat
  | asked _ => none
  | began index => some index
  | finished index _ => some index
  | failed index _ => some index

/-- Whether the run of a chapter begins. -/
def isBegan : Event → Bool
  | began _ => true
  | _ => false

/-- Whether the run of a chapter ends, in one way or the other. -/
def isEnded : Event → Bool
  | finished _ _ => true
  | failed _ _ => true
  | _ => false

theorem filterMap_request?_asked (requests : List Request) :
    (requests.map asked).filterMap request? = requests := by
  rw [List.filterMap_map]
  exact List.filterMap_some

end Event

/-- Something holds of each event of a history, given what has happened before it. -/
def Along (holds : List Event → Event → Prop) (history : List Event) : Prop :=
  ∀ before event after, history = before ++ event :: after → holds before event

section Along

variable {holds : List Event → Event → Prop} {past : List Event} {event : Event}

theorem along_nil : Along holds [] := by
  intro before event after h
  cases before <;> cases h

theorem Along.concat (h : Along holds past) (hevent : holds past event) :
    Along holds (past ++ [event]) := by
  intro before found after hsplit
  rcases List.eq_nil_or_concat after with rfl | ⟨rest, last, rfl⟩
  · obtain ⟨rfl, hfound⟩ := List.append_inj' hsplit rfl
    cases hfound
    exact hevent
  · rw [List.concat_eq_append, ← List.cons_append, ← List.append_assoc] at hsplit
    obtain ⟨hpast, -⟩ := List.append_inj' hsplit rfl
    exact h before found rest hpast

/-- Events that can come at any time from now on can come one after the other. -/
theorem Along.append {events : List Event} (h : Along holds past)
    (hevents : ∀ event ∈ events, ∀ later, holds (past ++ later) event) :
    Along holds (past ++ events) := by
  induction events generalizing past with
  | nil =>
    rw [List.append_nil]
    exact h
  | cons event events ih =>
    have hfirst : holds past event := by
      have hnow := hevents event List.mem_cons_self []
      rw [List.append_nil] at hnow
      exact hnow
    rw [List.append_cons]
    refine ih (h.concat hfirst) fun other hother later ↦ ?_
    rw [← List.append_cons]
    exact hevents other (List.mem_cons_of_mem event hother) (event :: later)

theorem Along.of_append {events : List Event} (h : Along holds (past ++ events)) :
    Along holds past := by
  rintro before event after rfl
  refine h before event (after ++ events) ?_
  rw [List.append_assoc, List.cons_append]

theorem along_of_forall (h : ∀ event ∈ past, ∀ before, holds before event) : Along holds past := by
  rintro before event after rfl
  exact h event (List.mem_append_right before List.mem_cons_self) before

end Along

/-! ### What a step can do -/

/-- The end of the run of the first of the chapters that are left, if it has got to its end. -/
def endsOf : List Numbered → ChapterRun → List Event
  | numbered :: _, .done (.ok markdown) => [.finished numbered.index markdown]
  | numbered :: _, .done (.error error) => [.failed numbered.index error]
  | _, _ => []

namespace Schedule

variable (schedule : Schedule) (runOf : Chapter → ChapterRun) (host : Host σ)

/-- A request that is not given up is answered by the host. -/
def asksOf (request : Request) : List Event :=
  match if schedule.isGivenUp then request.givenUp? else none with
  | some _ => []
  | none => [.asked request]

/-- The events of a step. -/
def eventsOf (state : σ) : Move → List Event
  | .giveUp => []
  | .enqueue _ => []
  | .start place =>
    match schedule.lineages[place]? with
    | some ⟨.queued, numbered :: rest, _⟩ =>
      .began numbered.index :: endsOf (numbered :: rest) (runOf numbered.chapter)
    | _ => []
  | .answer place _ =>
    match schedule.lineages[place]? with
    | some ⟨.running (.ask request next), rest, _⟩ =>
      schedule.asksOf request ++ endsOf rest (next (schedule.reply host state request).1)
    | _ => []

/-- The step that a host chooses; `none` if there is none. -/
def chosen? (state : σ) : Option (Move × σ) :=
  match schedule.moves with
  | [] => none
  | first :: others =>
    let (place, state) := host.choose state ((first :: others).map Move.possibleStep)
    some ((first :: others)[place]?.getD first, state)

/-- The events of the step that a host chooses. -/
def nextEvents (state : σ) : List Event :=
  match schedule.chosen? host state with
  | none => []
  | some (move, state) => schedule.eventsOf runOf host state move

/-- The events of a run. -/
def history (schedule : Schedule) (state : σ) : List Event :=
  match _taken : schedule.advance? runOf host state with
  | none => []
  | some (after, next) => schedule.nextEvents runOf host state ++ history after next
termination_by schedule
decreasing_by exact advance?_precedes _taken

/-- What a step can do, and its events. -/
inductive Steps (state : σ) : List Event → Schedule → σ → Prop where
  /-- The chapters are given up once one has failed. -/
  | giveUp (hfailed : schedule.failure.isSome = true) (hgoing : schedule.isGivenUp = false) :
    Steps state [] { schedule with isGivenUp := true } state
  /-- A lineage asks for a turn for its next chapter. -/
  | enqueue {place : Nat} {numbered : Numbered} {rest : List Numbered} {outputs : List Output}
    (hfound : schedule.lineages[place]? = some ⟨.idle, numbered :: rest, outputs⟩)
    (hgoing : schedule.isGivenUp = false) :
    Steps state []
      { schedule with
        lineages := schedule.lineages.set place ⟨.queued, numbered :: rest, outputs⟩
        queue := schedule.queue ++ [place] }
      state
  /-- A lineage has its turn when there are not more before it than chapters may be begun. -/
  | start {place : Nat} {numbered : Numbered} {rest : List Numbered} {outputs : List Output}
    (hfound : schedule.lineages[place]? = some ⟨.queued, numbered :: rest, outputs⟩)
    (hgoing : schedule.isGivenUp = false) (hfree : schedule.queue.idxOf place < schedule.free) :
    Steps state (.began numbered.index :: endsOf (numbered :: rest) (runOf numbered.chapter))
      ({ schedule with queue := schedule.queue.erase place }.reaching place
        ⟨.queued, numbered :: rest, outputs⟩ (runOf numbered.chapter))
      state
  /-- A request of the chapter that a lineage runs is answered. -/
  | answer {place : Nat} {request : Request} {next : request.Reply → ChapterRun}
    {rest : List Numbered} {outputs : List Output}
    (hfound : schedule.lineages[place]? = some ⟨.running (.ask request next), rest, outputs⟩) :
    Steps state
      (schedule.asksOf request ++ endsOf rest (next (schedule.reply host state request).1))
      (schedule.reaching place ⟨.running (.ask request next), rest, outputs⟩
        (next (schedule.reply host state request).1))
      (schedule.reply host state request).2

end Schedule

section Runs

variable {schedule after : Schedule} {runOf : Chapter → ChapterRun} {host : Host σ} {state next : σ}
  {move : Move}

/-- A step can be taken because of a lineage, or because a chapter has failed. -/
theorem Schedule.mem_moves (h : move ∈ schedule.moves) :
    (∃ place progress, schedule.lineages[place]? = some progress ∧
      schedule.moveOf? place progress = some move) ∨
    move = .giveUp ∧ schedule.failure.isSome = true ∧ schedule.isGivenUp = false := by
  rcases List.mem_append.1 h with h | h
  · left
    obtain ⟨⟨progress, place⟩, hmem, hmove⟩ := List.mem_filterMap.1 h
    exact ⟨place, progress, List.mem_zipIdx_iff_getElem?.1 hmem, hmove⟩
  · right
    split at h
    · next hguard =>
      rw [Bool.and_eq_true, Bool.not_eq_true'] at hguard
      exact ⟨List.mem_singleton.1 h, hguard⟩
    · cases h

theorem Schedule.mem_moves_of_chosen? (h : schedule.chosen? host state = some (move, next)) :
    move ∈ schedule.moves := by
  unfold Schedule.chosen? at h
  split at h
  · cases h
  · next first others hmoves =>
    cases h
    rw [hmoves]
    cases hplace : (first :: others)[(host.choose state
        ((first :: others).map Move.possibleStep)).1]? with
    | none => exact List.mem_cons_self
    | some found => exact List.mem_of_getElem? hplace

theorem Schedule.advance?_eq (schedule : Schedule) (runOf : Chapter → ChapterRun) (host : Host σ)
    (state : σ) :
    schedule.advance? runOf host state =
      (schedule.chosen? host state).bind fun (move, state) ↦
        schedule.step? runOf host state move := by
  unfold Schedule.advance? Schedule.chosen?
  cases schedule.moves <;> rfl

/-- A step that is taken is one of those that can be. -/
theorem Schedule.steps_of_step? (hmove : move ∈ schedule.moves)
    (htaken : schedule.step? runOf host state move = some (after, next)) :
    schedule.Steps runOf host state (schedule.eventsOf runOf host state move) after next := by
  rcases mem_moves hmove with ⟨place, progress, hfound, hmoveOf⟩ | ⟨rfl, hfailed, hgoing⟩
  · obtain ⟨stage, rest, outputs⟩ := progress
    simp only [moveOf?] at hmoveOf
    cases stage with
    | idle =>
      simp only at hmoveOf
      split at hmoveOf
      · cases hmoveOf
      · next hguard =>
        cases hmoveOf
        rw [Bool.or_eq_true, not_or, Bool.not_eq_true, Bool.not_eq_true] at hguard
        cases rest with
        | nil => cases hguard.1
        | cons numbered rest =>
          simp only [step?, hfound] at htaken
          cases htaken
          exact .enqueue hfound hguard.2
    | queued =>
      simp only at hmoveOf
      split at hmoveOf
      · cases hmoveOf
      · next hgoing =>
        split at hmoveOf
        · next hfree =>
          cases hmoveOf
          cases rest with
          | nil =>
            simp only [step?, hfound] at htaken
            cases htaken
          | cons numbered rest =>
            simp only [step?, hfound] at htaken
            cases htaken
            simp only [eventsOf, hfound]
            exact .start hfound (Bool.of_not_eq_true hgoing) hfree
        · cases hmoveOf
    | running act =>
      cases act with
      | done result => cases hmoveOf
      | ask request next =>
        cases hmoveOf
        simp only [step?, hfound] at htaken
        cases htaken
        simp only [eventsOf, hfound]
        exact .answer hfound
    | stopped => cases hmoveOf
  · simp only [step?, hgoing] at htaken
    cases htaken
    exact .giveUp hfailed hgoing

/-- A schedule goes on by a choice of the host and a step. -/
theorem Schedule.steps_of_advance? (h : schedule.advance? runOf host state = some (after, next)) :
    ∃ steps, schedule.Steps runOf host (host.choose state steps).2
      (schedule.nextEvents runOf host state) after next := by
  rw [advance?_eq] at h
  obtain ⟨⟨move, reached⟩, hchosen, htaken⟩ := Option.bind_eq_some_iff.1 h
  have hsteps := steps_of_step? (mem_moves_of_chosen? hchosen) htaken
  rw [nextEvents, hchosen]
  refine ⟨schedule.moves.map Move.possibleStep, ?_⟩
  have hreached : (host.choose state (schedule.moves.map Move.possibleStep)).2 = reached := by
    unfold chosen? at hchosen
    split at hchosen
    · cases hchosen
    · next hmoves =>
      cases hchosen
      rw [hmoves]
  rw [hreached]
  exact hsteps

theorem Schedule.run_of_none (h : schedule.advance? runOf host state = none) :
    schedule.run runOf host state = (schedule, state) := by
  rw [run]
  split
  · rfl
  · next htaken => rw [h] at htaken; cases htaken

theorem Schedule.run_of_some (h : schedule.advance? runOf host state = some (after, next)) :
    schedule.run runOf host state = after.run runOf host next := by
  rw [run]
  split
  · next htaken => rw [h] at htaken; cases htaken
  · next htaken => rw [h] at htaken; cases htaken; rfl

theorem Schedule.history_of_none (h : schedule.advance? runOf host state = none) :
    schedule.history runOf host state = [] := by
  rw [history]
  split
  · rfl
  · next htaken => rw [h] at htaken; cases htaken

theorem Schedule.history_of_some (h : schedule.advance? runOf host state = some (after, next)) :
    schedule.history runOf host state =
      schedule.nextEvents runOf host state ++ after.history runOf host next := by
  rw [history]
  split
  · next htaken => rw [h] at htaken; cases htaken
  · next htaken => rw [h] at htaken; cases htaken; rfl

/-- The first steps of a run, at most some number of them: their events, and what they come to. -/
def Schedule.walk (runOf : Chapter → ChapterRun) (host : Host σ) :
    Nat → Schedule → σ → List Event × Schedule × σ
  | 0, schedule, state => ([], schedule, state)
  | steps + 1, schedule, state =>
    match schedule.advance? runOf host state with
    | none => ([], schedule, state)
    | some (after, next) =>
      let (events, last) := walk runOf host steps after next
      (schedule.nextEvents runOf host state ++ events, last)

/-- A run goes on from its first steps, which can be followed without knowing that it ends. -/
theorem Schedule.walk_run {steps : Nat} {events : List Event}
    (h : Schedule.walk runOf host steps schedule state = (events, after, next)) :
    schedule.history runOf host state = events ++ after.history runOf host next ∧
      schedule.run runOf host state = after.run runOf host next := by
  induction steps generalizing schedule state events with
  | zero =>
    cases h
    exact ⟨rfl, rfl⟩
  | succ steps ih =>
    rw [Schedule.walk] at h
    split at h
    · cases h
      exact ⟨rfl, rfl⟩
    · next second reached hadvance =>
      generalize hwalk : Schedule.walk runOf host steps second reached = walked at h
      obtain ⟨more, last⟩ := walked
      cases h
      obtain ⟨hhistory, hrun⟩ := ih hwalk
      rw [Schedule.history_of_some hadvance, Schedule.run_of_some hadvance, hhistory, hrun,
        List.append_assoc]
      exact ⟨rfl, rfl⟩

theorem Schedule.walk_isPrefix {steps : Nat} {events : List Event}
    (h : (Schedule.walk runOf host steps schedule state).1 = events) :
    events <+: schedule.history runOf host state := by
  generalize hwalk : Schedule.walk runOf host steps schedule state = walked at h
  obtain ⟨_, after, next⟩ := walked
  cases h
  exact ⟨_, (Schedule.walk_run hwalk).1.symm⟩

/-- A run goes on until it cannot. What steps and choices keep, where it may depend on what has
happened so far, holds at its end. -/
theorem Schedule.run_records (runOf : Chapter → ChapterRun) (host : Host σ)
    (holds : List Event → Schedule → σ → Prop)
    (hstep : ∀ {past events : List Event} {schedule after : Schedule} {state next : σ},
      holds past schedule state → schedule.Steps runOf host state events after next →
      holds (past ++ events) after next)
    (hchoose : ∀ {past : List Event} {schedule : Schedule} {state : σ} (steps : List PossibleStep),
      holds past schedule state → holds past schedule (host.choose state steps).2)
    {past : List Event} (h : holds past schedule state) :
    holds (past ++ schedule.history runOf host state) (schedule.run runOf host state).1
        (schedule.run runOf host state).2 ∧
      (schedule.run runOf host state).1.advance? runOf host (schedule.run runOf host state).2 =
        none := by
  fun_induction Schedule.run runOf host schedule state generalizing past with
  | case1 schedule state hnone =>
    rw [history_of_none hnone, List.append_nil]
    exact ⟨h, hnone⟩
  | case2 schedule state after next htaken ih =>
    rw [history_of_some htaken, ← List.append_assoc]
    obtain ⟨steps, hsteps⟩ := steps_of_advance? htaken
    exact ih (hstep (hchoose steps h) hsteps)

theorem eq_asked_of_mem_asksOf {schedule : Schedule} {request : Request} {event : Event}
    (h : event ∈ schedule.asksOf request) : event = .asked request := by
  unfold Schedule.asksOf at h
  split at h
  · cases h
  · exact List.mem_singleton.1 h

theorem not_asked_of_mem_endsOf {rest : List Numbered} {act : ChapterRun} {request : Request} :
    .asked request ∉ endsOf rest act := by
  obtain _ | ⟨numbered, rest⟩ := rest
  · exact List.not_mem_nil
  · obtain (error | markdown) | ⟨request, next⟩ := act <;> simp [endsOf]

/-- A request comes from a chapter that is being run. -/
theorem Schedule.Steps.running_of_asked {events : List Event} {request : Request}
    (h : schedule.Steps runOf host state events after next) (hasked : .asked request ∈ events) :
    ∃ (place : Nat) (next : request.Reply → ChapterRun) (rest : List Numbered)
      (outputs : List Output),
      schedule.lineages[place]? = some ⟨.running (.ask request next), rest, outputs⟩ := by
  cases h with
  | giveUp hfailed hgoing => exact (List.not_mem_nil hasked).elim
  | enqueue hfound hgoing => exact (List.not_mem_nil hasked).elim
  | start hfound hgoing hfree =>
    rcases List.mem_cons.1 hasked with hasked | hasked
    · cases hasked
    · exact (not_asked_of_mem_endsOf hasked).elim
  | answer hfound =>
    rcases List.mem_append.1 hasked with hasked | hasked
    · cases eq_asked_of_mem_asksOf hasked
      exact ⟨_, _, _, _, hfound⟩
    · exact (not_asked_of_mem_endsOf hasked).elim

/-! ### What is being run -/

/-- What a lineage runs has a property, and so has all that it has still to run. -/
structure Progress.AllRuns (good : ChapterRun → Prop) (runOf : Chapter → ChapterRun)
    (progress : Progress) : Prop where
  running : ∀ act, progress.stage = .running act → good act
  waiting : ∀ numbered ∈ progress.rest, good (runOf numbered.chapter)

/-- All that is run and that is still to be run has a property, and so has the first failure. -/
structure Schedule.AllRuns (good : ChapterRun → Prop) (runOf : Chapter → ChapterRun)
    (schedule : Schedule) : Prop where
  lineages : ∀ progress ∈ schedule.lineages, progress.AllRuns good runOf
  failure : ∀ error, schedule.failure = some error → good (.done (.error error))

section AllRuns

variable {good : ChapterRun → Prop} {events : List Event} {progress : Progress} {place : Nat}

/-- For a lineage that runs nothing it is enough that what it has still to run has the property. -/
theorem Progress.allRuns_of_not_isRunning (hstage : progress.isRunning = false)
    (hwaiting : ∀ numbered ∈ progress.rest, good (runOf numbered.chapter)) :
    progress.AllRuns good runOf := by
  refine ⟨fun act hact ↦ ?_, hwaiting⟩
  rw [Progress.isRunning, hact] at hstage
  cases hstage

theorem Progress.AllRuns.reaching (h : progress.AllRuns good runOf) {act : ChapterRun}
    (hact : good act) : (progress.reaching act).AllRuns good runOf := by
  obtain (error | markdown) | ⟨request, next⟩ := act
  · exact allRuns_of_not_isRunning rfl h.waiting
  · obtain ⟨stage, rest, outputs⟩ := progress
    cases rest with
    | nil => exact allRuns_of_not_isRunning rfl h.waiting
    | cons numbered rest =>
      exact allRuns_of_not_isRunning rfl fun other hother ↦
        h.waiting other (List.mem_cons_of_mem numbered hother)
  · refine ⟨?_, h.waiting⟩
    rintro _ ⟨⟩
    exact hact

theorem Schedule.AllRuns.reaching (h : schedule.AllRuns good runOf)
    (hprogress : progress.AllRuns good runOf) {act : ChapterRun} (hact : good act) :
    (schedule.reaching place progress act).AllRuns good runOf := by
  refine ⟨fun other hother ↦ ?_, fun error herror ↦ ?_⟩
  · rcases List.mem_or_eq_of_mem_set hother with hother | rfl
    · exact h.lineages other hother
    · exact hprogress.reaching hact
  · change (schedule.failure <|> Schedule.failureOf? act) = some error at herror
    cases hfailure : schedule.failure with
    | some first =>
      rw [hfailure] at herror
      cases herror
      exact h.failure _ hfailure
    | none =>
      rw [hfailure] at herror
      obtain (cause | markdown) | ⟨request, next⟩ := act
      · cases herror
        exact hact
      · cases herror
      · cases herror

/-- Steps keep a property of what is run. Assumes: answers keep it. -/
theorem Schedule.AllRuns.step (h : schedule.AllRuns good runOf)
    (hkeeps : ∀ {request next}, good (.ask request next) → ∀ reply, good (next reply))
    (hsteps : schedule.Steps runOf host state events after next) : after.AllRuns good runOf := by
  cases hsteps with
  | giveUp hfailed hgoing => exact ⟨h.lineages, h.failure⟩
  | enqueue hfound hgoing =>
    have hold := h.lineages _ (List.mem_of_getElem? hfound)
    refine ⟨fun other hother ↦ ?_, h.failure⟩
    rcases List.mem_or_eq_of_mem_set hother with hother | rfl
    · exact h.lineages other hother
    · exact Progress.allRuns_of_not_isRunning rfl hold.waiting
  | @start place numbered rest outputs hfound hgoing hfree =>
    have hold := h.lineages _ (List.mem_of_getElem? hfound)
    have hleft : Schedule.AllRuns good runOf
        { schedule with queue := schedule.queue.erase place } := ⟨h.lineages, h.failure⟩
    exact hleft.reaching hold (hold.waiting numbered List.mem_cons_self)
  | answer hfound =>
    have hold := h.lineages _ (List.mem_of_getElem? hfound)
    exact h.reaching hold (hkeeps (hold.running _ rfl) _)

theorem Schedule.allRuns_new {jobs : Nat} {groups : List Lineage}
    (h : ∀ lineage ∈ groups, ∀ numbered ∈ lineage.chapters, good (runOf numbered.chapter)) :
    (Schedule.new jobs groups).AllRuns good runOf := by
  constructor
  · intro progress hprogress
    obtain ⟨lineage, hlineage, rfl⟩ := List.mem_map.1 hprogress
    exact Progress.allRuns_of_not_isRunning rfl (h lineage hlineage)
  · rintro error ⟨⟩

/-- A property of what is run holds to the end of a run, and every request comes from an act that
has it. Assumes: answers keep it. -/
theorem Schedule.AllRuns.run (h : schedule.AllRuns good runOf)
    (hkeeps : ∀ {request next}, good (.ask request next) → ∀ reply, good (next reply))
    (host : Host σ) (state : σ) :
    (schedule.run runOf host state).1.AllRuns good runOf ∧
      ∀ request, .asked request ∈ schedule.history runOf host state →
        ∃ next, good (.ask request next) := by
  have hstart : schedule.AllRuns good runOf ∧
      ∀ request, Event.asked request ∈ [] → ∃ next, good (.ask request next) :=
    ⟨h, fun _ hasked ↦ (List.not_mem_nil hasked).elim⟩
  refine (Schedule.run_records runOf host
    (fun past schedule (_ : σ) ↦ schedule.AllRuns good runOf ∧
      ∀ request, .asked request ∈ past → ∃ next, good (.ask request next))
    (fun {past events schedule after state next} hboth hsteps ↦ ?_) (fun _ hboth ↦ hboth)
    hstart).1
  refine ⟨hboth.1.step hkeeps hsteps, fun request hrequest ↦ ?_⟩
  rcases List.mem_append.1 hrequest with hrequest | hrequest
  · exact hboth.2 request hrequest
  obtain ⟨place, next, rest, outputs, hfound⟩ := hsteps.running_of_asked hrequest
  exact ⟨next, (hboth.1.lineages _ (List.mem_of_getElem? hfound)).running _ rfl⟩

end AllRuns

/-! ### Requests in a history -/

theorem endsOf_noRequest (rest : List Numbered) (act : ChapterRun) :
    (endsOf rest act).filterMap Event.request? = [] := by
  obtain _ | ⟨numbered, rest⟩ := rest
  · rfl
  · obtain (error | markdown) | ⟨request, next⟩ := act <;> rfl

theorem asksOf_requests (schedule : Schedule) (host : Host σ) (state : σ) (log : List Request)
    (request : Request) :
    schedule.reply host.logging (state, log) request =
      ((schedule.reply host state request).1, (schedule.reply host state request).2,
        log ++ (schedule.asksOf request).filterMap Event.request?) := by
  unfold Schedule.reply Schedule.asksOf
  cases (if schedule.isGivenUp then request.givenUp? else none) with
  | some reply =>
    rw [List.filterMap_nil, List.append_nil]
  | none => rfl

/-- Keeping the requests of a step keeps those among its events. -/
theorem Schedule.step?_logging (schedule : Schedule) (runOf : Chapter → ChapterRun)
    (host : Host σ) (state : σ) (log : List Request) (move : Move) :
    schedule.step? runOf host.logging (state, log) move =
      (schedule.step? runOf host state move).map fun out ↦ (out.1, out.2,
        log ++ (schedule.eventsOf runOf host state move).filterMap Event.request?) := by
  cases move with
  | giveUp =>
    simp only [step?, eventsOf, List.filterMap_nil, List.append_nil]
    split <;> rfl
  | enqueue place =>
    simp only [step?, eventsOf, List.filterMap_nil, List.append_nil]
    split <;> rfl
  | start place =>
    simp only [step?, eventsOf]
    generalize schedule.lineages[place]? = found
    split
    · simp only [Option.map_some, List.filterMap_cons, Event.request?, endsOf_noRequest,
        List.append_nil]
    · rfl
  | answer place request =>
    simp only [step?, eventsOf]
    generalize schedule.lineages[place]? = found
    split
    · simp only [asksOf_requests, Option.map_some, List.filterMap_append, endsOf_noRequest,
        List.append_nil]
    · rfl

theorem Schedule.advance?_logging (schedule : Schedule) (runOf : Chapter → ChapterRun)
    (host : Host σ) (state : σ) (log : List Request) :
    schedule.advance? runOf host.logging (state, log) =
      (schedule.advance? runOf host state).map fun out ↦ (out.1, out.2,
        log ++ (schedule.nextEvents runOf host state).filterMap Event.request?) := by
  rw [advance?_eq, advance?_eq, nextEvents]
  unfold chosen?
  cases schedule.moves with
  | nil => rfl
  | cons first others => exact schedule.step?_logging runOf host _ log _

/-- Keeping the requests changes neither how chapters are run nor what they come to, and those that
are kept are those of the history. -/
theorem Schedule.run_logging (schedule : Schedule) (runOf : Chapter → ChapterRun) (host : Host σ)
    (state : σ) (log : List Request) :
    schedule.run runOf host.logging (state, log) =
      ((schedule.run runOf host state).1, (schedule.run runOf host state).2,
        log ++ (schedule.history runOf host state).filterMap Event.request?) := by
  fun_induction Schedule.run runOf host schedule state generalizing log with
  | case1 schedule state hnone =>
    have hadvance := schedule.advance?_logging runOf host state log
    rw [hnone] at hadvance
    rw [run_of_none hadvance, history_of_none hnone, List.filterMap_nil, List.append_nil]
  | case2 schedule state after next htaken ih =>
    have hadvance := schedule.advance?_logging runOf host state log
    rw [htaken] at hadvance
    rw [run_of_some hadvance, ih, history_of_some htaken, List.filterMap_append, List.append_assoc]

/-- What happens while the chapters of a build are run. -/
def chaptersHistory (host : Host σ) (settings : Settings) (chapters : List Chapter) (state : σ) :
    List Event :=
  (Schedule.new settings.jobs (lineages chapters)).history
    (fun chapter ↦ (chapter.run settings).run) host state

theorem runAll_logging (host : Host σ) (settings : Settings) (chapters : List Chapter) (state : σ)
    (log : List Request) :
    runAll host.logging settings chapters (state, log) =
      ((runAll host settings chapters state).1, (runAll host settings chapters state).2,
        log ++ (chaptersHistory host settings chapters state).filterMap Event.request?) := by
  rw [runAll, Schedule.run_logging]
  rfl

/-- What happens in a build: it finds its chapters, runs them and writes those that are finished. -/
def history (host : Host σ) (settings : Settings) (state : σ) : List Event :=
  ((begin settings).run.asked host state).map .asked ++
    match (begin settings).run.on host state with
    | (.error _, _) => []
    | (.ok chapters, start) => chaptersHistory host settings chapters start ++
      match runAll host settings chapters start with
      | (.error _, _) => []
      | (.ok outputs, reached) => ((writeAll settings outputs).run.asked host reached).map .asked

/-- The requests that a build asks of a host, in order. -/
def requests (host : Host σ) (settings : Settings) (state : σ) : List Request :=
  (build host.logging settings (state, [])).2.2

/-- The requests in the history of a build are those of the build. -/
theorem filterMap_request?_history (host : Host σ) (settings : Settings) (state : σ) :
    (history host settings state).filterMap Event.request? = requests host settings state := by
  rw [history, requests, build, Act.on_logging_asked, List.filterMap_append,
    Event.filterMap_request?_asked, List.nil_append]
  generalize (begin settings).run.on host state = found
  obtain ⟨error | chapters, start⟩ := found
  · exact List.append_nil _
  simp only [runAll_logging, List.filterMap_append]
  generalize runAll host settings chapters start = ran
  obtain ⟨error | outputs, reached⟩ := ran
  · simp only [List.filterMap_nil, List.append_nil]
  simp only [Act.on_logging_asked, Event.filterMap_request?_asked]
  generalize (writeAll settings outputs).run.on host reached = written
  obtain ⟨error | _, final⟩ := written <;> simp only [List.append_assoc]

end Runs

end Build

end Runbook
