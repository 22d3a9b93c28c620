import Runbook.Proofs.Build.Scheduling
/-!
# Lineages that do not observe each other

Lineages go on side by side, each as far as its turns and the host let it. `Lineage.run` is what a
lineage would do alone. `Unobserved` says of a host that the lineages do not observe each other, one
request at a time: a request of a lineage is answered as it would be if the lineage ran alone, and
what others ask, and which step is chosen, makes no difference to it.

From this it follows for whole runs, whatever the number of turns and the choices of the host: a
schedule fails exactly when some lineage fails alone, and otherwise it finishes the chapters that
the lineages finish alone (`Schedule.toOption_result`). The invariant is that every lineage is where
it would be alone (`Schedule.Apart`), as long as the chapters have not been given up.
-/

set_option autoImplicit false

namespace Runbook.Build

open Machine

variable {σ : Type}

/-! ### Lineages alone -/

/-- What a lineage does, which comes to its finished chapters. -/
abbrev LineageRun := Act (Except BuildError (List Output))

/-- Runs the chapters of a lineage that are left, after those that are finished. -/
def runRest (runOf : Chapter → ChapterRun) : List Numbered → List Output → LineageRun
  | [], outputs => .done (.ok outputs)
  | numbered :: rest, outputs => (runOf numbered.chapter).bind fun
    | .ok markdown =>
      runRest runOf rest (outputs ++ [⟨numbered.index, numbered.chapter.path, markdown⟩])
    | .error error => .done (.error error)

/-- Goes on with a lineage when the run of its next chapter has ended. -/
def goOn (runOf : Chapter → ChapterRun) (numbered : Numbered) (rest : List Numbered)
    (outputs : List Output) : Except BuildError String → LineageRun
  | .ok markdown =>
    runRest runOf rest (outputs ++ [⟨numbered.index, numbered.chapter.path, markdown⟩])
  | .error error => .done (.error error)

/-- Runs the chapters of a lineage one after the other. -/
def Lineage.run (runOf : Chapter → ChapterRun) (lineage : Lineage) : LineageRun :=
  runRest runOf lineage.chapters []

/-- What is left of the run of a lineage. -/
def Progress.left (runOf : Chapter → ChapterRun) (progress : Progress) : LineageRun :=
  match progress.stage, progress.rest with
  | .running act, numbered :: rest => act.bind (goOn runOf numbered rest progress.outputs)
  | _, rest => runRest runOf rest progress.outputs

theorem runRest_cons (runOf : Chapter → ChapterRun) (numbered : Numbered) (rest : List Numbered)
    (outputs : List Output) : runRest runOf (numbered :: rest) outputs =
      (runOf numbered.chapter).bind (goOn runOf numbered rest outputs) :=
  rfl

/-- When the run of the next chapter gets as far as an act, this act is left and then the other
chapters, unless the chapter fails. -/
theorem Progress.left_reaching (runOf : Chapter → ChapterRun) (stage : Stage) (numbered : Numbered)
    (rest : List Numbered) (outputs : List Output) {act : ChapterRun}
    (hact : ∀ error, act ≠ .done (.error error)) :
    (Progress.reaching ⟨stage, numbered :: rest, outputs⟩ act).left runOf =
      act.bind (goOn runOf numbered rest outputs) := by
  obtain (error | markdown) | ⟨request, next⟩ := act
  · exact (hact error rfl).elim
  · rfl
  · rfl

theorem Progress.left_of_nil (runOf : Chapter → ChapterRun) {progress : Progress}
    (h : progress.rest = []) : progress.left runOf = .done (.ok progress.outputs) := by
  unfold Progress.left
  rw [h]
  cases progress.stage <;> rfl

/-! ### What lineages observe -/

/-- The lineages do not observe each other on a host. `Alike place run state alone other` is to say
that a lineage with `run` left on a machine in the state `state` sees what it would see alone, with
`alone` left on a machine in the state `other`. The two need not be equal: a process may have
another number, and the clock another time. -/
structure Unobserved (host : Host σ) (runs : List LineageRun) (start : σ)
    (Alike : Nat → LineageRun → σ → LineageRun → σ → Prop) : Prop where
  start : ∀ place run, runs[place]? = some run → Alike place run start run start
  /-- A lineage that is not at its end would not be alone, and is answered as it would be. -/
  own : ∀ {place : Nat} {request : Request} {next : request.Reply → LineageRun} {state : σ}
    {alone : LineageRun} {other : σ}, Alike place (.ask request next) state alone other →
    ∃ (same : Request) (rest : same.Reply → LineageRun), alone = .ask same rest ∧
      Alike place (next (host.answer state request).1) (host.answer state request).2
        (rest (host.answer other same).1) (host.answer other same).2
  /-- A lineage comes to what it would come to alone. -/
  done : ∀ {place : Nat} {result : Except BuildError (List Output)} {state : σ} {alone : LineageRun}
    {other : σ}, Alike place (.done result) state alone other → alone = .done result
  /-- What another lineage asks makes no difference. -/
  others : ∀ {place second : Nat} {run alone secondAlone : LineageRun} {state other secondOther : σ}
    {request : Request} {next : request.Reply → LineageRun}, place ≠ second →
    Alike place run state alone other →
    Alike second (.ask request next) state secondAlone secondOther →
    Alike place run (host.answer state request).2 alone other
  /-- Which step is chosen makes no difference. -/
  choose : ∀ {place : Nat} {run alone : LineageRun} {state other : σ} (steps : List PossibleStep),
    Alike place run state alone other → Alike place run (host.choose state steps).2 alone other

/-- The lineages do not observe each other when each has a view of the machine of which its answers
are a function, and which the requests of the others and the choices of the host leave as it is. -/
theorem unobserved_of_views {View : Type} {host : Host σ} {runs : List LineageRun} {start : σ}
    (view : Nat → σ → View) (mine : Nat → Request → Prop)
    (hruns : ∀ (place : Nat) (run : LineageRun), runs[place]? = some run →
      run.Always (mine place) fun _ ↦ True)
    (hown : ∀ place request state other, mine place request →
      view place state = view place other →
        (host.answer state request).1 = (host.answer other request).1 ∧
          view place (host.answer state request).2 = view place (host.answer other request).2)
    (hothers : ∀ place second request state, place ≠ second → mine second request →
      view place (host.answer state request).2 = view place state)
    (hchoose : ∀ place state steps, view place (host.choose state steps).2 = view place state) :
    Unobserved host runs start fun place run state alone other ↦
      alone = run ∧ run.Always (mine place) (fun _ ↦ True) ∧
        view place state = view place other where
  start place run hrun := ⟨rfl, hruns place run hrun, rfl⟩
  own := by
    rintro place request next state _ other ⟨rfl, hmine, hview⟩
    obtain ⟨hreply, hnext⟩ := hown place request state other hmine.1 hview
    exact ⟨request, next, rfl, congrArg next hreply.symm, hmine.2 _, hnext⟩
  done := by
    rintro place result state _ other ⟨rfl, -, -⟩
    rfl
  others := by
    rintro place second run _ _ state other _ request next hne ⟨rfl, hmine, hview⟩ ⟨-, hasks, -⟩
    exact ⟨rfl, hmine, (hothers place second request state hne hasks.1).trans hview⟩
  choose := by
    rintro place run _ state other steps ⟨rfl, hmine, hview⟩
    exact ⟨rfl, hmine, (hchoose place state steps).trans hview⟩

/-! ### Schedules -/

/-- A lineage that has not failed is where it would be alone, unless the chapters are given up, and
if a chapter has failed then some lineage fails alone. -/
structure Schedule.Apart (runOf : Chapter → ChapterRun) (host : Host σ) (runs : List LineageRun)
    (start : σ) (Alike : Nat → LineageRun → σ → LineageRun → σ → Prop) (schedule : Schedule)
    (state : σ) : Prop where
  apart : schedule.isGivenUp = false → ∀ (place : Nat) (progress : Progress) (run : LineageRun),
    schedule.lineages[place]? = some progress → runs[place]? = some run →
    progress.stage = .stopped ∨ ∃ alone other, Alike place (progress.left runOf) state alone other ∧
      (alone.on host other).1 = (run.on host start).1
  fails : schedule.failure.isSome = true → ∃ run ∈ runs, ∃ error,
    (run.on host start).1 = .error error

section Apart

variable {runOf : Chapter → ChapterRun} {host : Host σ} {runs : List LineageRun} {start : σ}
  {Alike : Nat → LineageRun → σ → LineageRun → σ → Prop} {schedule after : Schedule}
  {state next : σ} {chapters : List Chapter} {limit : Nat} {past events : List Event} {place : Nat}

/-- When one lineage goes on, the others are where they were. -/
theorem Schedule.Apart.set {progress : Progress}
    (h : schedule.Apart runOf host runs start Alike state)
    (hlineages : after.lineages = schedule.lineages.set place progress)
    (hgivenUp : after.isGivenUp = schedule.isGivenUp)
    (hothers : schedule.isGivenUp = false → ∀ {second : Nat} {run alone : LineageRun} {other : σ},
      second ≠ place → Alike second run state alone other → Alike second run next alone other)
    (hown : schedule.isGivenUp = false → ∀ run, runs[place]? = some run →
      progress.stage = .stopped ∨ ∃ alone other,
        Alike place (progress.left runOf) next alone other ∧
          (alone.on host other).1 = (run.on host start).1)
    (hfails : after.failure.isSome = true → ∃ run ∈ runs, ∃ error,
      (run.on host start).1 = .error error) :
    after.Apart runOf host runs start Alike next := by
  refine ⟨fun hgoing second found run hfound hrun ↦ ?_, hfails⟩
  rw [hgivenUp] at hgoing
  rw [hlineages, List.getElem?_set] at hfound
  split at hfound
  · next hsame =>
    subst hsame
    split at hfound
    · cases hfound
      exact hown hgoing run hrun
    · cases hfound
  · next hdiffer =>
    refine (h.apart hgoing second found run hfound hrun).imp_right ?_
    rintro ⟨alone, other, halike, hend⟩
    exact ⟨alone, other, hothers hgoing (Ne.symm hdiffer) halike, hend⟩

/-- When the run of the next chapter of a lineage gets as far as an act, the lineage is where it
would be alone. Assumes: as long as the chapters are not given up, this act is what would be left
alone. -/
theorem Schedule.Apart.reaching {stage : Stage} {numbered : Numbered} {rest : List Numbered}
    {outputs : List Output} {act : ChapterRun} (hunobserved : Unobserved host runs start Alike)
    (h : schedule.Apart runOf host runs start Alike state) (hplace : place < runs.length)
    (hnotes : schedule.isGivenUp = true → schedule.failure.isSome = true)
    (hothers : schedule.isGivenUp = false → ∀ {second : Nat} {run alone : LineageRun} {other : σ},
      second ≠ place → Alike second run state alone other → Alike second run next alone other)
    (hown : schedule.isGivenUp = false → ∀ run, runs[place]? = some run → ∃ alone other,
      Alike place (act.bind (goOn runOf numbered rest outputs)) next alone other ∧
        (alone.on host other).1 = (run.on host start).1) :
    (schedule.reaching place ⟨stage, numbered :: rest, outputs⟩ act).Apart runOf host runs start
      Alike next := by
  have hrun := List.getElem?_eq_getElem hplace
  refine h.set rfl rfl hothers (fun hgoing run hrun ↦ ?_) fun hfailed ↦ ?_
  · obtain ⟨alone, other, halike, hend⟩ := hown hgoing run hrun
    by_cases hact : ∃ error, act = .done (.error error)
    · obtain ⟨error, rfl⟩ := hact
      exact .inl rfl
    · right
      have hleft := Progress.left_reaching runOf stage numbered rest outputs
        fun error hsame ↦ hact ⟨error, hsame⟩
      refine ⟨alone, other, ?_, hend⟩
      rw [hleft]
      exact halike
  · by_cases hbefore : schedule.failure.isSome = true
    · exact h.fails hbefore
    · -- This is the first failure, so the lineage fails alone.
      have hgoing : schedule.isGivenUp = false :=
        Bool.eq_false_of_not_eq_true fun hgivenUp ↦ hbefore (hnotes hgivenUp)
      obtain ⟨alone, other, halike, hend⟩ := hown hgoing _ hrun
      refine ⟨_, List.getElem_mem hplace, ?_⟩
      change (schedule.failure <|> failureOf? act).isSome = true at hfailed
      rw [Option.not_isSome_iff_eq_none.1 hbefore] at hfailed
      obtain (error | markdown) | ⟨request, rest⟩ := act
      · refine ⟨error, hend.symm.trans ?_⟩
        rw [hunobserved.done halike]
        rfl
      · cases hfailed
      · cases hfailed

/-- Steps leave every lineage where it would be alone. Assumes: the lineages do not observe each
other. -/
theorem Schedule.Apart.step (hunobserved : Unobserved host runs start Alike)
    (h : schedule.Apart runOf host runs start Alike state)
    (hsound : schedule.Sound chapters limit past)
    (hlength : runs.length = (Build.lineages chapters).length)
    (hsteps : schedule.Steps runOf host state events after next) :
    after.Apart runOf host runs start Alike next := by
  have hplace {place : Nat} {progress : Progress}
      (hfound : schedule.lineages[place]? = some progress) : place < runs.length := by
    rw [hlength, ← hsound.follows.length_eq]
    exact (List.getElem?_eq_some_iff.1 hfound).1
  cases hsteps with
  | giveUp hfailed hgoing => exact ⟨nofun, h.fails⟩
  | @enqueue place numbered rest outputs hfound hgoing =>
    exact h.set rfl rfl (fun _ _ _ _ _ _ halike ↦ halike) (fun hgoing run hrun ↦
      .inr ((h.apart hgoing place _ run hfound hrun).resolve_left nofun)) h.fails
  | @start place numbered rest outputs hfound hgoing hfree =>
    refine Schedule.Apart.reaching hunobserved ⟨h.apart, h.fails⟩ (hplace hfound)
      hsound.notesFailures.of_isGivenUp (fun _ _ _ _ _ _ halike ↦ halike) fun hgoing run hrun ↦ ?_
    have hwaiting := (h.apart hgoing place _ run hfound hrun).resolve_left nofun
    rw [← runRest_cons]
    exact hwaiting
  | @answer place request next rest outputs hfound =>
    obtain ⟨numbered, rest, rfl⟩ := hsound.follows.rest_ne_nil hfound
    have hreply : schedule.isGivenUp = false →
        schedule.reply host state request = host.answer state request := by
      intro hgoing
      unfold Schedule.reply
      rw [hgoing]
      rfl
    have hasks : schedule.isGivenUp = false → ∀ run, runs[place]? = some run → ∃ alone other,
        Alike place (.ask request fun reply ↦ (next reply).bind (goOn runOf numbered rest outputs))
          state alone other ∧ (alone.on host other).1 = (run.on host start).1 := by
      intro hgoing run hrun
      exact (h.apart hgoing place _ run hfound hrun).resolve_left nofun
    refine h.reaching hunobserved (hplace hfound) hsound.notesFailures.of_isGivenUp
      (fun hgoing second run alone other hne halike ↦ ?_) fun hgoing run hrun ↦ ?_
    · obtain ⟨ownAlone, ownOther, hown, -⟩ :=
        hasks hgoing _ (List.getElem?_eq_getElem (hplace hfound))
      rw [hreply hgoing]
      exact hunobserved.others hne halike hown
    · obtain ⟨alone, other, halike, hend⟩ := hasks hgoing run hrun
      obtain ⟨same, rest, rfl, hnext⟩ := hunobserved.own halike
      rw [hreply hgoing]
      exact ⟨_, _, hnext, hend⟩

/-- A lineage that has no chapters left has come to what it comes to alone. -/
theorem Schedule.Apart.end_eq {progress : Progress} {run : LineageRun}
    (hunobserved : Unobserved host runs start Alike)
    (h : schedule.Apart runOf host runs start Alike state) (hgoing : schedule.isGivenUp = false)
    (hfound : schedule.lineages[place]? = some progress) (hrun : runs[place]? = some run)
    (hrest : progress.rest = []) (hstage : progress.stage ≠ .stopped) :
    (run.on host start).1 = .ok progress.outputs := by
  obtain ⟨alone, other, halike, hend⟩ :=
    (h.apart hgoing place progress run hfound hrun).resolve_left hstage
  rw [Progress.left_of_nil runOf hrest] at halike
  rw [← hend, hunobserved.done halike]
  rfl

end Apart

/-! ### Results -/

/-- What each of the lineages of chapters finishes alone, unless it fails. -/
def finishedAlone (host : Host σ) (runOf : Chapter → ChapterRun) (chapters : List Chapter)
    (start : σ) : List (Option (List Output)) :=
  (lineages chapters).map fun lineage ↦ ((lineage.run runOf).on host start).1.toOption

/-- The chapters that the lineages finish alone, in order, unless one of them fails. -/
def outputsAlone? (host : Host σ) (runOf : Chapter → ChapterRun) (chapters : List Chapter)
    (start : σ) : Option (List Output) :=
  ((finishedAlone host runOf chapters start).mapM id).map fun outputs ↦
    outputs.flatten.mergeSort fun a b ↦ a.index ≤ b.index

theorem mapM_map_some {α β : Type} (values : α → β) (all : List α) :
    (all.map fun a ↦ some (values a)).mapM id = some (all.map values) := by
  induction all with
  | nil => rfl
  | cons a all ih =>
    rw [List.map_cons, List.mapM_cons, ih]
    rfl

theorem mapM_of_none_mem {β : Type} {all : List (Option β)} (h : none ∈ all) :
    all.mapM id = none := by
  induction all with
  | nil => cases h
  | cons first all ih =>
    rw [List.mapM_cons]
    rcases List.mem_cons.1 h with rfl | h
    · rfl
    · rw [ih h]
      cases first <;> rfl

theorem outputsAlone?_of_finished {host : Host σ} {runOf : Chapter → ChapterRun}
    {chapters : List Chapter} {start : σ} {all : List (List Output)}
    (h : finishedAlone host runOf chapters start = all.map some)
    (hordered : all.flatten.Pairwise fun a b ↦ a.index ≤ b.index) :
    outputsAlone? host runOf chapters start = some all.flatten := by
  have hall : (all.map some).mapM id = some all := by
    have hmap := mapM_map_some id all
    rw [List.map_id] at hmap
    exact hmap
  have hsorted : all.flatten.mergeSort (fun a b ↦ a.index ≤ b.index) = all.flatten :=
    List.mergeSort_of_pairwise (hordered.imp decide_eq_true)
  rw [outputsAlone?, h, hall, Option.map_some, hsorted]

section Results

variable {runOf : Chapter → ChapterRun} {host : Host σ} {start : σ} {chapters : List Chapter}
  {Alike : Nat → LineageRun → σ → LineageRun → σ → Prop}

/-- At the end of a run every lineage is where it would be alone. -/
theorem Schedule.apart_run (jobs : Nat) (hunobserved :
      Unobserved host ((Build.lineages chapters).map (Lineage.run runOf)) start Alike) :
    ((Schedule.new jobs (Build.lineages chapters)).run runOf host start).1.Apart runOf host
      ((Build.lineages chapters).map (Lineage.run runOf)) start Alike
      ((Schedule.new jobs (Build.lineages chapters)).run runOf host start).2 := by
  have hnew : (Schedule.new jobs (Build.lineages chapters)).Apart runOf host
      ((Build.lineages chapters).map (Lineage.run runOf)) start Alike start := by
    refine ⟨fun _ place progress run hprogress hrun ↦ .inr ⟨run, start, ?_, rfl⟩, nofun⟩
    have halike := hunobserved.start place run hrun
    rw [Schedule.new, List.getElem?_map] at hprogress
    rw [List.getElem?_map] at hrun
    obtain ⟨lineage, hlineage, rfl⟩ := Option.map_eq_some_iff.1 hprogress
    rw [hlineage] at hrun
    cases hrun
    exact halike
  refine (Schedule.run_records runOf host
    (fun past schedule state ↦ schedule.Sound chapters (max jobs 1) past ∧
      schedule.Apart runOf host ((Build.lineages chapters).map (Lineage.run runOf)) start Alike
        state)
    (fun hboth hsteps ↦ ⟨hboth.1.step hsteps, ?_⟩) (fun steps hboth ↦ ⟨hboth.1, ?_⟩)
    ⟨Schedule.sound_new jobs chapters [], hnew⟩).1.2
  · exact hboth.2.step hunobserved hboth.1 (List.length_map _) hsteps
  · refine ⟨fun hgoing place progress run hfound hrun ↦ ?_, hboth.2.fails⟩
    refine (hboth.2.apart hgoing place progress run hfound hrun).imp_right ?_
    rintro ⟨alone, other, halike, hend⟩
    exact ⟨alone, other, hunobserved.choose steps halike, hend⟩

/-- A run finishes the chapters that the lineages finish alone, and fails when one of them does,
whatever the number of turns and the choices of the host. Assumes: the lineages do not observe each
other. -/
theorem Schedule.toOption_result (jobs : Nat) (hunobserved :
      Unobserved host ((Build.lineages chapters).map (Lineage.run runOf)) start Alike) :
    ((Schedule.new jobs (Build.lineages chapters)).run runOf host start).1.result.toOption =
      outputsAlone? host runOf chapters start := by
  have hapart := Schedule.apart_run jobs hunobserved
  obtain ⟨hsound, hfinished⟩ := Schedule.sound_run runOf host start jobs chapters []
  generalize ((Schedule.new jobs (Build.lineages chapters)).run runOf host start).1 = last at *
  unfold Schedule.result outputsAlone?
  cases hfailure : last.failure with
  | some first =>
    obtain ⟨run, hrun, error, herror⟩ := hapart.fails (by rw [hfailure]; rfl)
    obtain ⟨lineage, hlineage, rfl⟩ := List.mem_map.1 hrun
    have hmem : none ∈ finishedAlone host runOf chapters start := by
      refine List.mem_map.2 ⟨lineage, hlineage, ?_⟩
      rw [herror]
      rfl
    rw [mapM_of_none_mem hmem]
    rfl
  | none =>
    have hnoted {holds : Prop} (h : holds → last.failure.isSome = true) : ¬holds := by
      intro hholds
      have hsome := h hholds
      rw [hfailure] at hsome
      cases hsome
    have hgoing : last.isGivenUp = false :=
      Bool.eq_false_of_not_eq_true (hnoted hsound.notesFailures.of_isGivenUp)
    have hends : finishedAlone host runOf chapters start =
        last.lineages.map fun progress ↦ some progress.outputs := by
      refine List.ext_getElem? fun place ↦ ?_
      rw [finishedAlone, List.getElem?_map, List.getElem?_map]
      cases hfound : last.lineages[place]? with
      | none =>
        rw [List.getElem?_eq_none_iff, hsound.follows.length_eq,
          ← List.getElem?_eq_none_iff] at hfound
        rw [hfound]
        rfl
      | some progress =>
        obtain ⟨lineage, hlineage, -⟩ := hsound.follows.exists_lineage hfound
        have hmem := List.mem_of_getElem? hfound
        have hrun : ((Build.lineages chapters).map (Lineage.run runOf))[place]? =
            some (lineage.run runOf) := by
          rw [List.getElem?_map, hlineage]
          rfl
        have hend := hapart.end_eq hunobserved hgoing hfound hrun (hfinished hfailure progress hmem)
          (hnoted (hsound.notesFailures.of_stopped progress hmem))
        rw [hlineage, Option.map_some, Option.map_some, hend]
        rfl
    rw [hends, mapM_map_some]
    rfl

end Results

end Runbook.Build
