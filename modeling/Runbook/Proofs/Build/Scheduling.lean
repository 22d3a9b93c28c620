import Runbook.Proofs.Build.Tracking
/-!
# What a schedule keeps

Three things are kept by every step of a schedule: the lineages are as far as what has happened says
(`Schedule.Follows`), no more chapters are being run than may be (`Schedule.TakesTurns`), and
failures are noted (`Schedule.NotesFailures`). `Schedule.Sound` is all of them, and it holds at the
end of a run (`Schedule.sound_run`).

A run that has not failed goes on until every chapter is finished (`Schedule.Sound.rest_eq_nil`):
as long as something is left, a request can be answered, or the first lineage that waits can have
its turn, or a lineage can ask for one. Its result then has all chapters in order
(`Schedule.Follows.result_ok`).
-/

set_option autoImplicit false

namespace Runbook.Build

open Machine

variable {σ : Type}

/-! ### Turns -/

/-- No more chapters are being run than may be, counted by what has happened. -/
def Bounded (limit : Nat) (before : List Event) (event : Event) : Prop :=
  (before ++ [event]).countP Event.isBegan ≤ (before ++ [event]).countP Event.isEnded + limit

/-- Turns are had by those who wait for them, and no more at once than there may be. -/
structure Schedule.TakesTurns (limit : Nat) (past : List Event) (schedule : Schedule) : Prop where
  limit_eq : schedule.limit = limit
  running_le : schedule.running ≤ limit
  balance : past.countP Event.isBegan = past.countP Event.isEnded + schedule.running
  queue_nodup : schedule.queue.Nodup
  mem_queue : ∀ place, place ∈ schedule.queue ↔
    ∃ rest outputs, schedule.lineages[place]? = some ⟨.queued, rest, outputs⟩
  bounded : Along (Bounded limit) past

section Turns

variable {chapters : List Chapter} {limit : Nat} {past events : List Event}
  {schedule after : Schedule} {runOf : Chapter → ChapterRun} {host : Host σ} {state next : σ}
  {place : Nat} {numbered : Numbered} {rest : List Numbered} {outputs : List Output}

/-- A step that begins no chapter keeps to the bound. -/
theorem Along.bounded_append (h : Along (Bounded limit) past)
    (hbound : past.countP Event.isBegan ≤ past.countP Event.isEnded + limit)
    (hevents : ∀ event ∈ events, event.isBegan = false) :
    Along (Bounded limit) (past ++ events) := by
  induction events generalizing past with
  | nil =>
    rw [List.append_nil]
    exact h
  | cons event events ih =>
    have hevent : Bounded limit past event := by
      unfold Bounded
      rw [List.countP_append, List.countP_append, List.countP_singleton,
        hevents event List.mem_cons_self]
      simp only [Bool.false_eq_true, if_false]
      omega
    rw [List.append_cons]
    exact ih (h.concat hevent) hevent fun later hlater ↦
      hevents later (List.mem_cons_of_mem event hlater)

theorem isBegan_of_mem_endsOf {act : ChapterRun} {event : Event} (h : event ∈ endsOf rest act) :
    event.isBegan = false :=
  Bool.eq_false_of_not_eq_true (List.countP_eq_zero.1 (countP_isBegan_endsOf rest act) event h)

/-- A lineage that has begun a chapter does not wait for a turn. -/
theorem Progress.reaching_ne_queued (stage : Stage) (numbered : Numbered)
    (rest later : List Numbered) (outputs found : List Output) (act : ChapterRun) :
    Progress.reaching ⟨stage, numbered :: rest, outputs⟩ act ≠ ⟨.queued, later, found⟩ := by
  obtain (error | markdown) | ⟨request, next⟩ := act <;> nofun

theorem Schedule.TakesTurns.bound (h : schedule.TakesTurns limit past) :
    past.countP Event.isBegan ≤ past.countP Event.isEnded + limit := by
  rw [h.balance]
  exact Nat.add_le_add_left h.running_le _

/-- When the next chapter of a lineage gets as far as an act, it is still being run or has ended.
Assumes: it has begun, so it counts as one that is being run, and its lineage waits no longer. -/
theorem Schedule.takesTurns_reaching {stage : Stage} (act : ChapterRun)
    (hlimit : schedule.limit = limit)
    (hfound : schedule.lineages[place]? = some ⟨stage, numbered :: rest, outputs⟩)
    (hbegun : past.countP Event.isBegan +
      (Progress.isRunning ⟨stage, numbered :: rest, outputs⟩).toNat =
        past.countP Event.isEnded + schedule.running + 1)
    (hbound : past.countP Event.isBegan ≤ past.countP Event.isEnded + limit)
    (hbounded : Along (Bounded limit) past) (hnodup : schedule.queue.Nodup)
    (hqueue : ∀ other, other ∈ schedule.queue ↔ other ≠ place ∧
      ∃ rest outputs, schedule.lineages[other]? = some ⟨.queued, rest, outputs⟩) :
    (schedule.reaching place ⟨stage, numbered :: rest, outputs⟩ act).TakesTurns limit
      (past ++ endsOf (numbered :: rest) act) := by
  have hset := countP_set_running hfound (Progress.reaching ⟨stage, numbered :: rest, outputs⟩ act)
  have hends := isRunning_reaching stage numbered rest outputs act
  have hbegan := countP_isBegan_endsOf (numbered :: rest) act
  change (schedule.reaching place ⟨stage, numbered :: rest, outputs⟩ act).running + _ =
    schedule.running + _ at hset
  refine ⟨hlimit, by omega, ?_, hnodup, fun other ↦ ?_, ?_⟩
  · rw [List.countP_append, List.countP_append]
    omega
  · refine (hqueue other).trans ?_
    change _ ↔ ∃ rest outputs, (schedule.lineages.set place _)[other]? = _
    by_cases hsame : other = place
    · subst hsame
      obtain ⟨hlt, -⟩ := List.getElem?_eq_some_iff.1 hfound
      rw [List.getElem?_set_self hlt]
      refine iff_of_false (fun hboth ↦ hboth.1 rfl) ?_
      rintro ⟨later, found, hqueued⟩
      exact Progress.reaching_ne_queued stage numbered rest later outputs found act
        (Option.some.inj hqueued)
    · rw [List.getElem?_set_ne (Ne.symm hsame), and_iff_right hsame]
  · exact hbounded.bounded_append hbound fun event hevent ↦ isBegan_of_mem_endsOf hevent

/-- Every step keeps to the turns. Assumes: the lineages are as far as what has happened says. -/
theorem Schedule.TakesTurns.step (h : schedule.TakesTurns limit past)
    (hfollows : schedule.Follows chapters past)
    (hsteps : schedule.Steps runOf host state events after next) :
    after.TakesTurns limit (past ++ events) := by
  cases hsteps with
  | giveUp hfailed hgoing =>
    rw [List.append_nil]
    exact ⟨h.limit_eq, h.running_le, h.balance, h.queue_nodup, h.mem_queue, h.bounded⟩
  | @enqueue place numbered rest outputs hfound hgoing =>
    have hrunning := countP_set_running hfound ⟨.queued, numbered :: rest, outputs⟩
    obtain ⟨hlt, -⟩ := List.getElem?_eq_some_iff.1 hfound
    have hnot : place ∉ schedule.queue := by
      intro hmem
      obtain ⟨_, _, hqueued⟩ := (h.mem_queue place).1 hmem
      cases hfound.symm.trans hqueued
    rw [List.append_nil]
    refine ⟨h.limit_eq, hrunning.trans_le h.running_le, h.balance.trans ?_, ?_, fun other ↦ ?_,
      h.bounded⟩
    · exact congrArg _ hrunning.symm
    · refine List.nodup_append.2 ⟨h.queue_nodup, List.pairwise_singleton _ place, ?_⟩
      rintro other hother last hlast rfl
      exact hnot (List.mem_singleton.1 hlast ▸ hother)
    · rw [List.mem_append, List.mem_singleton]
      by_cases hsame : other = place
      · subst hsame
        rw [List.getElem?_set_self hlt]
        exact iff_of_true (.inr rfl) ⟨_, _, rfl⟩
      · rw [List.getElem?_set_ne (Ne.symm hsame), or_iff_left hsame, h.mem_queue]
  | @start place numbered rest outputs hfound hgoing hfree =>
    -- A turn is free, so fewer chapters are being run than may be.
    have hlt : schedule.running < limit := by
      rw [← h.limit_eq]
      exact Nat.lt_of_sub_pos (Nat.zero_lt_of_lt hfree)
    have hbegan : (past ++ [Event.began numbered.index]).countP Event.isBegan =
        past.countP Event.isBegan + 1 := List.countP_append
    have hended : (past ++ [Event.began numbered.index]).countP Event.isEnded =
        past.countP Event.isEnded := List.countP_append
    have hbound : Bounded limit past (.began numbered.index) := by
      unfold Bounded
      rw [hbegan, hended, h.balance]
      omega
    rw [List.append_cons]
    refine takesTurns_reaching _ h.limit_eq hfound ?_ hbound (h.bounded.concat hbound)
      (h.queue_nodup.erase place) fun other ↦ ?_
    · rw [hbegan, hended, h.balance]
      rfl
    · rw [h.queue_nodup.mem_erase_iff, h.mem_queue]
  | @answer place request next rest outputs hfound =>
    obtain ⟨numbered, rest, rfl⟩ := hfollows.rest_ne_nil hfound
    have hbegan : (past ++ schedule.asksOf request).countP Event.isBegan =
        past.countP Event.isBegan := by
      rw [List.countP_append, countP_asksOf rfl, Nat.add_zero]
    have hended : (past ++ schedule.asksOf request).countP Event.isEnded =
        past.countP Event.isEnded := by
      rw [List.countP_append, countP_asksOf rfl, Nat.add_zero]
    rw [← List.append_assoc]
    refine takesTurns_reaching _ h.limit_eq hfound ?_ ?_ ?_ h.queue_nodup fun other ↦ ?_
    · rw [hbegan, hended, h.balance]
      rfl
    · rw [hbegan, hended]
      exact h.bound
    · refine h.bounded.bounded_append h.bound fun event hevent ↦ ?_
      rw [eq_asked_of_mem_asksOf hevent]
      rfl
    · refine (h.mem_queue other).trans (iff_and_self.2 ?_)
      rintro ⟨_, _, hqueued⟩ rfl
      cases hfound.symm.trans hqueued

end Turns

/-! ### Failures -/

/-- A chapter that has failed is noted, and the chapters are given up for no other reason. -/
structure Schedule.NotesFailures (past : List Event) (schedule : Schedule) : Prop where
  of_isGivenUp : schedule.isGivenUp = true → schedule.failure.isSome = true
  of_stopped : ∀ progress ∈ schedule.lineages, progress.stage = .stopped →
    schedule.failure.isSome = true
  of_failed : ∀ index error, .failed index error ∈ past → schedule.failure.isSome = true

section Failures

variable {chapters : List Chapter} {limit : Nat} {past events : List Event}
  {schedule after : Schedule} {runOf : Chapter → ChapterRun} {host : Host σ} {state next : σ}
  {place : Nat} {numbered : Numbered} {rest : List Numbered} {outputs : List Output}

theorem Schedule.isSome_failure_reaching {progress : Progress} {act : ChapterRun}
    (h : schedule.failure.isSome = true ∨ ∃ error, act = .done (.error error)) :
    (schedule.reaching place progress act).failure.isSome = true := by
  change (schedule.failure <|> failureOf? act).isSome = true
  rcases h with h | ⟨error, rfl⟩
  · obtain ⟨first, hfirst⟩ := Option.isSome_iff_exists.1 h
    rw [hfirst]
    rfl
  · cases schedule.failure <;> rfl

/-- A chapter that has begun and fails is noted. -/
theorem Schedule.NotesFailures.reaching {stage : Stage} (h : schedule.NotesFailures past)
    (act : ChapterRun) :
    (schedule.reaching place ⟨stage, numbered :: rest, outputs⟩ act).NotesFailures
      (past ++ endsOf (numbered :: rest) act) := by
  refine ⟨fun hgivenUp ↦ isSome_failure_reaching (.inl (h.of_isGivenUp hgivenUp)), ?_, ?_⟩
  · intro progress hprogress hstopped
    refine isSome_failure_reaching ?_
    rcases List.mem_or_eq_of_mem_set hprogress with hprogress | rfl
    · exact .inl (h.of_stopped progress hprogress hstopped)
    · obtain (error | markdown) | ⟨request, next⟩ := act
      · exact .inr ⟨error, rfl⟩
      · cases hstopped
      · cases hstopped
  · intro index error hfailed
    refine isSome_failure_reaching ?_
    rcases List.mem_append.1 hfailed with hfailed | hfailed
    · exact .inl (h.of_failed index error hfailed)
    · obtain (cause | markdown) | ⟨request, next⟩ := act
      · exact .inr ⟨cause, rfl⟩
      · cases List.mem_singleton.1 hfailed
      · cases hfailed

/-- Events that are no failures need no note. -/
theorem Schedule.NotesFailures.append (h : schedule.NotesFailures past)
    (hevents : ∀ event ∈ events, ∀ index error, event ≠ .failed index error) :
    schedule.NotesFailures (past ++ events) := by
  refine ⟨h.of_isGivenUp, h.of_stopped, fun index error hfailed ↦ ?_⟩
  rcases List.mem_append.1 hfailed with hfailed | hfailed
  · exact h.of_failed index error hfailed
  · exact (hevents _ hfailed index error rfl).elim

/-- Every step notes failures. Assumes: the lineages are as far as what has happened says. -/
theorem Schedule.NotesFailures.step (h : schedule.NotesFailures past)
    (hfollows : schedule.Follows chapters past)
    (hsteps : schedule.Steps runOf host state events after next) :
    after.NotesFailures (past ++ events) := by
  cases hsteps with
  | giveUp hfailed hgoing =>
    rw [List.append_nil]
    exact ⟨fun _ ↦ hfailed, h.of_stopped, h.of_failed⟩
  | enqueue hfound hgoing =>
    rw [List.append_nil]
    refine ⟨h.of_isGivenUp, fun progress hprogress hstopped ↦ ?_, h.of_failed⟩
    rcases List.mem_or_eq_of_mem_set hprogress with hprogress | rfl
    · exact h.of_stopped progress hprogress hstopped
    · cases hstopped
  | @start place numbered rest outputs hfound hgoing hfree =>
    rw [List.append_cons]
    have hbegan : Schedule.NotesFailures (past ++ [.began numbered.index])
        { schedule with queue := schedule.queue.erase place } :=
      NotesFailures.append ⟨h.of_isGivenUp, h.of_stopped, h.of_failed⟩ fun event hevent _ _ ↦ by
        rw [List.mem_singleton.1 hevent]
        nofun
    exact hbegan.reaching _
  | @answer place request next rest outputs hfound =>
    obtain ⟨numbered, rest, rfl⟩ := hfollows.rest_ne_nil hfound
    rw [← List.append_assoc]
    refine (h.append fun event hevent _ _ ↦ ?_).reaching _
    rw [eq_asked_of_mem_asksOf hevent]
    nofun

end Failures

/-! ### Runs -/

/-- All that is kept by a schedule of the lineages of chapters, given what has happened. -/
structure Schedule.Sound (chapters : List Chapter) (limit : Nat) (past : List Event)
    (schedule : Schedule) : Prop where
  follows : schedule.Follows chapters past
  takesTurns : schedule.TakesTurns limit past
  notesFailures : schedule.NotesFailures past

section Runs

variable {chapters : List Chapter} {limit : Nat} {past events : List Event}
  {schedule after : Schedule} {runOf : Chapter → ChapterRun} {host : Host σ} {state next : σ}
  {move : Move}

/-- A schedule that has not begun keeps all of this, whatever has been asked before. -/
theorem Schedule.sound_new (jobs : Nat) (chapters : List Chapter) (earlier : List Request) :
    (Schedule.new jobs (Build.lineages chapters)).Sound chapters (max jobs 1)
      (earlier.map .asked) := by
  have hasked : ∀ event ∈ earlier.map Event.asked, ∃ request, event = .asked request := by
    intro event hevent
    obtain ⟨request, -, rfl⟩ := List.mem_map.1 hevent
    exact ⟨request, rfl⟩
  have hcount (counts : Event → Bool) (hnone : ∀ request, counts (.asked request) = false) :
      (earlier.map Event.asked).countP counts = 0 := by
    refine List.countP_eq_zero.2 fun event hevent ↦ ?_
    obtain ⟨request, rfl⟩ := hasked event hevent
    rw [hnone]
    exact Bool.false_ne_true
  have hidle : ∀ progress ∈ (Schedule.new jobs (Build.lineages chapters)).lineages,
      ∃ lineage, progress = .ofLineage lineage := by
    intro progress hprogress
    obtain ⟨lineage, -, rfl⟩ := List.mem_map.1 hprogress
    exact ⟨lineage, rfl⟩
  have hrunning : (Schedule.new jobs (Build.lineages chapters)).running = 0 := by
    refine List.countP_eq_zero.2 fun progress hprogress ↦ ?_
    obtain ⟨lineage, rfl⟩ := hidle progress hprogress
    exact Bool.false_ne_true
  refine ⟨⟨List.length_map _, ?_, ?_⟩, ⟨rfl, ?_, ?_, .nil, fun place ↦ ?_, ?_⟩,
    ⟨nofun, fun progress hprogress hstopped ↦ ?_, fun index error hfailed ↦ ?_⟩⟩
  · intro place lineage progress hlineage hprogress
    have hshare : lineage.share (earlier.map .asked) = [] := by
      refine List.filter_eq_nil_iff.2 fun event hevent ↦ ?_
      obtain ⟨request, rfl⟩ := hasked event hevent
      exact Bool.false_ne_true
    rw [Schedule.new, List.getElem?_map, hlineage] at hprogress
    cases hprogress
    refine ⟨⟨[], rfl, rfl⟩, ?_⟩
    rw [hshare]
    exact .idle _ []
  · refine along_nil.append fun event hevent before ↦ ?_
    obtain ⟨request, rfl⟩ := hasked event hevent
    trivial
  · rw [hrunning]
    exact Nat.zero_le _
  · rw [hrunning, hcount _ fun _ ↦ rfl, hcount _ fun _ ↦ rfl]
  · refine iff_of_false List.not_mem_nil ?_
    rintro ⟨rest, outputs, hqueued⟩
    obtain ⟨lineage, hsame⟩ := hidle _ (List.mem_of_getElem? hqueued)
    cases hsame
  · refine along_nil.bounded_append (Nat.zero_le _) fun event hevent ↦ ?_
    obtain ⟨request, rfl⟩ := hasked event hevent
    rfl
  · obtain ⟨lineage, rfl⟩ := hidle progress hprogress
    cases hstopped
  · obtain ⟨request, hsame⟩ := hasked _ hfailed
    cases hsame

/-- What a schedule keeps, every step keeps. -/
theorem Schedule.Sound.step (h : schedule.Sound chapters limit past)
    (hsteps : schedule.Steps runOf host state events after next) :
    after.Sound chapters limit (past ++ events) :=
  ⟨h.follows.step hsteps, h.takesTurns.step h.follows hsteps,
    h.notesFailures.step h.follows hsteps⟩

/-- A step that is offered can be taken. -/
theorem Schedule.Follows.isSome_step? (h : schedule.Follows chapters past)
    (hmove : move ∈ schedule.moves) (runOf : Chapter → ChapterRun) (host : Host σ) (state : σ) :
    (schedule.step? runOf host state move).isSome = true := by
  rcases mem_moves hmove with ⟨place, progress, hfound, hmoveOf⟩ | ⟨rfl, hfailed, hgoing⟩
  · obtain ⟨lineage, -, -, hrecords⟩ := h.exists_lineage hfound
    generalize lineage.share past = share at hrecords
    cases hrecords with
    | idle rest outputs =>
      simp only [moveOf?] at hmoveOf
      split at hmoveOf
      · cases hmoveOf
      · cases hmoveOf
        simp only [step?, hfound]
        rfl
    | queued numbered rest outputs =>
      simp only [moveOf?] at hmoveOf
      split at hmoveOf
      · cases hmoveOf
      · split at hmoveOf
        · cases hmoveOf
          simp only [step?, hfound]
          rfl
        · cases hmoveOf
    | running request next numbered rest outputs =>
      cases hmoveOf
      simp only [step?, hfound]
      rfl
    | stopped error numbered rest outputs => cases hmoveOf
  · simp only [step?, hgoing]
    rfl

/-- A run that does not go on has no steps. -/
theorem Schedule.Follows.moves_eq_nil (h : schedule.Follows chapters past)
    (hstuck : schedule.advance? runOf host state = none) : schedule.moves = [] := by
  rw [advance?_eq] at hstuck
  cases hchosen : schedule.chosen? host state with
  | none =>
    unfold chosen? at hchosen
    split at hchosen
    · assumption
    · cases hchosen
  | some chosen =>
    obtain ⟨move, reached⟩ := chosen
    rw [hchosen] at hstuck
    have htaken := h.isSome_step? (mem_moves_of_chosen? hchosen) runOf host reached
    rw [show schedule.step? runOf host reached move = none from hstuck] at htaken
    cases htaken

/-- When no step can be taken and no chapter has failed, every chapter is finished. -/
theorem Schedule.Sound.rest_eq_nil (h : schedule.Sound chapters limit past) (hlimit : 0 < limit)
    (hmoves : schedule.moves = []) (hfailure : schedule.failure = none) :
    ∀ progress ∈ schedule.lineages, progress.rest = [] := by
  have hgoing : schedule.isGivenUp = false := by
    refine Bool.eq_false_of_not_eq_true fun hgivenUp ↦ ?_
    have hsome := h.notesFailures.of_isGivenUp hgivenUp
    rw [hfailure] at hsome
    cases hsome
  have hnone : ∀ (place : Nat) (progress : Progress), schedule.lineages[place]? = some progress →
      schedule.moveOf? place progress = none := by
    intro place progress hfound
    have hlineages := (List.append_eq_nil_iff.1 hmoves).1
    exact List.filterMap_eq_nil_iff.1 hlineages (progress, place)
      (List.mem_zipIdx_iff_getElem?.2 hfound)
  have hrecords (place : Nat) (progress : Progress)
      (hfound : schedule.lineages[place]? = some progress) : ∃ share, progress.Records share := by
    obtain ⟨lineage, -, htracks⟩ := h.follows.exists_lineage hfound
    exact ⟨_, htracks.records⟩
  have hquiet : schedule.running = 0 := by
    refine List.countP_eq_zero.2 fun progress hprogress hrunning ↦ ?_
    obtain ⟨place, hfound⟩ := List.mem_iff_getElem?.1 hprogress
    have hstuck := hnone place progress hfound
    obtain ⟨share, hshare⟩ := hrecords place progress hfound
    cases hshare with
    | running request next numbered rest outputs => cases hstuck
    | _ => cases hrunning
  intro progress hprogress
  obtain ⟨place, hfound⟩ := List.mem_iff_getElem?.1 hprogress
  have hstuck := hnone place progress hfound
  obtain ⟨share, hshare⟩ := hrecords place progress hfound
  cases hshare with
  | idle rest outputs =>
    simp only [moveOf?, hgoing, Bool.or_false] at hstuck
    split at hstuck
    · next hempty => exact List.isEmpty_iff.1 hempty
    · cases hstuck
  | queued numbered rest outputs =>
    -- The first that waits could have its turn.
    have hwaits : place ∈ schedule.queue := (h.takesTurns.mem_queue place).2 ⟨_, _, hfound⟩
    obtain ⟨first, queue, hqueue⟩ := List.exists_cons_of_ne_nil (List.ne_nil_of_mem hwaits)
    obtain ⟨later, found, hfirst⟩ := (h.takesTurns.mem_queue first).1
      (hqueue ▸ List.mem_cons_self)
    have hfree : schedule.queue.idxOf first < schedule.free := by
      rw [hqueue, List.idxOf_cons_self]
      unfold free
      rw [hquiet, h.takesTurns.limit_eq]
      exact hlimit
    have hturn := hnone first _ hfirst
    simp only [moveOf?, hgoing, hfree, if_true, Bool.false_eq_true, if_false] at hturn
    cases hturn
  | running request next numbered rest outputs => cases hstuck
  | stopped error numbered rest outputs =>
    have hsome := h.notesFailures.of_stopped _ hprogress rfl
    rw [hfailure] at hsome
    cases hsome

/-- A run of the lineages of chapters keeps all that a schedule keeps, and when no chapter has
failed every chapter is finished. -/
theorem Schedule.sound_run (runOf : Chapter → ChapterRun) (host : Host σ) (state : σ) (jobs : Nat)
    (chapters : List Chapter) (earlier : List Request) :
    let schedule := Schedule.new jobs (Build.lineages chapters)
    let last := (schedule.run runOf host state).1
    last.Sound chapters (max jobs 1)
        (earlier.map .asked ++ schedule.history runOf host state) ∧
      (last.failure = none → ∀ progress ∈ last.lineages, progress.rest = []) := by
  intro schedule last
  obtain ⟨hsound, hstuck⟩ := Schedule.run_records runOf host
    (fun past (schedule : Schedule) (_ : σ) ↦ schedule.Sound chapters (max jobs 1) past)
    (fun hsound hsteps ↦ hsound.step hsteps) (fun _ hsound ↦ hsound)
    (Schedule.sound_new jobs chapters earlier)
  exact ⟨hsound, hsound.rest_eq_nil (Nat.le_max_right jobs 1) (hsound.follows.moves_eq_nil hstuck)⟩

/-- The finished chapters of all lineages are all chapters. -/
theorem Schedule.Follows.map_label (h : schedule.Follows chapters past)
    (hrest : ∀ progress ∈ schedule.lineages, progress.rest = []) :
    (schedule.lineages.flatMap Progress.outputs).map Output.label =
      ((Build.lineages chapters).flatMap Lineage.chapters).map Numbered.label := by
  have hsame : schedule.lineages.map (fun progress ↦ progress.outputs.map Output.label) =
      (Build.lineages chapters).map fun lineage ↦ lineage.chapters.map Numbered.label := by
    refine List.ext_getElem? fun place ↦ ?_
    rw [List.getElem?_map, List.getElem?_map]
    cases hfound : schedule.lineages[place]? with
    | none =>
      rw [List.getElem?_eq_none_iff, h.length_eq, ← List.getElem?_eq_none_iff] at hfound
      rw [hfound]
      rfl
    | some progress =>
      obtain ⟨lineage, hlineage, ⟨done, hdone, houtputs⟩, -⟩ := h.exists_lineage hfound
      rw [hrest progress (List.mem_of_getElem? hfound), List.append_nil] at hdone
      rw [hlineage, Option.map_some, Option.map_some, houtputs, hdone]
  rw [List.map_flatMap, List.map_flatMap, List.flatMap_def, List.flatMap_def, hsame]

/-- The result of a run in which all chapters are finished has them in order, each with what its run
has come to. -/
theorem Schedule.Follows.result_ok (h : schedule.Follows chapters past)
    (hrest : ∀ progress ∈ schedule.lineages, progress.rest = []) {outputs : List Output}
    (hresult : schedule.result = .ok outputs) :
    outputs.map Output.label = (numberedFrom 0 chapters).map Numbered.label ∧
      ∀ output ∈ outputs, .finished output.index output.markdown ∈ past := by
  have houtputs : outputs = (schedule.lineages.flatMap Progress.outputs).mergeSort
      fun a b ↦ a.index ≤ b.index := by
    unfold result at hresult
    split at hresult
    · cases hresult
    · exact (Except.ok.inj hresult).symm
  have hperm : outputs.Perm (schedule.lineages.flatMap Progress.outputs) :=
    houtputs ▸ List.mergeSort_perm _ _
  constructor
  · have hlabels :
        (outputs.map Output.label).Perm ((numberedFrom 0 chapters).map Numbered.label) := by
      refine (hperm.map Output.label).trans ?_
      rw [h.map_label hrest]
      exact (flatMap_chapters_perm chapters).map Numbered.label
    have hsorted : (outputs.map Output.label).Pairwise fun first second ↦ first.1 ≤ second.1 := by
      have hmerged : outputs.Pairwise fun a b ↦ decide (a.index ≤ b.index) = true := by
        rw [houtputs]
        refine List.pairwise_mergeSort (fun a b c hab hbc ↦ ?_) (fun a b ↦ ?_) _
        · exact decide_eq_true ((of_decide_eq_true hab).trans (of_decide_eq_true hbc))
        · simpa using Nat.le_total a.index b.index
      exact List.pairwise_map.2 (hmerged.imp fun hle ↦ of_decide_eq_true hle)
    have hnumbered : ((numberedFrom 0 chapters).map Numbered.label).Pairwise
        fun first second ↦ first.1 ≤ second.1 := by
      rw [List.pairwise_map]
      exact (numberedFrom_pairwise 0 chapters).imp Nat.le_of_lt
    refine List.Perm.eq_of_pairwise ?_ hsorted hnumbered hlabels
    · -- A number belongs to one chapter.
      intro first second hfirst hsecond hle hge
      obtain ⟨numbered, hnumbered, rfl⟩ := List.mem_map.1 (hlabels.mem_iff.1 hfirst)
      obtain ⟨other, hother, rfl⟩ := List.mem_map.1 hsecond
      obtain ⟨place, hplace, hchapter⟩ := mem_numberedFrom_iff.1 hnumbered
      obtain ⟨second, hsecond, hotherChapter⟩ := mem_numberedFrom_iff.1 hother
      have hindex : numbered.index = other.index := Nat.le_antisymm hle hge
      obtain rfl : place = second := by omega
      have hsame := Option.some.inj (hchapter.symm.trans hotherChapter)
      exact Prod.ext hindex (congrArg Chapter.path hsame)
  · intro output houtput
    obtain ⟨progress, hprogress, hmem⟩ := List.mem_flatMap.1 (hperm.mem_iff.1 houtput)
    obtain ⟨place, hfound⟩ := List.mem_iff_getElem?.1 hprogress
    obtain ⟨lineage, -, -, hrecords⟩ := h.exists_lineage hfound
    refine lineage.mem_of_mem_share ?_
    have haccount : .finished output.index output.markdown ∈ accountOf progress.outputs :=
      List.mem_flatMap.2 ⟨output, hmem, List.mem_cons_of_mem _ List.mem_cons_self⟩
    generalize lineage.share past = share at hrecords ⊢
    cases hrecords with
    | idle rest outputs => exact haccount
    | queued numbered rest outputs => exact haccount
    | running request next numbered rest outputs => exact List.mem_append_left _ haccount
    | stopped error numbered rest outputs => exact List.mem_append_left _ haccount

end Runs

end Runbook.Build
