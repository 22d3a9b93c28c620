import Runbook.Proofs.Build.Independence
import Runbook.Proofs.Build.Validation
import Runbook.Proofs.Build.Writing
/-!
# The order of a build

`attempt_orderly` says in which order things happen in an attempt to build a project whose chapters
have been found, for every host and so for every order in which the chapters can go on side by side:
`Orderly` puts together what the history of the attempt keeps.

`Course` lists the three ways in which a build can go. It cannot make the directories that the
chapters are run with, or a chapter fails, or the finished chapters are written. An attempt goes as
the build does, or it crashes before a chapter begins (`Attempted`). Each part of `Orderly` is shown
along these. What happens until the chapters have been run is kept by every step of their schedule
(`sound_untilWriting`), and no file is written until then (`quiet_untilWriting`).

That the files do not depend on how the chapters go on side by side rests on the lineages not
observing each other (`Unobserved`). Then a build writes what the lineages finish alone
(`Course.delivers`), and this mentions neither the number of chapters that may be run at once nor
the choices of the host. It holds for every number of turns that can be given out; with more there
are no files (`attempt_twoDirectories_crashed`).
-/

set_option autoImplicit false

namespace Runbook.Build

open Machine Session

variable {σ : Type}

/-! ### Chapters in a history -/

section Chapters

variable {chapters : List Chapter} {past : List Event} {index : Nat}

/-- What has happened to the chapter with a number. -/
def ofChapter (index : Nat) (past : List Event) : List Event :=
  past.filter fun event ↦ event.chapter? = some index

theorem mem_ofChapter {event : Event} :
    event ∈ ofChapter index past ↔ event ∈ past ∧ event.chapter? = some index := by
  rw [ofChapter, List.mem_filter, decide_eq_true_iff]

theorem ofChapter_concat_of_eq {event : Event} (h : event.chapter? = some index) :
    ofChapter index (past ++ [event]) = ofChapter index past ++ [event] := by
  simp [ofChapter, h]

theorem ofChapter_concat_of_ne {event : Event} (h : event.chapter? ≠ some index) :
    ofChapter index (past ++ [event]) = ofChapter index past := by
  simp [ofChapter, h]

/-- How far a chapter can have got: it has not begun, or is being run, or has ended. -/
def AtMostOnce (index : Nat) (past : List Event) : Prop :=
  ofChapter index past = [] ∨ ofChapter index past = [.began index] ∨
    ∃ last, last.isEnded = true ∧ ofChapter index past = [.began index, last]

theorem AtMostOnce.began (h : AtMostOnce index past) (hnot : .began index ∉ past) :
    AtMostOnce index (past ++ [.began index]) := by
  have hnone : .began index ∉ ofChapter index past := fun hmem ↦ hnot (mem_ofChapter.1 hmem).1
  right
  left
  rw [ofChapter_concat_of_eq rfl]
  rcases h with h | h | ⟨last, -, h⟩
  · rw [h]
    rfl
  · rw [h] at hnone
    exact (hnone List.mem_cons_self).elim
  · rw [h] at hnone
    exact (hnone List.mem_cons_self).elim

theorem AtMostOnce.ended {event : Event} (h : AtMostOnce index past) (hended : event.isEnded = true)
    (hchapter : event.chapter? = some index) (hbegan : .began index ∈ past)
    (hrunning : ∀ other ∈ past, other.isEnded = true → other.chapter? ≠ some index) :
    AtMostOnce index (past ++ [event]) := by
  have hmem : .began index ∈ ofChapter index past := mem_ofChapter.2 ⟨hbegan, rfl⟩
  right
  right
  refine ⟨event, hended, ?_⟩
  rw [ofChapter_concat_of_eq hchapter]
  rcases h with h | h | ⟨last, hlast, h⟩
  · rw [h] at hmem
    cases hmem
  · rw [h]
    rfl
  · have hin : last ∈ ofChapter index past := by
      rw [h]
      exact List.mem_cons_of_mem _ List.mem_cons_self
    obtain ⟨hinPast, hsame⟩ := mem_ofChapter.1 hin
    exact (hrunning last hinPast hlast hsame).elim

/-- In a history that is in order, every chapter begins at most once and ends at most once. -/
theorem Along.atMostOnce (h : Along (Lawful chapters) past) (index : Nat) :
    AtMostOnce index past := by
  induction past using List.reverseRecOn with
  | nil => exact .inl rfl
  | append_singleton past event ih =>
    have hpast := ih h.of_append
    have hevent : Lawful chapters past event := h past event [] rfl
    by_cases hchapter : event.chapter? = some index
    · cases event with
      | asked request => cases hchapter
      | began number =>
        cases hchapter
        exact hpast.began hevent.1
      | finished number markdown =>
        cases hchapter
        exact hpast.ended rfl rfl hevent.1 hevent.2
      | failed number error =>
        cases hchapter
        exact hpast.ended rfl rfl hevent.1 hevent.2
    · unfold AtMostOnce
      rw [ofChapter_concat_of_ne hchapter]
      exact hpast

/-- In a history that is in order, a chapter that has finished has begun once and ended once. -/
theorem Along.ofChapter_finished (h : Along (Lawful chapters) past) {markdown : String}
    (hfinished : .finished index markdown ∈ past) :
    ofChapter index past = [.began index, .finished index markdown] := by
  have hmem : .finished index markdown ∈ ofChapter index past := mem_ofChapter.2 ⟨hfinished, rfl⟩
  rcases h.atMostOnce index with hnone | hone | ⟨last, -, hboth⟩
  · rw [hnone] at hmem
    cases hmem
  · rw [hone] at hmem
    cases List.mem_singleton.1 hmem
  · rw [hboth] at hmem ⊢
    rcases List.mem_cons.1 hmem with hsame | hmem
    · cases hsame
    · rw [List.mem_singleton.1 hmem]

end Chapters

/-! ### The course of a build -/

/-- What happens in a build before its chapters are run. -/
def beforeChapters (host : Host σ) (settings : Settings) (state : σ) : List Event :=
  ((begin settings).run.asked host state).map .asked

/-- What happens in a build until its chapters have been run. -/
def untilWriting (host : Host σ) (settings : Settings) (chapters : List Chapter) (state : σ) :
    List Event :=
  beforeChapters host settings state ++
    chaptersHistory host settings chapters ((begin settings).run.on host state).2

/-- How a build can go once its chapters have been found: what happens and what it comes to. -/
inductive Course (host : Host σ) (settings : Settings) (chapters : List Chapter) (state : σ) :
    List Event → Except BuildError Summary → Prop where
  /-- A directory that chapters are run with cannot be made. -/
  | unprepared {path : Option String} {cause : IoError} (refused : ¬Accepting host) :
    Course host settings chapters state (beforeChapters host settings state)
      (.error (.write path cause))
  /-- A chapter fails. -/
  | failed {error : BuildError} {reached : σ}
    (hran : runAll host settings chapters ((begin settings).run.on host state).2 =
      (.error error, reached)) :
    Course host settings chapters state (untilWriting host settings chapters state) (.error error)
  /-- The finished chapters are written, as far as they can be. -/
  | written {outputs : List Output} {reached : σ}
    (hran : runAll host settings chapters ((begin settings).run.on host state).2 =
      (.ok outputs, reached)) :
    Course host settings chapters state
      (untilWriting host settings chapters state ++
        ((writeAll settings outputs).run.asked host reached).map .asked)
      (((writeAll settings outputs).run.on host reached).1.map fun _ ↦
        summarize settings chapters)

section Course

variable {host : Host σ} {settings : Settings} {chapters : List Chapter} {state : σ}

/-- Making the directories that chapters are run with can fail, and nothing else can before they are
run. -/
theorem begin_of_discover (h : ((discover settings).on host state).1 = .ok chapters) :
    ((begin settings).run.on host state).1 = .ok chapters ∨ ¬Accepting host ∧
      ∃ path cause, ((begin settings).run.on host state).1 = .error (.write path cause) := by
  rw [run_begin, Act.on_bind]
  generalize (discover settings).on host state = found at h
  obtain ⟨out, reached⟩ := found
  cases h
  have hprepare := writes_prepare settings σ host reached
  simp only [Act.on_bind]
  generalize filesOf ((prepare settings).run.asked host reached) = done at hprepare
  generalize (prepare settings).run.on host reached = made at hprepare
  obtain ⟨result, last⟩ := made
  cases hprepare with
  | all => exact .inl rfl
  | some refused isPrefix => exact .inr ⟨refused, _, _, rfl⟩

theorem begin_of_accepting (h : ((discover settings).on host state).1 = .ok chapters)
    (haccepting : Accepting host) : ((begin settings).run.on host state).1 = .ok chapters :=
  (begin_of_discover h).resolve_right fun hrefused ↦ hrefused.1 haccepting

theorem course_of_discover (h : ((discover settings).on host state).1 = .ok chapters) :
    Course host settings chapters state (history host settings state)
      (build host settings state).1 := by
  have hbegin := begin_of_discover h
  have hunprepared := @Course.unprepared σ host settings chapters state
  have hfailed := @Course.failed σ host settings chapters state
  have hwritten := @Course.written σ host settings chapters state
  unfold history build
  unfold untilWriting at hfailed hwritten
  generalize (begin settings).run.on host state = begun at *
  obtain ⟨out, start⟩ := begun
  rcases hbegin with hok | ⟨refused, path, cause, herror⟩
  · cases hok
    simp only
    generalize hran : runAll host settings chapters start = ran at *
    obtain ⟨error | outputs, reached⟩ := ran
    · rw [List.append_nil]
      exact hfailed rfl
    · have hlast := hwritten rfl
      simp only
      rw [← List.append_assoc]
      generalize (writeAll settings outputs).run.on host reached = out at *
      obtain ⟨error | _, last⟩ := out <;> exact hlast
  · cases herror
    rw [List.append_nil]
    exact hunprepared refused

/-- When directories can be made, a history starts with what happens until the chapters have been
run. -/
theorem untilWriting_isPrefix (h : ((discover settings).on host state).1 = .ok chapters)
    (haccepting : Accepting host) :
    untilWriting host settings chapters state <+: history host settings state := by
  have hcourse := course_of_discover h
  generalize history host settings state = past at hcourse ⊢
  generalize (build host settings state).1 = result at hcourse
  cases hcourse with
  | unprepared refused => exact (refused haccepting).elim
  | failed hran => exact List.prefix_refl _
  | written hran => exact List.prefix_append _ _

end Course

/-! ### The course of an attempt -/

/-- What happens in an attempt to build a project: what happens in the build, or only what comes
before the chapters when turns cannot be given out. -/
def attemptHistory (host : Host σ) (settings : Settings) (state : σ) : List Event :=
  if max settings.jobs 1 ≤ Schedule.maxTurns then history host settings state
  else beforeChapters host settings state

/-- The requests that an attempt asks of a host, in order. -/
def attemptRequests (host : Host σ) (settings : Settings) (state : σ) : List Request :=
  (attempt host.logging settings (state, [])).2.2

/-- How an attempt can go once the chapters have been found: what happens and what it comes to. -/
inductive Attempted (host : Host σ) (settings : Settings) (chapters : List Chapter) (state : σ) :
    List Event → Outcome → Prop where
  /-- It goes as the build does: turns can be given out, or it does not get that far. -/
  | returned {past : List Event} {result : Except BuildError Summary}
    (hturns : max settings.jobs 1 ≤ Schedule.maxTurns ∨
      ((begin settings).run.on host state).1 ≠ .ok chapters)
    (hcourse : Course host settings chapters state past result) :
    Attempted host settings chapters state past (.returned result)
  /-- Turns cannot be given out. -/
  | crashed (hmany : Schedule.maxTurns < max settings.jobs 1)
    (hbegan : ((begin settings).run.on host state).1 = .ok chapters) :
    Attempted host settings chapters state (beforeChapters host settings state) .crashed

section Attempt

variable {host : Host σ} {settings : Settings} {chapters : List Chapter} {state : σ}

theorem attempted_of_discover (h : ((discover settings).on host state).1 = .ok chapters) :
    Attempted host settings chapters state (attemptHistory host settings state)
      (attempt host settings state).1 := by
  unfold attemptHistory attempt
  split
  · next hfew => exact .returned (.inl hfew) (course_of_discover h)
  · next hmany =>
    have hcrashed := @Attempted.crashed σ host settings chapters state (Nat.lt_of_not_le hmany)
    have hreturned := @Attempted.returned σ host settings chapters state
    have hbegin := begin_of_discover h
    generalize (begin settings).run.on host state = begun at *
    obtain ⟨out, start⟩ := begun
    rcases hbegin with hok | ⟨refused, path, cause, herror⟩
    · cases hok
      exact hcrashed rfl
    · cases herror
      exact hreturned (.inr nofun) (.unprepared refused)

/-- The requests in the history of an attempt are those of the attempt. -/
theorem filterMap_request?_attemptHistory (host : Host σ) (settings : Settings) (state : σ) :
    (attemptHistory host settings state).filterMap Event.request? =
      attemptRequests host settings state := by
  unfold attemptHistory attemptRequests attempt
  split
  · exact filterMap_request?_history host settings state
  · rw [beforeChapters, Event.filterMap_request?_asked, Act.on_logging_asked, List.nil_append]
    generalize (begin settings).run.on host state = begun
    obtain ⟨error | chapters, start⟩ := begun <;> rfl

end Attempt

/-! ### What is kept in the course of a build -/

/-- The file of a chapter that is finished. -/
def Chapter.file (settings : Settings) (chapter : Chapter) (markdown : String) : String × Bytes :=
  (Path.join settings.outputDir chapter.path, Text.encode markdown)

/-- A file is written in place only after every chapter has finished. -/
def AfterAll (chapters : List Chapter) (before : List Event) (event : Event) : Prop :=
  ∀ path content, event = .asked (.writeFile path content) →
    ∀ index < chapters.length, ∃ markdown, .finished index markdown ∈ before

section Phases

variable {host : Host σ} {settings : Settings} {chapters : List Chapter} {state reached : σ}
  {outputs : List Output} {index : Nat}

theorem file_eq (h : outputs.map Output.label = (numberedFrom index chapters).map Numbered.label) :
    outputs.map (Output.file settings) =
      List.zipWith (Chapter.file settings) chapters (outputs.map Output.markdown) := by
  induction chapters generalizing index outputs with
  | nil =>
    rw [List.map_eq_nil_iff.1 h]
    rfl
  | cons chapter chapters ih =>
    cases outputs with
    | nil => cases h
    | cons output outputs =>
      obtain ⟨hlabel, hrest⟩ := List.cons.inj h
      have hpath : output.path = chapter.path := (Prod.mk.inj hlabel).2
      have hfile : output.file settings = chapter.file settings output.markdown :=
        congrArg (fun path ↦ (Path.join settings.outputDir path, Text.encode output.markdown)) hpath
      rw [List.map_cons, List.map_cons, List.zipWith_cons_cons, ih hrest, hfile]

theorem output_of_label
    (h : outputs.map Output.label = (numberedFrom 0 chapters).map Numbered.label) (place : Nat) :
    (outputs[place]?).map Output.label =
      (chapters[place]?).map fun chapter ↦ (place, chapter.path) := by
  have hplace := congrArg (·[place]?) h
  simp only [List.getElem?_map, getElem?_numberedFrom, Option.map_map, Nat.zero_add] at hplace
  exact hplace

theorem quiet_untilWriting (host : Host σ) (settings : Settings) (chapters : List Chapter)
    (state : σ) {request : Request}
    (h : .asked request ∈ untilWriting host settings chapters state) :
    NotInPlace request := by
  rcases List.mem_append.1 h with h | h
  · obtain ⟨asked, hasked, hsame⟩ := List.mem_map.1 h
    cases hsame
    exact (quiet_begin settings).of_mem_asked host state request hasked
  · exact quiet_chaptersHistory host settings chapters _ h

/-- All that a schedule keeps is kept until the chapters have been run. -/
theorem sound_untilWriting (host : Host σ) (settings : Settings) (chapters : List Chapter)
    (state : σ) : ∃ schedule : Schedule,
      (runAll host settings chapters ((begin settings).run.on host state).2).1 = schedule.result ∧
      schedule.Sound chapters (max settings.jobs 1) (untilWriting host settings chapters state) ∧
      (schedule.failure = none → ∀ progress ∈ schedule.lineages, progress.rest = []) := by
  have hrun := Schedule.sound_run (fun chapter ↦ (chapter.run settings).run) host
    ((begin settings).run.on host state).2 settings.jobs chapters
    ((begin settings).run.asked host state)
  exact ⟨_, rfl, hrun⟩

theorem Schedule.failure_of_result {schedule : Schedule} (h : schedule.result = .ok outputs) :
    schedule.failure = none := by
  unfold Schedule.result at h
  split at h
  · cases h
  · assumption

/-- When no chapter fails, all chapters have finished and are put in order. -/
theorem finished_of_runAll (hran : runAll host settings chapters
      ((begin settings).run.on host state).2 = (.ok outputs, reached)) :
    outputs.map Output.label = (numberedFrom 0 chapters).map Numbered.label ∧
      ∀ output ∈ outputs,
        .finished output.index output.markdown ∈ untilWriting host settings chapters state := by
  obtain ⟨schedule, hresult, hsound, hrest⟩ := sound_untilWriting host settings chapters state
  rw [hran] at hresult
  exact hsound.follows.result_ok (hrest (Schedule.failure_of_result hresult.symm)) hresult.symm

/-- When no chapter fails, every chapter has finished with its text. -/
theorem markdowns_of_runAll (hran : runAll host settings chapters
      ((begin settings).run.on host state).2 = (.ok outputs, reached)) :
    (outputs.map Output.markdown).length = chapters.length ∧
      ∀ index markdown, (outputs.map Output.markdown)[index]? = some markdown →
        .finished index markdown ∈ untilWriting host settings chapters state := by
  obtain ⟨hlabels, hfinished⟩ := finished_of_runAll hran
  refine ⟨?_, fun index markdown hmarkdown ↦ ?_⟩
  · have hlength := congrArg List.length hlabels
    rw [List.length_map, List.length_map, length_numberedFrom] at hlength
    rw [List.length_map]
    exact hlength
  · rw [List.getElem?_map] at hmarkdown
    obtain ⟨output, houtput, rfl⟩ := Option.map_eq_some_iff.1 hmarkdown
    have hplace := output_of_label hlabels index
    rw [houtput] at hplace
    obtain ⟨chapter, -, hlabel⟩ := Option.map_eq_some_iff.1 hplace.symm
    have hnumber : index = output.index := (Prod.mk.inj hlabel).1
    rw [hnumber]
    exact hfinished output (List.mem_of_getElem? houtput)

theorem failed_not_mem_of_runAll (hran : runAll host settings chapters
      ((begin settings).run.on host state).2 = (.ok outputs, reached)) (index : Nat)
    (error : BuildError) : .failed index error ∉ untilWriting host settings chapters state := by
  intro hfailed
  obtain ⟨schedule, hresult, hsound, -⟩ := sound_untilWriting host settings chapters state
  rw [hran] at hresult
  have hsome := hsound.notesFailures.of_failed index error hfailed
  rw [Schedule.failure_of_result hresult.symm] at hsome
  cases hsome

theorem afterAll_of_quiet {past : List Event}
    (h : ∀ request, .asked request ∈ past → NotInPlace request) :
    Along (AfterAll chapters) past := by
  refine along_of_forall fun event hevent before path content hasked ↦ ?_
  rw [hasked] at hevent
  exact (h _ hevent path content rfl).elim

end Phases

/-! ### Building -/

/-- The files of the chapters that the lineages finish alone, unless one of them fails. -/
def filesAlone? (host : Host σ) (settings : Settings) (chapters : List Chapter) (start : σ) :
    Option (List (String × Bytes)) :=
  (outputsAlone? host (fun chapter ↦ (chapter.run settings).run) chapters start).map
    (List.map (Output.file settings))

/-- What a build comes to and writes, given the files that it should write, or that a chapter should
fail: it writes these files, or fails and writes none. When the host refuses to make a directory or
to write a file, the files before that one are written. -/
def Delivers (accepting : Prop) (summary : Summary) (result : Except BuildError Summary)
    (done : List (String × Bytes)) : Option (List (String × Bytes)) → Prop
  | some files => Wrote accepting summary files result done
  | none => (∃ error, result = .error error) ∧ done = []

/-- What the order of an attempt to build a project is, on a host that starts in a state in which
there are some chapters. The history of the attempt is what is said to be in order. -/
structure Orderly (host : Host σ) (settings : Settings) (chapters : List Chapter) (state : σ) :
    Prop where
  /-- The requests in the history are those of the attempt. -/
  requests_eq : (attemptHistory host settings state).filterMap Event.request? =
    attemptRequests host settings state
  /-- Chapters in one directory are run one after the other, in order, and each of them only when
  those before it have succeeded. -/
  lawful : Along (Lawful chapters) (attemptHistory host settings state)
  /-- No more chapters are being run at any time than may be. -/
  bounded : Along (Bounded (max settings.jobs 1)) (attemptHistory host settings state)
  /-- No file is written before every chapter has succeeded. -/
  afterAll : Along (AfterAll chapters) (attemptHistory host settings state)
  /-- When a chapter fails, the build fails and no file is written. -/
  failing : ∀ index error, .failed index error ∈ attemptHistory host settings state →
    (∃ cause, (attempt host settings state).1 = .returned (.error cause)) ∧
      filesOf (attemptRequests host settings state) = []
  /-- When the build succeeds, each chapter has been run once, and the files that are written are
  those of the chapters, in order. -/
  succeeding : ∀ summary, (attempt host settings state).1 = .returned (.ok summary) →
    ∃ markdowns : List String, markdowns.length = chapters.length ∧
      (∀ index markdown, markdowns[index]? = some markdown →
        ofChapter index (attemptHistory host settings state) =
          [.began index, .finished index markdown]) ∧
      filesOf (attemptRequests host settings state) =
        List.zipWith (Chapter.file settings) chapters markdowns
  /-- It crashes exactly when more turns are wanted than can be given out and the directories can be
  made that chapters are run with. -/
  crashes_iff : (attempt host settings state).1 = .crashed ↔
    Schedule.maxTurns < max settings.jobs 1 ∧
      ((begin settings).run.on host state).1 = .ok chapters
  /-- When it crashes, no chapter has begun and no file has been written. -/
  crashing : (attempt host settings state).1 = .crashed →
    (∀ index, ofChapter index (attemptHistory host settings state) = []) ∧
      filesOf (attemptRequests host settings state) = []
  /-- When lineages do not observe each other, the build comes to the same and writes the same
  files, however many chapters may be run at once, as far as turns can be given out, and whatever
  the host chooses. -/
  independent : ∀ (jobs : Nat) (choose : σ → List PossibleStep → Nat × σ)
    (Alike : Nat → LineageRun → σ → LineageRun → σ → Prop),
    max jobs 1 ≤ Schedule.maxTurns →
    Unobserved { host with choose }
      ((lineages chapters).map (Lineage.run fun chapter ↦ (chapter.run settings).run))
      ((begin settings).run.on host state).2 Alike →
    ∃ result, (attempt { host with choose } { settings with jobs } state).1 = .returned result ∧
      Delivers (Accepting host) (summarize settings chapters) result
        (filesOf (attemptRequests { host with choose } { settings with jobs } state))
        (filesAlone? host settings chapters ((begin settings).run.on host state).2)

section Building

variable {host : Host σ} {settings : Settings} {chapters : List Chapter} {state : σ}
  {past : List Event} {result : Except BuildError Summary} {outcome : Outcome}

theorem exists_of_mem_asked {asked : List Request} {event : Event}
    (h : event ∈ asked.map Event.asked) : ∃ request ∈ asked, event = .asked request := by
  obtain ⟨request, hrequest, rfl⟩ := List.mem_map.1 h
  exact ⟨request, hrequest, rfl⟩

theorem lawful_beforeChapters (host : Host σ) (settings : Settings) (chapters : List Chapter)
    (state : σ) : Along (Lawful chapters) (beforeChapters host settings state) := by
  refine along_of_forall fun event hevent before ↦ ?_
  obtain ⟨request, -, rfl⟩ := exists_of_mem_asked hevent
  trivial

theorem Course.lawful (h : Course host settings chapters state past result) :
    Along (Lawful chapters) past := by
  obtain ⟨schedule, -, hsound, -⟩ := sound_untilWriting host settings chapters state
  cases h with
  | unprepared refused => exact lawful_beforeChapters host settings chapters state
  | failed hran => exact hsound.follows.lawful
  | written hran =>
    refine hsound.follows.lawful.append fun event hevent later ↦ ?_
    obtain ⟨request, -, rfl⟩ := exists_of_mem_asked hevent
    trivial

theorem isBegan_of_mem_asked {asked : List Request} :
    ∀ event ∈ asked.map Event.asked, event.isBegan = false := by
  intro event hevent
  obtain ⟨request, -, rfl⟩ := exists_of_mem_asked hevent
  rfl

theorem bounded_beforeChapters (host : Host σ) (settings : Settings) (state : σ) (bound : Nat) :
    Along (Bounded bound) (beforeChapters host settings state) := by
  have hnew : Along (Bounded bound) ([] ++ beforeChapters host settings state) :=
    along_nil.bounded_append (Nat.zero_le _) isBegan_of_mem_asked
  exact hnew

theorem Course.bounded (h : Course host settings chapters state past result) :
    Along (Bounded (max settings.jobs 1)) past := by
  obtain ⟨schedule, -, hsound, -⟩ := sound_untilWriting host settings chapters state
  cases h with
  | unprepared refused => exact bounded_beforeChapters host settings state _
  | failed hran => exact hsound.takesTurns.bounded
  | written hran =>
    exact hsound.takesTurns.bounded.bounded_append hsound.takesTurns.bound isBegan_of_mem_asked

theorem afterAll_beforeChapters (host : Host σ) (settings : Settings) (chapters : List Chapter)
    (state : σ) : Along (AfterAll chapters) (beforeChapters host settings state) :=
  afterAll_of_quiet fun _ hrequest ↦
    quiet_untilWriting host settings chapters state (List.mem_append_left _ hrequest)

theorem Course.afterAll (h : Course host settings chapters state past result) :
    Along (AfterAll chapters) past := by
  have hquiet : Along (AfterAll chapters) (untilWriting host settings chapters state) :=
    afterAll_of_quiet fun _ hrequest ↦ quiet_untilWriting host settings chapters state hrequest
  cases h with
  | unprepared refused => exact afterAll_beforeChapters host settings chapters state
  | failed hran => exact hquiet
  | @written outputs reached hran =>
    obtain ⟨hlabels, hfinished⟩ := finished_of_runAll hran
    refine hquiet.append fun event _ later path content _ index hindex ↦ ?_
    have hplace := output_of_label hlabels index
    rw [List.getElem?_eq_getElem hindex] at hplace
    obtain ⟨output, houtput, hlabel⟩ := Option.map_eq_some_iff.1 hplace
    have hnumber : output.index = index := (Prod.mk.inj hlabel).1
    have hmem := hfinished output (List.mem_of_getElem? houtput)
    rw [hnumber] at hmem
    exact ⟨output.markdown, List.mem_append_left _ hmem⟩

/-- No file is written before the chapters are run. -/
theorem filesOf_beforeChapters (host : Host σ) (settings : Settings) (state : σ) :
    filesOf ((beforeChapters host settings state).filterMap Event.request?) = [] := by
  rw [beforeChapters, Event.filterMap_request?_asked]
  exact (quiet_begin settings).filesOf_asked host state

/-- The files that are written until the chapters have been run are none. -/
theorem filesOf_untilWriting (host : Host σ) (settings : Settings) (chapters : List Chapter)
    (state : σ) :
    filesOf ((untilWriting host settings chapters state).filterMap Event.request?) = [] := by
  refine filesOf_eq_nil fun request hrequest ↦ ?_
  obtain ⟨event, hevent, hsome⟩ := List.mem_filterMap.1 hrequest
  cases event with
  | asked found =>
    cases hsome
    exact quiet_untilWriting host settings chapters state hevent
  | _ => cases hsome

/-- The files of a build are those that are written once the chapters have been run. -/
theorem filesOf_written (host : Host σ) (settings : Settings) (chapters : List Chapter) (state : σ)
    (asked : List Request) :
    filesOf ((untilWriting host settings chapters state ++ asked.map Event.asked).filterMap
      Event.request?) = filesOf asked := by
  rw [List.filterMap_append, filesOf_append, filesOf_untilWriting, Event.filterMap_request?_asked]
  rfl

theorem Course.failing (h : Course host settings chapters state past result) {index : Nat}
    {error : BuildError} (hfailed : .failed index error ∈ past) :
    (∃ cause, result = .error cause) ∧ filesOf (past.filterMap Event.request?) = [] := by
  cases h with
  | unprepared refused =>
    obtain ⟨request, -, hsame⟩ := exists_of_mem_asked hfailed
    cases hsame
  | failed hran => exact ⟨⟨_, rfl⟩, filesOf_untilWriting host settings chapters state⟩
  | written hran =>
    rcases List.mem_append.1 hfailed with hfailed | hfailed
    · exact (failed_not_mem_of_runAll hran index error hfailed).elim
    · obtain ⟨request, -, hsame⟩ := exists_of_mem_asked hfailed
      cases hsame

theorem Course.succeeding (h : Course host settings chapters state past result) {summary : Summary}
    (hresult : result = .ok summary) :
    ∃ markdowns : List String, markdowns.length = chapters.length ∧
      (∀ index markdown, markdowns[index]? = some markdown →
        ofChapter index past = [.began index, .finished index markdown]) ∧
      filesOf (past.filterMap Event.request?) =
        List.zipWith (Chapter.file settings) chapters markdowns := by
  have hlawful := h.lawful
  cases h with
  | unprepared => cases hresult
  | failed hran => cases hresult
  | @written outputs reached hran =>
    obtain ⟨hlabels, -⟩ := finished_of_runAll hran
    obtain ⟨hlength, hmarkdowns⟩ := markdowns_of_runAll hran
    refine ⟨outputs.map Output.markdown, hlength, fun index markdown hmarkdown ↦ ?_, ?_⟩
    · have hmem := hmarkdowns index markdown hmarkdown
      exact hlawful.ofChapter_finished (List.mem_append_left _ hmem)
    · have hwrote := writes_writeAll settings outputs σ host reached
      rw [filesOf_written, ← file_eq hlabels]
      generalize filesOf ((writeAll settings outputs).run.asked host reached) = done at hwrote ⊢
      generalize ((writeAll settings outputs).run.on host reached).1 = out at hwrote hresult
      cases hwrote with
      | all => rfl
      | some refused isPrefix => cases hresult

/-- A build comes to what its lineages come to alone. Assumes: they do not observe each other. -/
theorem Course.delivers (h : Course host settings chapters state past result)
    {Alike : Nat → LineageRun → σ → LineageRun → σ → Prop}
    (hunobserved : Unobserved host
      ((lineages chapters).map (Lineage.run fun chapter ↦ (chapter.run settings).run))
      ((begin settings).run.on host state).2 Alike) :
    Delivers (Accepting host) (summarize settings chapters) result
      (filesOf (past.filterMap Event.request?))
      (filesAlone? host settings chapters ((begin settings).run.on host state).2) := by
  have hresult : (runAll host settings chapters ((begin settings).run.on host state).2).1.toOption =
      outputsAlone? host (fun chapter ↦ (chapter.run settings).run) chapters
        ((begin settings).run.on host state).2 :=
    Schedule.toOption_result settings.jobs hunobserved
  unfold filesAlone?
  rw [← hresult]
  cases h with
  | unprepared refused =>
    rw [filesOf_beforeChapters]
    cases (runAll host settings chapters ((begin settings).run.on host state).2).1 with
    | error error => exact ⟨⟨_, rfl⟩, rfl⟩
    | ok outputs => exact .some refused List.nil_prefix
  | failed hran =>
    rw [filesOf_untilWriting, hran]
    exact ⟨⟨_, rfl⟩, rfl⟩
  | @written outputs reached hran =>
    rw [filesOf_written, hran]
    exact (writes_writeAll settings outputs σ host reached).map fun _ ↦ summarize settings chapters

/-! ### How many chapters may be run at once -/

theorem chaptersFrom_jobs (settings : Settings) (jobs : Nat) (before : List Chapter)
    (findings : List Finding) : chaptersFrom { settings with jobs } before findings =
      chaptersFrom settings before findings := by
  induction findings generalizing before with
  | nil => rfl
  | cons finding findings ih =>
    have hfinding : Chapter.ofFinding { settings with jobs } before finding =
        Chapter.ofFinding settings before finding := rfl
    rw [chaptersFrom, chaptersFrom, hfinding]
    cases Chapter.ofFinding settings before finding with
    | error error => rfl
    | ok chapter => exact ih (before ++ [chapter])

/-- Which chapters are found does not depend on how many may be run at once. -/
theorem discover_jobs (settings : Settings) (jobs : Nat) :
    discover { settings with jobs } = discover settings := by
  have hfind : findAll { settings with jobs } = findAll settings := by
    refine congrArg (Act.ask (.entryKind settings.docsDir true)) (funext fun answer ↦ ?_)
    obtain error | kind := answer
    · rfl
    · cases kind <;> rfl
  rw [discover_eq, discover_eq, hfind]
  congr 1
  funext found
  cases found with
  | none => rfl
  | some findings => exact congrArg pure (chaptersFrom_jobs settings jobs [] findings)

theorem begin_jobs (settings : Settings) (jobs : Nat) :
    begin { settings with jobs } = begin settings := by
  unfold begin
  rw [discover_jobs]
  rfl

/-- An attempt comes to what the lineages come to alone, however many chapters may be run at once
and whatever the host chooses. Assumes: turns can be given out, and the lineages do not observe each
other. -/
theorem delivers_of_discover (h : ((discover settings).on host state).1 = .ok chapters) {jobs : Nat}
    {choose : σ → List PossibleStep → Nat × σ}
    {Alike : Nat → LineageRun → σ → LineageRun → σ → Prop} (hfew : max jobs 1 ≤ Schedule.maxTurns)
    (hunobserved : Unobserved { host with choose }
      ((lineages chapters).map (Lineage.run fun chapter ↦ (chapter.run settings).run))
      ((begin settings).run.on host state).2 Alike) :
    ∃ result, (attempt { host with choose } { settings with jobs } state).1 = .returned result ∧
      Delivers (Accepting host) (summarize settings chapters) result
        (filesOf (attemptRequests { host with choose } { settings with jobs } state))
        (filesAlone? host settings chapters ((begin settings).run.on host state).2) := by
  have hfound : ((discover { settings with jobs }).on { host with choose } state).1 =
      .ok chapters := by
    rw [discover_jobs]
    exact h
  have hbegin : ((begin { settings with jobs }).run.on { host with choose } state).2 =
      ((begin settings).run.on host state).2 := by
    rw [begin_jobs]
    rfl
  have hunobserved' : Unobserved { host with choose }
      ((lineages chapters).map
        (Lineage.run fun chapter ↦ (chapter.run { settings with jobs }).run))
      ((begin { settings with jobs }).run.on { host with choose } state).2 Alike := by
    rw [hbegin]
    exact hunobserved
  have haccepting : Accepting { host with choose } ↔ Accepting host :=
    ⟨fun h ↦ ⟨h.makeDirectories, h.writeFile⟩, fun h ↦ ⟨h.makeDirectories, h.writeFile⟩⟩
  have hattempted := attempted_of_discover hfound
  rw [← filterMap_request?_attemptHistory]
  generalize attemptHistory { host with choose } { settings with jobs } state = past at hattempted ⊢
  generalize (attempt { host with choose } { settings with jobs } state).1 = outcome at hattempted
  cases hattempted with
  | returned hturns hcourse =>
    have hdelivers := hcourse.delivers hunobserved'
    rw [hbegin, haccepting] at hdelivers
    exact ⟨_, rfl, hdelivers⟩
  | crashed hmany hbegan => exact absurd hfew (Nat.not_le_of_lt hmany)

/-! ### What is kept in the course of an attempt -/

theorem Attempted.lawful (h : Attempted host settings chapters state past outcome) :
    Along (Lawful chapters) past := by
  cases h with
  | returned hturns hcourse => exact hcourse.lawful
  | crashed hmany hbegan => exact lawful_beforeChapters host settings chapters state

theorem Attempted.bounded (h : Attempted host settings chapters state past outcome) :
    Along (Bounded (max settings.jobs 1)) past := by
  cases h with
  | returned hturns hcourse => exact hcourse.bounded
  | crashed hmany hbegan => exact bounded_beforeChapters host settings state _

theorem Attempted.afterAll (h : Attempted host settings chapters state past outcome) :
    Along (AfterAll chapters) past := by
  cases h with
  | returned hturns hcourse => exact hcourse.afterAll
  | crashed hmany hbegan => exact afterAll_beforeChapters host settings chapters state

theorem Attempted.failing (h : Attempted host settings chapters state past outcome) {index : Nat}
    {error : BuildError} (hfailed : .failed index error ∈ past) :
    (∃ cause, outcome = .returned (.error cause)) ∧
      filesOf (past.filterMap Event.request?) = [] := by
  cases h with
  | returned hturns hcourse =>
    obtain ⟨⟨cause, rfl⟩, hfiles⟩ := hcourse.failing hfailed
    exact ⟨⟨cause, rfl⟩, hfiles⟩
  | crashed hmany hbegan =>
    obtain ⟨request, -, hsame⟩ := exists_of_mem_asked hfailed
    cases hsame

theorem Attempted.succeeding (h : Attempted host settings chapters state past outcome)
    {summary : Summary} (houtcome : outcome = .returned (.ok summary)) :
    ∃ markdowns : List String, markdowns.length = chapters.length ∧
      (∀ index markdown, markdowns[index]? = some markdown →
        ofChapter index past = [.began index, .finished index markdown]) ∧
      filesOf (past.filterMap Event.request?) =
        List.zipWith (Chapter.file settings) chapters markdowns := by
  cases h with
  | returned hturns hcourse => exact hcourse.succeeding (Outcome.returned.inj houtcome)
  | crashed hmany hbegan => cases houtcome

theorem Attempted.crashes_iff (h : Attempted host settings chapters state past outcome) :
    outcome = .crashed ↔ Schedule.maxTurns < max settings.jobs 1 ∧
      ((begin settings).run.on host state).1 = .ok chapters := by
  cases h with
  | returned hturns hcourse =>
    refine iff_of_false nofun ?_
    rintro ⟨hmany, hbegan⟩
    rcases hturns with hfew | hnot
    · exact absurd hfew (Nat.not_le_of_lt hmany)
    · exact hnot hbegan
  | crashed hmany hbegan => exact iff_of_true rfl ⟨hmany, hbegan⟩

theorem Attempted.crashing (h : Attempted host settings chapters state past outcome)
    (houtcome : outcome = .crashed) :
    (∀ index, ofChapter index past = []) ∧ filesOf (past.filterMap Event.request?) = [] := by
  cases h with
  | returned hturns hcourse => cases houtcome
  | crashed hmany hbegan =>
    refine ⟨fun index ↦ List.filter_eq_nil_iff.2 fun event hevent ↦ ?_,
      filesOf_beforeChapters host settings state⟩
    obtain ⟨request, -, rfl⟩ := exists_of_mem_asked hevent
    exact of_decide_eq_false rfl

/-- Every attempt to build a project whose chapters are found is in order: chapters in one directory
are run one after the other, no more are run at once than may be, files are written last and in
order, and which files they are does not depend on how the chapters go on side by side when they do
not observe each other. With more turns than can be given out it crashes before a chapter begins. -/
theorem attempt_orderly (h : ((discover settings).on host state).1 = .ok chapters) :
    Orderly host settings chapters state := by
  have hattempted := attempted_of_discover h
  refine ⟨filterMap_request?_attemptHistory host settings state, hattempted.lawful,
    hattempted.bounded, hattempted.afterAll, fun index error hfailed ↦ ?_,
    fun summary hbuilt ↦ ?_, hattempted.crashes_iff, fun hcrashed ↦ ?_,
    fun jobs choose Alike hfew hunobserved ↦ delivers_of_discover h hfew hunobserved⟩
  · rw [← filterMap_request?_attemptHistory]
    exact hattempted.failing hfailed
  · rw [← filterMap_request?_attemptHistory]
    exact hattempted.succeeding hbuilt
  · rw [← filterMap_request?_attemptHistory]
    exact hattempted.crashing hcrashed

end Building

/-! ### Two chapters in directories of their own -/

/-- A machine with two chapters in directories of their own, which counts the choices that have been
made. No answer depends on the state. -/
def twoDirectories : Host Nat where
  choose := fun state _ ↦ (state, state + 1)
  answer := fun state request ↦ (match request with
    | .entries _ => Except.ok [("a.md", EntryKind.file), ("b.md", EntryKind.file)]
    | .readText path => Except.ok (if path = "chapters/a.md"
        then "---\ncwd: one\n---\n```run:command\nls\n```\n"
        else "---\ncwd: two\n---\nText.\n")
    | request => request.easyReply, state)

/-- The files that these chapters finish alone. -/
def twoFiles : List (String × Bytes) :=
  [("dist/a.md", Text.encode "---\ncwd: one\n---\n```console\n$ ls\n```\n"),
    ("dist/b.md", Text.encode "---\ncwd: two\n---\nText.\n")]

theorem exists_unobserved_twoDirectories (choose : Nat → List PossibleStep → Nat × Nat)
    (runs : List LineageRun) (start : Nat) :
    ∃ Alike, Unobserved { twoDirectories with choose } runs start Alike :=
  ⟨_, unobserved_of_views (fun _ _ ↦ ()) (fun _ _ ↦ True) (fun _ run _ ↦ run.always_true)
    (fun _ _ _ _ _ _ ↦ ⟨rfl, rfl⟩) (fun _ _ _ _ _ _ ↦ rfl) fun _ _ _ ↦ rfl⟩

theorem accepting_twoDirectories : Accepting twoDirectories :=
  ⟨fun _ _ ↦ rfl, fun _ _ _ ↦ rfl⟩

theorem discover_twoDirectories :
    ∃ chapters, ((discover Settings.default).on twoDirectories 0).1 = .ok chapters ∧
      chapters.map Chapter.workdir = ["scratch/one", "scratch/two"] ∧
      filesAlone? twoDirectories Settings.default chapters
        ((begin Settings.default).run.on twoDirectories 0).2 = some twoFiles := by
  have hevaluated : ((discover Settings.default).on twoDirectories 0).1.toOption.map
      (fun chapters ↦ (chapters.map Chapter.workdir, finishedAlone twoDirectories
        (fun chapter ↦ (chapter.run Settings.default).run) chapters 0)) =
      some (["scratch/one", "scratch/two"],
        [[⟨0, "a.md", "---\ncwd: one\n---\n```console\n$ ls\n```\n"⟩],
          [⟨1, "b.md", "---\ncwd: two\n---\nText.\n"⟩]].map some) := by
    have hkind : (Act.request (.entryKind Settings.default.docsDir true)).on twoDirectories 0 =
        (Except.ok EntryKind.directory, 0) := rfl
    have hentries : (Act.request (.entries Settings.default.docsDir)).on twoDirectories 0 =
        (Except.ok [("a.md", EntryKind.file), ("b.md", EntryKind.file)], 0) := rfl
    have hplace : (Act.request (.canonical Settings.default.docsDir)).on twoDirectories 0 =
        (Except.ok Settings.default.docsDir, 0) := rfl
    have horder : inOrder [("a.md", EntryKind.file), ("b.md", EntryKind.file)] =
        [("a.md", EntryKind.file), ("b.md", EntryKind.file)] :=
      List.mergeSort_of_pairwise (by decide +kernel)
    -- Sorting cannot be evaluated by the kernel, so the entries are put in order by hand.
    rw [discover, readTree, show maxWalkDepth = 4095 + 1 from rfl, readDirectory]
    simp only [Act.on_bind, hkind, hentries, hplace, horder]
    decide +kernel
  cases hdiscover : ((discover Settings.default).on twoDirectories 0).1 with
  | error error =>
    rw [hdiscover] at hevaluated
    cases hevaluated
  | ok chapters =>
    rw [hdiscover] at hevaluated
    obtain ⟨hworkdirs, hfinished⟩ := Prod.mk.inj (Option.some.inj hevaluated)
    have hstart : ((begin Settings.default).run.on twoDirectories 0).2 = 0 :=
      Act.on_of_still (fun _ _ ↦ rfl) _ 0
    refine ⟨chapters, rfl, hworkdirs, ?_⟩
    rw [hstart, filesAlone?, outputsAlone?_of_finished hfinished (by decide)]
    decide +kernel

/-- The same files are written however many chapters may be run at once and however they go on side
by side, as far as turns can be given out. -/
theorem filesOf_twoDirectories {jobs : Nat} (choose : Nat → List PossibleStep → Nat × Nat)
    (hfew : max jobs 1 ≤ Schedule.maxTurns) :
    filesOf (attemptRequests { twoDirectories with choose } { Settings.default with jobs } 0) =
      twoFiles := by
  obtain ⟨chapters, hdiscover, -, hfiles⟩ := discover_twoDirectories
  obtain ⟨Alike, hunobserved⟩ := exists_unobserved_twoDirectories choose _ _
  obtain ⟨result, -, hdelivers⟩ := delivers_of_discover hdiscover hfew hunobserved
  rw [hfiles] at hdelivers
  generalize filesOf (attemptRequests { twoDirectories with choose }
    { Settings.default with jobs } 0) = done at hdelivers ⊢
  cases hdelivers with
  | all => rfl
  | some refused isPrefix => exact absurd accepting_twoDirectories refused

theorem attempt_orderly_twoDirectories :
    ∃ chapters, ((discover Settings.default).on twoDirectories 0).1 = .ok chapters ∧
      chapters.map Chapter.workdir = ["scratch/one", "scratch/two"] ∧
      Orderly twoDirectories Settings.default chapters 0 ∧
      ∀ (jobs : Nat) (choose : Nat → List PossibleStep → Nat × Nat),
        max jobs 1 ≤ Schedule.maxTurns →
        filesOf (attemptRequests { twoDirectories with choose } { Settings.default with jobs } 0) =
          twoFiles := by
  obtain ⟨chapters, hdiscover, hworkdirs, -⟩ := discover_twoDirectories
  exact ⟨chapters, hdiscover, hworkdirs, attempt_orderly hdiscover,
    fun jobs choose hfew ↦ filesOf_twoDirectories choose hfew⟩

/-- The lineages of these chapters do not observe each other. Nevertheless the files depend on how
many chapters may be run at once: when it is one there are two files, and when it is one more than
the turns that can be given out there are none. -/
theorem attempt_twoDirectories_crashed :
    ∃ chapters, ((discover Settings.default).on twoDirectories 0).1 = .ok chapters ∧
      (∃ Alike, Unobserved twoDirectories
        ((lineages chapters).map (Lineage.run fun chapter ↦ (chapter.run Settings.default).run))
        ((begin Settings.default).run.on twoDirectories 0).2 Alike) ∧
      filesOf (attemptRequests twoDirectories { Settings.default with jobs := 1 } 0) = twoFiles ∧
      (attempt twoDirectories { Settings.default with jobs := 2 ^ 61 } 0).1 = .crashed ∧
      filesOf (attemptRequests twoDirectories { Settings.default with jobs := 2 ^ 61 } 0) = [] := by
  obtain ⟨chapters, hdiscover, -, -⟩ := discover_twoDirectories
  have hfound : ((discover { Settings.default with jobs := 2 ^ 61 }).on twoDirectories 0).1 =
      .ok chapters := by
    rw [discover_jobs]
    exact hdiscover
  have hattempted := attempted_of_discover hfound
  have hbegan := begin_of_accepting hfound accepting_twoDirectories
  have hcrashed := hattempted.crashes_iff.2 ⟨by decide, hbegan⟩
  obtain ⟨-, hfiles⟩ := hattempted.crashing hcrashed
  rw [filterMap_request?_attemptHistory] at hfiles
  exact ⟨chapters, hdiscover, exists_unobserved_twoDirectories twoDirectories.choose _ _,
    filesOf_twoDirectories twoDirectories.choose (by decide), hcrashed, hfiles⟩

end Runbook.Build
