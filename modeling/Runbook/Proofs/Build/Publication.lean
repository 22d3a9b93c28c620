import Runbook.Proofs.Build.Order
/-!
# What a build leaves in its output directory

The finished chapters are written one after the other, each in place, and the first one that cannot
be written ends the build. What the machine has written until then stays. `build_publishes` says
what that is: a build that fails before the writing begins leaves nothing, and one that fails later
leaves the chapters before the one at which it fails, whole and in order. So a failed build can
leave some chapters and not the others (`build_publishes_interrupted`).

Which requests are asked does not say which of them are granted. A machine shows the files that it
has written in place (`Host.Shows`) when they can be read off its state; `Host.keeping` makes every
machine show them.
-/

set_option autoImplicit false

namespace Runbook

/-! ### Machines that show what they have written -/

namespace Machine

variable {σ : Type}

/-- The file that has been written in place once a request has been answered. -/
def filesBy (request : Request) (reply : request.Reply) : List (String × Bytes) :=
  match request, reply with
  | .writeFile path content, Except.ok () => [(path, content)]
  | _, _ => []

/-- The files that a machine has written in place can be read off its state. -/
structure Host.Shows (host : Host σ) (files : σ → List (String × Bytes)) : Prop where
  choose : ∀ state steps, files (host.choose state steps).2 = files state
  answer : ∀ state request, files (host.answer state request).2 =
    files state ++ filesBy request (host.answer state request).1

/-- A machine that behaves like another one and keeps the files that it has written in place. -/
def Host.keeping (host : Host σ) : Host (σ × List (String × Bytes)) where
  choose := fun (state, files) steps ↦
    let (place, state) := host.choose state steps
    (place, (state, files))
  answer := fun (state, files) request ↦
    let (reply, state) := host.answer state request
    (reply, (state, files ++ filesBy request reply))

theorem Host.shows_keeping (host : Host σ) : host.keeping.Shows Prod.snd :=
  ⟨fun _ _ ↦ rfl, fun _ _ ↦ rfl⟩

end Machine

namespace Build

open Machine Session

variable {σ : Type} {host : Host σ} {files : σ → List (String × Bytes)}

/-! ### What leaves the files as they are -/

section Quiet

variable {α : Type}

theorem filesBy_of_notInPlace {request : Request} (h : NotInPlace request)
    (reply : request.Reply) : filesBy request reply = [] := by
  cases request with
  | writeFile path content => exact (h path content rfl).elim
  | _ => rfl

theorem files_answer (hshows : host.Shows files) {request : Request} (h : NotInPlace request)
    (state : σ) : files (host.answer state request).2 = files state := by
  rw [hshows.answer, filesBy_of_notInPlace h, List.append_nil]

theorem Quiet.files_on {act : Act (Except BuildError α)} (h : Quiet act)
    (hshows : host.Shows files) (state : σ) : files (act.on host state).2 = files state := by
  unfold Act.on
  unfold Quiet Does at h
  induction act generalizing state with
  | done result => rfl
  | ask request next ih => exact (ih _ (h.2 _) _).trans (files_answer hshows h.1 state)

/-- Keeping the files does not show in a run that writes none in place. -/
theorem Quiet.on_keeping {act : Act (Except BuildError α)} (h : Quiet act) (host : Host σ)
    (state : σ) (kept : List (String × Bytes)) :
    act.on host.keeping (state, kept) =
      ((act.on host state).1, ((act.on host state).2, kept)) := by
  unfold Act.on
  unfold Quiet Does at h
  induction act generalizing state with
  | done result => rfl
  | ask request next ih =>
    have hanswer : host.keeping.answer (state, kept) request =
        ((host.answer state request).1, ((host.answer state request).2, kept)) := by
      change (_, (_, kept ++ filesBy request (host.answer state request).1)) = _
      rw [filesBy_of_notInPlace h.1, List.append_nil]
    rw [Act.run, hanswer]
    exact ih _ (h.2 _) _

theorem discover_keeping {settings : Settings} {state : σ}
    {found : Except BuildError (List Chapter)}
    (h : (discover settings).on host state = (found, state)) (kept : List (String × Bytes)) :
    (discover settings).on host.keeping (state, kept) = (found, (state, kept)) := by
  rw [(quiet_discover settings).on_keeping, h]

/-- Running the chapters leaves the files as they are. -/
theorem files_runAll (hshows : host.Shows files) (settings : Settings) (chapters : List Chapter)
    (state : σ) : files (runAll host settings chapters state).2 = files state := by
  have hnew : (Schedule.new settings.jobs (lineages chapters)).AllRuns Quiet
      fun chapter ↦ (chapter.run settings).run :=
    Schedule.allRuns_new fun _ _ numbered _ ↦ quiet_chapter settings numbered.chapter
  -- The invariant asks nothing of the events, so that none have happened has to be said.
  refine (@Schedule.run_records σ _ state (fun chapter ↦ (chapter.run settings).run) host
    (fun _ schedule reached ↦
      files reached = files state ∧ schedule.AllRuns Quiet fun chapter ↦ (chapter.run settings).run)
    (fun {past events schedule after reached next} hboth hsteps ↦ ?_)
    (fun {past schedule reached} steps hboth ↦
      ⟨(hshows.choose reached steps).trans hboth.1, hboth.2⟩) [] ⟨rfl, hnew⟩).1.1
  refine ⟨?_, hboth.2.step (fun hact ↦ hact.2) hsteps⟩
  cases hsteps with
  | giveUp hfailed hgoing => exact hboth.1
  | enqueue hfound hgoing => exact hboth.1
  | start hfound hgoing hfree => exact hboth.1
  | @answer place request next rest outputs hfound =>
    have hquiet := (hboth.2.lineages _ (List.mem_of_getElem? hfound)).running _ rfl
    unfold Schedule.reply
    split
    · exact hboth.1
    · exact (files_answer hshows hquiet.1 reached).trans hboth.1

end Quiet

/-! ### Writing one file after the other -/

/-- What comes of writing files one after the other: the result, the files that the machine is asked
to write and those that it has written. -/
inductive Published {α : Type} (value : α) (planned : List (String × Bytes)) :
    Except BuildError α → List (String × Bytes) → List (String × Bytes) → Prop where
  | all : Published value planned (.ok value) planned planned
  /-- The directory of a file cannot be made, so the file is not asked for. -/
  | noDirectory {place : Nat} {cause : IoError} (inside : place < planned.length) :
    Published value planned (.error (.write none cause)) (planned.take place) (planned.take place)
  /-- A file cannot be written. -/
  | noFile {place : Nat} {path : String} {content : Bytes} {cause : IoError}
    (found : planned[place]? = some (path, content)) :
    Published value planned (.error (.write (some path) cause)) (planned.take (place + 1))
      (planned.take place)

section Published

variable {α β : Type} {value : α} {planned tried done : List (String × Bytes)}
  {result : Except BuildError α}

theorem Published.cons (h : Published value planned result tried done) (file : String × Bytes) :
    Published value (file :: planned) result (file :: tried) (file :: done) := by
  cases h with
  | all => exact .all
  | @noDirectory place cause inside =>
    have hinside : place + 1 < (file :: planned).length := Nat.succ_lt_succ inside
    exact .noDirectory hinside
  | @noFile place path content cause found =>
    have hfound : (file :: planned)[place + 1]? = some (path, content) := found
    exact .noFile hfound

theorem Published.append (h : Published value planned result tried done)
    (first : List (String × Bytes)) :
    Published value (first ++ planned) result (first ++ tried) (first ++ done) := by
  induction first with
  | nil => exact h
  | cons file first ih => exact ih.cons file

/-- Where writing has stopped it does not matter what was still to be written. -/
theorem Published.error_append {error : BuildError}
    (h : Published value planned (.error error) tried done) (more : List (String × Bytes)) :
    Published value (planned ++ more) (.error error) tried done := by
  cases h with
  | noDirectory inside =>
    rw [← List.take_append_of_le_length (Nat.le_of_lt inside)]
    exact .noDirectory (List.length_append ▸ Nat.lt_add_right _ inside)
  | @noFile place path content cause found =>
    have hinside : place + 1 ≤ planned.length := (List.getElem?_eq_some_iff.1 found).1
    rw [← List.take_append_of_le_length hinside,
      ← List.take_append_of_le_length (Nat.le_of_succ_le hinside)]
    exact .noFile ((List.getElem?_append_left hinside).trans found)

/-- Writing stops only where the machine refuses. -/
theorem Published.exists_write {error : BuildError}
    (h : Published value planned (.error error) tried done) :
    ∃ path cause, error = .write path cause := by
  cases h with
  | noDirectory inside => exact ⟨_, _, rfl⟩
  | noFile found => exact ⟨_, _, rfl⟩

theorem Published.map (h : Published value planned result tried done) (change : α → β) :
    Published (change value) planned (result.map change) tried done := by
  cases h with
  | all => exact .all
  | noDirectory inside => exact .noDirectory inside
  | noFile found => exact .noFile found

end Published

/-- Work writes files one after the other, on every machine that shows them. -/
def Publishes (planned : List (String × Bytes)) (work : BuildWork Unit) : Prop :=
  ∀ (σ : Type) (host : Host σ) (files : σ → List (String × Bytes)), host.Shows files → ∀ state,
    ∃ done, files (work.run.on host state).2 = files state ++ done ∧
      Published () planned (work.run.on host state).1 (filesOf (work.run.asked host state)) done

section Publishes

variable {first second : List (String × Bytes)} {work : BuildWork Unit}

theorem publishes_nil : Publishes [] (pure ()) := by
  intro σ host files hshows state
  exact ⟨[], (List.append_nil _).symm, .all⟩

theorem Publishes.bind {next : Unit → BuildWork Unit} (h : Publishes first work)
    (hnext : Publishes second (next ())) : Publishes (first ++ second) (work >>= next) := by
  intro σ host files hshows state
  obtain ⟨done, hfiles, hdone⟩ := h σ host files hshows state
  rw [ExceptT.run_bind, Act.on_bind, Act.asked_bind, filesOf_append]
  generalize work.run.on host state = out at hfiles hdone ⊢
  generalize filesOf (work.run.asked host state) = tried at hdone ⊢
  obtain ⟨result, reached⟩ := out
  cases result with
  | ok _ =>
    cases hdone
    obtain ⟨more, hmore, hrest⟩ := hnext σ host files hshows reached
    refine ⟨first ++ more, ?_, hrest.append first⟩
    rw [← List.append_assoc]
    exact hmore.trans (congrArg (· ++ more) hfiles)
  | error error =>
    refine ⟨done, hfiles, ?_⟩
    change Published () _ (.error error) (tried ++ filesOf []) done
    rw [show filesOf [] = [] from rfl, List.append_nil]
    exact hdone.error_append second

/-- Making a directory first, and going on only when it has been made. -/
theorem run_makeDirectory_bind (path : String) (toldPath : Option String)
    (next : Unit → BuildWork Unit) :
    (makeDirectory path toldPath >>= next).run =
      .ask (.makeDirectories path) fun
        | .ok () => (next ()).run
        | .error cause => .done (.error (.write toldPath cause)) := by
  unfold makeDirectory
  rw [bind_assoc, run_lift_bind]
  refine congrArg (Act.ask _) (funext fun answer ↦ ?_)
  obtain cause | _ := answer <;> rfl

/-- Writing a file comes to what the machine answers. -/
theorem published_answer (path : String) (content : Bytes) (answer : Except IoError Unit) :
    Published () [(path, content)] (answer.mapError (.write path)) [(path, content)]
      (filesBy (.writeFile path content) answer) := by
  obtain cause | _ := answer
  · have hfound : [(path, content)][0]? = some (path, content) := rfl
    exact .noFile hfound
  · exact .all

theorem publishes_write (settings : Settings) (output : Output) :
    Publishes [output.file settings] (output.write settings) := by
  unfold Output.write
  extract_lets path rest
  have hrest : Publishes [output.file settings] (rest ()) := by
    intro σ host files hshows state
    have hrun : (rest ()).run = .ask (.writeFile path (Text.encode output.markdown)) fun answer ↦
        .done (answer.mapError (.write path)) := by
      refine (run_lift_bind _ _).trans (congrArg (Act.ask _) (funext fun answer ↦ ?_))
      obtain cause | _ := answer <;> rfl
    rw [hrun]
    exact ⟨_, hshows.answer state _, published_answer path _ _⟩
  split
  · next parent hparent =>
    intro σ host files hshows state
    have hquiet : NotInPlace (.makeDirectories parent) := nofun
    have hfiles := files_answer hshows hquiet state
    rw [run_makeDirectory_bind, Act.on_ask, Act.asked]
    generalize host.answer state (.makeDirectories parent) = out at hfiles ⊢
    obtain ⟨cause | _, reached⟩ := out
    · have hinside : 0 < [output.file settings].length := Nat.one_pos
      exact ⟨[], hfiles.trans (List.append_nil _).symm, .noDirectory hinside⟩
    · rw [← hfiles]
      exact hrest σ host files hshows reached
  · exact hrest

theorem publishes_writeAll (settings : Settings) (outputs : List Output) :
    Publishes (outputs.map (Output.file settings)) (writeAll settings outputs) := by
  induction outputs with
  | nil => exact publishes_nil
  | cons output outputs ih => exact (publishes_write settings output).bind ih

end Publishes

/-! ### What a build publishes -/

/-- How far a build gets with its output, on a machine that shows the files that it has written. -/
inductive Publication (host : Host σ) (settings : Settings) (files : σ → List (String × Bytes))
    (state : σ) : Prop where
  /-- It fails before it writes anything. -/
  | nothing (failed : ∃ error, (build host settings state).1 = .error error)
    (untried : filesOf (requests host settings state) = [])
    (unchanged : files (build host settings state).2 = files state)
  /-- Every chapter finishes, and the finished chapters are written as far as they can be. -/
  | finished {chapters : List Chapter} {markdowns : List String} {done : List (String × Bytes)}
    (found : ((discover settings).on host state).1 = .ok chapters)
    (complete : markdowns.length = chapters.length)
    (ended : ∀ index markdown, markdowns[index]? = some markdown →
      .finished index markdown ∈ history host settings state)
    (written : files (build host settings state).2 = files state ++ done)
    (published : Published (summarize settings chapters)
      (List.zipWith (Chapter.file settings) chapters markdowns) (build host settings state).1
      (filesOf (requests host settings state)) done)

section Publication

variable {settings : Settings} {state : σ}

/-- A build that fails for another reason than that the machine refuses to write leaves nothing. -/
theorem Publication.files_eq (h : Publication host settings files state) {error : BuildError}
    (herror : (build host settings state).1 = .error error)
    (hother : ∀ path cause, error ≠ .write path cause) :
    files (build host settings state).2 = files state := by
  cases h with
  | nothing failed untried unchanged => exact unchanged
  | finished found complete ended written published =>
    rw [herror] at published
    obtain ⟨path, cause, hwrite⟩ := published.exists_write
    exact (hother path cause hwrite).elim

/-- Chapters that a build begins with have been found. -/
theorem discover_of_begin {chapters : List Chapter}
    (h : ((begin settings).run.on host state).1 = .ok chapters) :
    ((discover settings).on host state).1 = .ok chapters := by
  rw [run_begin, Act.on_bind] at h
  generalize (discover settings).on host state = found at h ⊢
  obtain ⟨error | found, reached⟩ := found
  · cases h
  · simp only [Act.on_bind] at h
    generalize (prepare settings).run.on host reached = made at h
    obtain ⟨error | _, last⟩ := made
    · cases h
    · exact h

/-- A build that does not get to its chapters. -/
theorem publication_of_error (hshows : host.Shows files) {error : BuildError} {reached : σ}
    (hbegan : (begin settings).run.on host state = (.error error, reached)) :
    Publication host settings files state := by
  have hbuild : build host settings state = (.error error, reached) := by rw [build, hbegan]
  have hhistory : history host settings state =
      ((begin settings).run.asked host state).map .asked := by
    rw [history, hbegan, List.append_nil]
  have hfiles := (quiet_begin settings).files_on hshows state
  rw [hbegan] at hfiles
  refine .nothing ⟨error, ?_⟩ ?_ ?_
  · rw [hbuild]
  · rw [← filterMap_request?_history, hhistory, Event.filterMap_request?_asked]
    exact (quiet_begin settings).filesOf_asked host state
  · rw [hbuild]
    exact hfiles

section Ran

variable {chapters : List Chapter} {outputs : List Output} {start reached : σ}

/-- A build one of whose chapters fails comes to this failure. -/
theorem build_of_failed (hbegan : (begin settings).run.on host state = (.ok chapters, start))
    {error : BuildError} (hran : runAll host settings chapters start = (.error error, reached)) :
    build host settings state = (.error error, reached) ∧
      history host settings state = untilWriting host settings chapters state := by
  rw [build, history, untilWriting, beforeChapters, hbegan]
  simp only [hran, List.append_nil, and_self]

/-- A build whose chapters finish comes to what writing them comes to. -/
theorem build_of_finished (hbegan : (begin settings).run.on host state = (.ok chapters, start))
    (hran : runAll host settings chapters start = (.ok outputs, reached)) :
    (build host settings state).1 = (((writeAll settings outputs).run.on host reached).1.map
        fun _ ↦ summarize settings chapters) ∧
      (build host settings state).2 = ((writeAll settings outputs).run.on host reached).2 ∧
      history host settings state = untilWriting host settings chapters state ++
        ((writeAll settings outputs).run.asked host reached).map .asked := by
  rw [build, history, untilWriting, beforeChapters, hbegan]
  simp only [hran, List.append_assoc, and_true]
  obtain ⟨error | _, last⟩ := (writeAll settings outputs).run.on host reached <;> exact ⟨rfl, rfl⟩

/-- The files are as they were when the chapters have been run. -/
theorem files_of_runAll (hshows : host.Shows files)
    (hbegan : (begin settings).run.on host state = (.ok chapters, start))
    {result : Except BuildError (List Output)}
    (hran : runAll host settings chapters start = (result, reached)) :
    files reached = files state := by
  have hstart := (quiet_begin settings).files_on hshows state
  have hreached := files_runAll hshows settings chapters start
  rw [hbegan] at hstart
  rw [hran] at hreached
  exact hreached.trans hstart

theorem publication_of_failed (hshows : host.Shows files)
    (hbegan : (begin settings).run.on host state = (.ok chapters, start)) {error : BuildError}
    (hran : runAll host settings chapters start = (.error error, reached)) :
    Publication host settings files state := by
  obtain ⟨hbuild, hhistory⟩ := build_of_failed hbegan hran
  refine .nothing ⟨error, ?_⟩ ?_ ?_
  · rw [hbuild]
  · rw [← filterMap_request?_history, hhistory, filesOf_untilWriting]
  · rw [hbuild]
    exact files_of_runAll hshows hbegan hran

theorem publication_of_finished (hshows : host.Shows files)
    (hbegan : (begin settings).run.on host state = (.ok chapters, start))
    (hran : runAll host settings chapters start = (.ok outputs, reached)) :
    Publication host settings files state := by
  obtain ⟨hresult, hlast, hhistory⟩ := build_of_finished hbegan hran
  have hfiles := files_of_runAll hshows hbegan hran
  have hbegin : ((begin settings).run.on host state).1 = .ok chapters := by rw [hbegan]
  have hstart : start = ((begin settings).run.on host state).2 := by rw [hbegan]
  rw [hstart] at hran
  obtain ⟨hlength, hmarkdowns⟩ := markdowns_of_runAll hran
  obtain ⟨done, hwritten, hdone⟩ := publishes_writeAll settings outputs σ host files hshows reached
  rw [file_eq (finished_of_runAll hran).1] at hdone
  rw [hfiles] at hwritten
  have hended : ∀ index markdown, (outputs.map Output.markdown)[index]? = some markdown →
      .finished index markdown ∈ history host settings state := by
    intro index markdown hmarkdown
    rw [hhistory]
    exact List.mem_append_left _ (hmarkdowns index markdown hmarkdown)
  have hpublished := hdone.map fun _ ↦ summarize settings chapters
  rw [← filesOf_written host settings chapters state, ← hhistory, filterMap_request?_history,
    ← hresult] at hpublished
  rw [← hlast] at hwritten
  exact .finished (discover_of_begin hbegin) hlength hended hwritten hpublished

end Ran

/-- What a build leaves in its output directory. It fails before it writes anything, or every
chapter finishes and the finished chapters are written one after the other, until the machine
refuses. When the build fails for any other reason than such a refusal, nothing is written. -/
theorem build_publishes (hshows : host.Shows files) (settings : Settings) (state : σ) :
    Publication host settings files state ∧
      ∀ error, (build host settings state).1 = .error error →
        (∀ path cause, error ≠ .write path cause) →
        files (build host settings state).2 = files state := by
  have hpublication : Publication host settings files state := by
    rcases hbegan : (begin settings).run.on host state with ⟨error | chapters, start⟩
    · exact publication_of_error hshows hbegan
    · rcases hran : runAll host settings chapters start with ⟨error | outputs, reached⟩
      · exact publication_of_failed hshows hbegan hran
      · exact publication_of_finished hshows hbegan hran
  exact ⟨hpublication, fun error ↦ hpublication.files_eq⟩

/-- Two chapters of one name, on a machine that keeps the files that it has written. The build fails
and nothing is written. -/
theorem build_publishes_nameTaken :
    let host := (Host.answering (fun (_ : Unit) _ ↦ (0, ())) fun
      | .entries _ => Except.ok [("a.md", .file), ("b.md", .file)]
      | .readText _ => Except.ok "---\nbasename: intro\n---\n"
      | request => request.easyReply).keeping
    host.Shows Prod.snd ∧ Publication host Settings.default Prod.snd ((), []) ∧
      ∃ error, (build host Settings.default ((), [])).1 = .error error ∧
        (∀ path cause, error ≠ .write path cause) ∧
        (build host Settings.default ((), [])).2.2 = [] := by
  intro host
  have hshows : host.Shows Prod.snd := Host.shows_keeping _
  obtain ⟨hpublication, hother⟩ := build_publishes hshows Settings.default ((), [])
  refine ⟨hshows, hpublication, ?_⟩
  have hdiscover : (discover Settings.default).on host ((), []) = (_, ((), [])) :=
    discover_keeping (discover_answering rfl rfl rfl (fun _ ↦ rfl)
      (by decide +kernel : ∀ name ∈ ["a.md", "b.md"], isChapterName name = true)
      (by decide +kernel) ()) []
  have hfailed : ((discover Settings.default).on host ((), [])).1.toOption = none := by
    rw [hdiscover]
    decide +kernel
  cases hfound : ((discover Settings.default).on host ((), [])).1 with
  | error error =>
    have herror := (build_of_error hfound).1
    have hwrite : ∀ path cause, error ≠ .write path cause := by
      rintro path cause rfl
      cases isJudgement_of_discover hfound
    exact ⟨error, herror, hwrite, hother error herror hwrite⟩
  | ok chapters =>
    rw [hfound] at hfailed
    cases hfailed

/-- Two chapters on a machine on which the second one cannot be written. The build fails, and the
first one has been written. -/
theorem build_publishes_interrupted :
    let host := (Host.answering (fun (_ : Unit) _ ↦ (0, ())) fun
      | .entries _ => Except.ok [("a.md", .file), ("b.md", .file)]
      | .readText path => Except.ok (if path = "chapters/a.md" then "# A\n" else "# B\n")
      | .writeFile path _ => if path = "dist/b.md" then Except.error (.os 21) else Except.ok ()
      | request => request.easyReply).keeping
    (build host Settings.default ((), [])).1 = .error (.write (some "dist/b.md") (.os 21)) ∧
      (build host Settings.default ((), [])).2.2 = [("dist/a.md", Text.encode "# A\n")] := by
  intro host
  have hdiscover : (discover Settings.default).on host ((), []) = (_, ((), [])) :=
    discover_keeping (discover_answering rfl rfl rfl (fun _ ↦ rfl)
      (by decide +kernel : ∀ name ∈ ["a.md", "b.md"], isChapterName name = true)
      (by decide +kernel) ()) []
  have hevaluated : ((discover Settings.default).on host ((), [])).1.toOption.map (fun chapters ↦
      finishedAlone host (fun chapter ↦ (chapter.run Settings.default).run) chapters ((), [])) =
      some ([[⟨0, "a.md", "# A\n"⟩, ⟨1, "b.md", "# B\n"⟩]].map some) := by
    rw [hdiscover]
    decide +kernel
  obtain ⟨chapters, hchapters, hfinished⟩ := exists_of_toOption_map hevaluated
  have hbegan : (begin Settings.default).run.on host ((), []) = (.ok chapters, ((), [])) := by
    rw [run_begin, Act.on_bind, hchapters, congrArg Prod.snd hdiscover]
    rfl
  have hran : runAll host Settings.default chapters ((), []) =
      (.ok [⟨0, "a.md", "# A\n"⟩, ⟨1, "b.md", "# B\n"⟩], ((), [])) := by
    -- No answer depends on the state, so there is nothing that a lineage could observe.
    have hunobserved : Unobserved host ((lineages chapters).map
        (Lineage.run fun chapter ↦ (chapter.run Settings.default).run)) ((), []) _ :=
      unobserved_of_views (fun _ _ ↦ ()) (fun _ _ ↦ True) (fun _ run _ ↦ run.always_true)
        (fun _ _ _ _ _ _ ↦ ⟨rfl, rfl⟩) (fun _ _ _ _ _ _ ↦ rfl) fun _ _ _ ↦ rfl
    have hoption : (runAll host Settings.default chapters ((), [])).1.toOption = _ :=
      Schedule.toOption_result Settings.default.jobs hunobserved
    have hkept : (runAll host Settings.default chapters ((), [])).2.2 = [] :=
      files_runAll (Host.shows_keeping _) Settings.default chapters ((), [])
    rw [outputsAlone?_of_finished hfinished (by decide)] at hoption
    generalize runAll host Settings.default chapters ((), []) = ran at hoption hkept
    obtain ⟨error | outputs, last, kept⟩ := ran
    · cases hoption
    · cases hoption
      cases hkept
      rfl
  obtain ⟨hresult, hlast, -⟩ := build_of_finished hbegan hran
  rw [hresult, hlast]
  exact ⟨rfl, rfl⟩

end Publication

end Build

end Runbook
