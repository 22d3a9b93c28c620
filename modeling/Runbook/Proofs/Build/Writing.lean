import Runbook.Proofs.Build.Judgement
import Runbook.Proofs.Build.Scheduling
import Runbook.Proofs.Session.Exit
/-!
# What a build writes

A build writes its files in place, and nothing else is written in place: neither finding the
chapters nor running them asks for it (`Quiet`). So the files of a build are those of its last part.
`Writes` says of work that it sets out to write some files: it writes them in order, all of them or
those before one at which it fails. Writing the finished chapters is such work (`writes_writeAll`).
-/

set_option autoImplicit false

namespace Runbook.Build

open Machine Session

variable {σ : Type}

/-! ### Acts that write nothing -/

section Quiet

variable {α : Type}

/-- An act writes no file in place. -/
abbrev Quiet (act : Act (Except BuildError α)) : Prop := Does NotInPlace (fun _ ↦ True) act

theorem quiet_discover (settings : Settings) : Quiet (discover settings) := by
  refine (discover_looks settings).imp (fun request hlook ↦ ?_) fun _ _ _ _ ↦ trivial
  rintro path content rfl
  cases hlook

theorem quiet_begin (settings : Settings) : Quiet (begin settings).run := by
  have hprepare : Quiet (prepare settings).run := does_prepare nofun fun _ _ ↦ trivial
  exact .bind (quiet_discover settings) fun _ ↦ .bind hprepare fun _ ↦ .pure _

/-- Running a chapter writes no file in place: its blocks make their files by other names first. -/
theorem quiet_chapter (settings : Settings) (chapter : Chapter) :
    Quiet (chapter.run settings).run := by
  have hends : Ends .all (runDocument chapter.document) (.new (chapter.options settings))
      (Emptied .all) := ends_runDocument chapter.document rfl
  refine does_chapter nofun (fun _ _ ↦ trivial) trivial ?_
  exact hends.always.imp (fun _ hask ↦ hask) fun _ _ _ _ ↦ trivial

/-- While the chapters are run no file is written in place. -/
theorem quiet_chaptersHistory (host : Host σ) (settings : Settings) (chapters : List Chapter)
    (state : σ) {request : Request}
    (h : .asked request ∈ chaptersHistory host settings chapters state) : NotInPlace request := by
  have hnew : (Schedule.new settings.jobs (lineages chapters)).AllRuns Quiet
      fun chapter ↦ (chapter.run settings).run :=
    Schedule.allRuns_new fun _ _ numbered _ ↦ quiet_chapter settings numbered.chapter
  obtain ⟨next, hact⟩ := (hnew.run (fun hact ↦ hact.2) host state).2 request h
  exact hact.1

end Quiet

/-! ### Files -/

/-- The file that a request writes in place. -/
def fileOf? : Request → Option (String × Bytes)
  | .writeFile path content => some (path, content)
  | _ => none

/-- The files that are written in place, in order. -/
def filesOf (requests : List Request) : List (String × Bytes) := requests.filterMap fileOf?

/-- The file of a finished chapter. -/
def Output.file (settings : Settings) (output : Output) : String × Bytes :=
  (Path.join settings.outputDir output.path, Text.encode output.markdown)

theorem filesOf_append (first second : List Request) :
    filesOf (first ++ second) = filesOf first ++ filesOf second :=
  List.filterMap_append

theorem filesOf_eq_nil {requests : List Request} (h : ∀ request ∈ requests, NotInPlace request) :
    filesOf requests = [] := by
  refine List.filterMap_eq_nil_iff.2 fun request hrequest ↦ ?_
  have hnot := h request hrequest
  cases request with
  | writeFile path content => exact (hnot path content rfl).elim
  | _ => rfl

theorem Quiet.filesOf_asked {α : Type} {act : Act (Except BuildError α)} (h : Quiet act)
    (host : Host σ) (state : σ) : filesOf (act.asked host state) = [] :=
  filesOf_eq_nil (h.of_mem_asked host state)

/-- A host never refuses to make a directory or to write a file. -/
structure Accepting (host : Host σ) : Prop where
  makeDirectories : ∀ state path, (host.answer state (.makeDirectories path)).1 = Except.ok ()
  writeFile : ∀ state path content, (host.answer state (.writeFile path content)).1 = Except.ok ()

/-- What comes of setting out to write some files for a value, and those that are written: all of
them, or those before one at which it fails, if anything can be refused. -/
inductive Wrote {α : Type} (accepting : Prop) (value : α) (files : List (String × Bytes)) :
    Except BuildError α → List (String × Bytes) → Prop where
  | all : Wrote accepting value files (.ok value) files
  | some {path : Option String} {cause : IoError} {done : List (String × Bytes)}
    (refused : ¬accepting) (isPrefix : done <+: files) :
    Wrote accepting value files (.error (.write path cause)) done

theorem Wrote.map {α β : Type} {accepting : Prop} {value : α} {files done : List (String × Bytes)}
    {result : Except BuildError α} (h : Wrote accepting value files result done) (change : α → β) :
    Wrote accepting (change value) files (result.map change) done := by
  cases h with
  | all => exact .all
  | some refused isPrefix => exact .some refused isPrefix

/-- Work sets out to write some files, in order. -/
def Writes (files : List (String × Bytes)) (work : BuildWork Unit) : Prop :=
  ∀ (σ : Type) (host : Host σ) (state : σ), Wrote (Accepting host) () files
    (work.run.on host state).1 (filesOf (work.run.asked host state))

section Writes

variable {first second : List (String × Bytes)} {work : BuildWork Unit}

theorem Writes.bind {next : Unit → BuildWork Unit} (h : Writes first work)
    (hnext : Writes second (next ())) : Writes (first ++ second) (work >>= next) := by
  intro σ host state
  have hfirst := h σ host state
  rw [ExceptT.run_bind, Act.on_bind, Act.asked_bind, filesOf_append]
  generalize work.run.on host state = out at hfirst ⊢
  generalize filesOf (work.run.asked host state) = done at hfirst ⊢
  obtain ⟨result, reached⟩ := out
  cases hfirst with
  | all =>
    have hsecond := hnext σ host reached
    change Wrote _ () _ ((next ()).run.on host reached).1
      (first ++ filesOf ((next ()).run.asked host reached))
    generalize ((next ()).run.on host reached).1 = result at hsecond ⊢
    generalize filesOf ((next ()).run.asked host reached) = more at hsecond ⊢
    cases hsecond with
    | all => exact .all
    | some refused isPrefix => exact .some refused ((List.prefix_append_right_inj first).2 isPrefix)
  | some refused isPrefix =>
    change Wrote _ () _ (.error _) (done ++ filesOf [])
    rw [show filesOf [] = [] from rfl, List.append_nil]
    exact .some refused (isPrefix.trans (List.prefix_append first second))

theorem writes_nil : Writes [] (pure ()) := fun _ _ _ ↦ .all

/-- Work that asks one request writes the file of this request. -/
theorem writes_request (request : Request) {next : request.Reply → BuildWork Unit}
    (out : request.Reply → Except BuildError Unit)
    (hnext : ∀ reply, (next reply).run = pure (out reply)) {files : List (String × Bytes)}
    (h : ∀ (σ : Type) (host : Host σ) (state : σ), Wrote (Accepting host) () files
      (out (host.answer state request).1) (filesOf [request])) :
    Writes files ((Act.request request : BuildWork request.Reply) >>= next) := by
  intro σ host state
  have hrun : ((Act.request request : BuildWork request.Reply) >>= next).run =
      .ask request fun reply ↦ .done (out reply) := by
    rw [run_lift_bind]
    exact congrArg (Act.ask request) (funext hnext)
  rw [hrun]
  exact h σ host state

/-- Writing fails when the answer is a refusal, which an accepting host does not give. -/
theorem wrote_mapError {accepting : Prop} {files : List (String × Bytes)} {path : Option String}
    {answer : Except IoError Unit} (haccepting : accepting → answer = .ok ()) :
    Wrote accepting () files (answer.mapError (.write path)) files := by
  obtain cause | _ := answer
  · exact .some (fun haccepts ↦ nomatch haccepting haccepts) (List.prefix_refl files)
  · exact .all

theorem writes_makeDirectory (path : String) (toldPath : Option String) :
    Writes [] (makeDirectory path toldPath) := by
  refine writes_request (.makeDirectories path) (Except.mapError (BuildError.write toldPath))
    (fun answer ↦ ?_) fun σ host state ↦ ?_
  · obtain cause | _ := answer <;> rfl
  · exact wrote_mapError fun haccepting ↦ haccepting.makeDirectories state path

theorem writes_prepare (settings : Settings) : Writes [] (prepare settings) :=
  (writes_makeDirectory _ _).bind (writes_makeDirectory _ _)

theorem writes_write (settings : Settings) (output : Output) :
    Writes [output.file settings] (output.write settings) := by
  unfold Output.write
  extract_lets path rest
  have hrest : Writes [output.file settings] (rest ()) := by
    refine writes_request (.writeFile path (Text.encode output.markdown))
      (Except.mapError (BuildError.write path)) (fun answer ↦ ?_) fun σ host state ↦ ?_
    · obtain cause | _ := answer <;> rfl
    · exact wrote_mapError fun haccepting ↦ haccepting.writeFile state path _
  split
  · exact (writes_makeDirectory _ _).bind hrest
  · exact hrest

theorem writes_writeAll (settings : Settings) (outputs : List Output) :
    Writes (outputs.map (Output.file settings)) (writeAll settings outputs) := by
  induction outputs with
  | nil => exact writes_nil
  | cons output outputs ih => exact (writes_write settings output).bind ih

end Writes

end Runbook.Build
