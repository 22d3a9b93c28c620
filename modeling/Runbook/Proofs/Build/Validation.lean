import Runbook.Proofs.Build.Judgement
import Runbook.Proofs.Path.Normal
import Runbook.Proofs.Results
/-!
# Judgements come before effects

A build judges all chapters that it finds before it does anything else. `ValidatesFirst` says what
this comes to on a host that starts in some state, and `build_validatesFirst` that it is so on every
host: whatever files there are, whatever processes do, and in whatever order chapters go on.

The proof cuts a build in two (`build_eq`): finding the chapters only looks at files, and what comes
after it, `buildFound`, first makes the directory of assets and then fails for no reason that is a
judgement. Which requests were asked is read off a host that keeps them, and keeping them does not
change the build: `Schedule.run_logging` says so for the chapters, which run side by side, and
`buildFound_logging` for the rest.

`exists_chapters_answering` is for projects that are given as the texts of their chapters.
-/

set_option autoImplicit false

namespace Runbook.Build

open Block Document Machine Session

variable {σ : Type}

/-! ### Builds in two parts -/

/-- What a build does once it has found its chapters. -/
def buildFound (host : Host σ) (settings : Settings) (chapters : List Chapter) (state : σ) :
    Except BuildError Summary × σ :=
  match (prepare settings).run.on host state with
  | (.error error, state) => (.error error, state)
  | (.ok (), state) =>
    match runAll host settings chapters state with
    | (.error error, state) => (.error error, state)
    | (.ok outputs, state) =>
      match (writeAll settings outputs).run.on host state with
      | (.error error, state) => (.error error, state)
      | (.ok (), state) => (.ok (summarize settings chapters), state)

/-- Preparing a build finds the chapters and then makes what they are run with. -/
theorem run_begin (settings : Settings) :
    (begin settings).run = discover settings >>= fun out ↦
      match out with
      | .ok chapters => (prepare settings).run >>= fun made ↦
        match made with
        | .ok () => pure (.ok chapters)
        | .error error => pure (.error error)
      | .error error => pure (.error error) := by
  rw [begin, ExceptT.run_bind]
  show discover settings >>= _ = discover settings >>= _
  congr 1
  funext out
  cases out with
  | error error => rfl
  | ok chapters =>
    show ((prepare settings >>= fun _ ↦ pure chapters : BuildWork (List Chapter))).run = _
    rw [ExceptT.run_bind]
    congr 1
    funext made
    cases made <;> rfl

/-- A build finds its chapters first. -/
theorem build_eq (host : Host σ) (settings : Settings) (state : σ) :
    build host settings state =
      match (discover settings).on host state with
      | (.error error, state) => (.error error, state)
      | (.ok chapters, state) => buildFound host settings chapters state := by
  rw [build, run_begin, Act.on_bind]
  generalize (discover settings).on host state = found
  obtain ⟨out, state⟩ := found
  cases out with
  | error error => rfl
  | ok chapters =>
    simp only [Act.on_bind, buildFound]
    generalize (prepare settings).run.on host state = made
    obtain ⟨_ | _, state⟩ := made <;> rfl

/-- A check finds the chapters and counts them. -/
theorem check_eq (host : Host σ) (settings : Settings) (state : σ) :
    (check settings).on host state =
      match (discover settings).on host state with
      | (.error error, state) => (.error error, state)
      | (.ok chapters, state) => (.ok (summarize settings chapters), state) := by
  rw [check, Act.on_bind]
  generalize (discover settings).on host state = found
  obtain ⟨_ | _, state⟩ := found <;> rfl

/-- Once its chapters have been found, a build first makes the directory of assets. Keeping its
requests does not change what it comes to. -/
theorem buildFound_logging (host : Host σ) (settings : Settings) (chapters : List Chapter)
    (state : σ) (log : List Request) :
    ∃ asked, buildFound host.logging settings chapters (state, log) =
      ((buildFound host settings chapters state).1, (buildFound host settings chapters state).2,
        log ++ Request.makeDirectories settings.assetsDir :: asked) := by
  obtain ⟨next, hask⟩ : ∃ next, (prepare settings).run =
      .ask (.makeDirectories settings.assetsDir) next := ⟨_, rfl⟩
  obtain ⟨first, hprepare⟩ := Act.on_logging_ask _ next host state log
  rw [← hask] at hprepare
  unfold buildFound
  rw [hprepare]
  generalize (prepare settings).run.on host state = made
  obtain ⟨error | _, made⟩ := made
  · exact ⟨first, rfl⟩
  have hrun := runAll_logging host settings chapters made
    (log ++ .makeDirectories settings.assetsDir :: first)
  generalize (chaptersHistory host settings chapters made).filterMap Event.request? = second at hrun
  simp only [hrun]
  generalize runAll host settings chapters made = ran
  obtain ⟨error | outputs, ran⟩ := ran
  · exact ⟨first ++ second, by rw [List.append_assoc, List.cons_append]⟩
  obtain ⟨third, hwrite⟩ := (writeAll settings outputs).run.on_logging host ran
    (log ++ .makeDirectories settings.assetsDir :: first ++ second)
  simp only [hwrite]
  generalize (writeAll settings outputs).run.on host ran = written
  have hlog : log ++ .makeDirectories settings.assetsDir :: first ++ second ++ third =
      log ++ .makeDirectories settings.assetsDir :: (first ++ second ++ third) := by
    simp only [List.append_assoc, List.cons_append]
  obtain ⟨error | _, written⟩ := written
  · exact ⟨first ++ second ++ third, by rw [hlog]⟩
  · exact ⟨first ++ second ++ third, by rw [hlog]⟩

/-- Once its chapters have been found, a build comes to no judgement on them, and if it succeeds it
has counted them. Assumes: they have plans. -/
theorem buildFound_result {settings : Settings} {chapters : List Chapter}
    (h : ∀ chapter ∈ chapters, ∃ plan, chapter.document.plan settings.scope = .ok plan)
    (host : Host σ) (state : σ) :
    (∀ error, (buildFound host settings chapters state).1 = .error error →
      error.isJudgement = false) ∧
    ∀ summary, (buildFound host settings chapters state).1 = .ok summary →
      summary = summarize settings chapters := by
  -- Each of the three parts may end the build with an error of its own.
  have hstop {cause : BuildError} (hcause : cause.isJudgement = false) :
      (∀ error, (Except.error cause : Except BuildError Summary) = .error error →
        error.isJudgement = false) ∧
      ∀ summary, (Except.error cause : Except BuildError Summary) = .ok summary →
        summary = summarize settings chapters := by
    constructor
    · intro error herror
      cases herror
      exact hcause
    · intro summary hsummary
      cases hsummary
  unfold buildFound
  have hmade := (prepare_unjudged settings).run host.answer state
  change ∀ error, ((prepare settings).run.on host state).1 = _ → _ at hmade
  generalize (prepare settings).run.on host state = made at hmade
  obtain ⟨error | _, made⟩ := made
  · exact hstop (hmade error rfl)
  have hran := runAll_unjudged h host made
  simp only
  generalize runAll host settings chapters made = ran at hran
  obtain ⟨error | outputs, ran⟩ := ran
  · exact hstop (hran error rfl)
  have hwritten := (writeAll_unjudged settings outputs).run host.answer ran
  change ∀ error, ((writeAll settings outputs).run.on host ran).1 = _ → _ at hwritten
  simp only
  generalize (writeAll settings outputs).run.on host ran = written at hwritten
  obtain ⟨error | _, written⟩ := written
  · exact hstop (hwritten error rfl)
  · constructor
    · rintro error ⟨⟩
    · rintro summary ⟨⟩
      rfl

/-! ### What is found -/

/-- Reads what there is to be judged, if there is a directory of chapters. -/
def findAll (settings : Settings) : Act (Option (List Finding)) := do
  match ← Act.request (.entryKind settings.docsDir true) with
  | .ok .directory => return some ((← readTree settings.docsDir).findings "")
  | _ => return none

/-- Chapters are found by judging what was found. -/
theorem discover_eq (settings : Settings) :
    discover settings = findAll settings >>= fun found ↦
      match found with
      | some findings => pure (chaptersFrom settings [] findings)
      | none => pure (.error (.noDocs settings.docsDir)) := by
  rw [discover, findAll, bind_assoc]
  congr 1
  funext answer
  obtain error | kind := answer
  · rfl
  cases kind with
  | directory =>
    show readTree settings.docsDir >>= _ = (readTree settings.docsDir >>= _) >>= _
    rw [bind_assoc]
    rfl
  | _ => rfl

theorem discover_on (host : Host σ) (settings : Settings) (state : σ) :
    ((discover settings).on host state).1 =
      match ((findAll settings).on host state).1 with
      | some findings => chaptersFrom settings [] findings
      | none => .error (.noDocs settings.docsDir) := by
  rw [discover_eq, Act.on_bind]
  split <;> rfl

/-- Files that are read one after the other. -/
theorem readEntries_answering {choose : σ → List PossibleStep → Nat × σ}
    {reply : (request : Request) → request.Reply} {source : String → String} {names : List String}
    (hnames : ∀ name ∈ names, isChapterName name = true)
    (hsource : ∀ path, reply (.readText path) = Except.ok (source path))
    (ancestors : List Ancestor) (enter : String → String → Act DocsTree) (directory : String)
    (state : σ) :
    (readEntries ancestors enter directory (names.map fun name ↦ (name, .file))).on
        (.answering choose reply) state =
      (names.map fun name ↦ .chapter name (.ok (source (Path.join directory name))), state) := by
  induction names with
  | nil => rfl
  | cons name names ih =>
    have hread : (readChapter (Path.join directory name) name).on (.answering choose reply) state =
        (.chapter name (.ok (source (Path.join directory name))), state) := by
      rw [readChapter, if_pos (hnames name List.mem_cons_self), ← hsource]
      rfl
    have hrest := ih fun other hother ↦ hnames other (List.mem_cons_of_mem name hother)
    rw [List.map_cons, readEntries]
    simp only [Act.on_bind, hread, hrest]
    rfl

/-- On a host that answers each request in one way, what is found in a directory of files is what
their texts are, in the order of their names. -/
theorem discover_answering {choose : σ → List PossibleStep → Nat × σ}
    {reply : (request : Request) → request.Reply} {settings : Settings} {source : String → String}
    {names : List String} {place : String}
    (hkind : reply (.entryKind settings.docsDir true) = Except.ok .directory)
    (hentries : reply (.entries settings.docsDir) =
      Except.ok (names.map fun name ↦ (name, EntryKind.file)))
    (hplace : reply (.canonical settings.docsDir) = Except.ok place)
    (hsource : ∀ path, reply (.readText path) = Except.ok (source path))
    (hnames : ∀ name ∈ names, isChapterName name = true) (hordered : names.Pairwise (· < ·))
    (state : σ) : (discover settings).on (.answering choose reply) state =
      (chaptersFrom settings [] (names.map fun name ↦
        .chapter name (.ok (source (Path.join settings.docsDir name)))), state) := by
  have horder : inOrder (names.map fun name ↦ (name, EntryKind.file)) =
      names.map fun name ↦ (name, EntryKind.file) := by
    refine List.mergeSort_of_pairwise (List.pairwise_map.2 (hordered.imp fun hlt ↦ ?_))
    exact congrArg not (decide_eq_false hlt.not_gt)
  have hask : ∀ request, (Act.request request).on (.answering choose reply) state =
      (reply request, state) := fun _ ↦ rfl
  have hfindings (above : String) (text : String → Except IoError String) :
      findingsOf above (names.map fun name ↦ .chapter name (text name)) =
        names.map fun name ↦ .chapter (Path.join above name) (text name) := by
    clear hentries hnames hordered horder
    induction names with
    | nil => rfl
    | cons name names ih => exact congrArg (_ :: ·) ih
  rw [discover, readTree, show maxWalkDepth = 4095 + 1 from rfl, readDirectory]
  simp only [Act.on_bind, hask, hkind, hentries, hplace, horder,
    readEntries_answering hnames hsource]
  change (chaptersFrom settings [] (findingsOf (Path.join "" "") _), state) = _
  simp only [Path.empty_join, hfindings]

/-- The chapters in a directory of files, of which something is computed from their texts. -/
theorem exists_chapters_answering {choose : σ → List PossibleStep → Nat × σ}
    {reply : (request : Request) → request.Reply} {settings : Settings} {source : String → String}
    {names : List String} {place : String} {β : Type} {f : List Chapter → β} {value : β}
    (hkind : reply (.entryKind settings.docsDir true) = Except.ok .directory)
    (hentries : reply (.entries settings.docsDir) =
      Except.ok (names.map fun name ↦ (name, EntryKind.file)))
    (hplace : reply (.canonical settings.docsDir) = Except.ok place)
    (hsource : ∀ path, reply (.readText path) = Except.ok (source path))
    (hnames : ∀ name ∈ names, isChapterName name = true) (hordered : names.Pairwise (· < ·))
    (hvalue : (chaptersFrom settings [] (names.map fun name ↦
      .chapter name (.ok (source (Path.join settings.docsDir name))))).toOption.map f = some value)
    (state : σ) : ∃ chapters,
      ((discover settings).on (.answering choose reply) state).1 = .ok chapters ∧
        f chapters = value := by
  rw [discover_answering hkind hentries hplace hsource hnames hordered]
  exact exists_of_toOption_map hvalue

/-- The chapters that are found have plans. -/
theorem plan_of_discover {host : Host σ} {settings : Settings} {state : σ}
    {chapters : List Chapter} (h : ((discover settings).on host state).1 = .ok chapters) :
    ∀ chapter ∈ chapters, ∃ plan, chapter.document.plan settings.scope = .ok plan ∧
      plan.length = chapter.blocks := by
  rw [discover_on] at h
  split at h
  · exact plan_of_mem_chapters h
  · cases h

/-- After chapters have been found, a build comes to no judgement, and if it succeeds it has counted
them. -/
theorem result_of_discover {host : Host σ} {settings : Settings} {state : σ}
    {chapters : List Chapter} (h : ((discover settings).on host state).1 = .ok chapters)
    (reached : σ) :
    (∀ error, (buildFound host settings chapters reached).1 = .error error →
      error.isJudgement = false) ∧
    ∀ summary, (buildFound host settings chapters reached).1 = .ok summary →
      summary = summarize settings chapters := by
  refine buildFound_result (fun chapter hchapter ↦ ?_) host reached
  obtain ⟨plan, hplan, -⟩ := plan_of_discover h chapter hchapter
  exact ⟨plan, hplan⟩

/-- A failure to find chapters is a judgement. -/
theorem isJudgement_of_discover {host : Host σ} {settings : Settings} {state : σ}
    {error : BuildError} (h : ((discover settings).on host state).1 = .error error) :
    error.isJudgement = true := by
  rw [discover_on] at h
  split at h
  · obtain ⟨_, _, _, _, _, hfault⟩ := firstFault_of_error h
    exact hfault.isJudgement
  · cases h
    rfl

/-! ### Validation -/

/-- Judgements come before effects, on a host that starts in a state. -/
structure ValidatesFirst (host : Host σ) (settings : Settings) (state : σ) : Prop where
  /-- If something is wrong with what is found, the build fails with the first thing that is, and
  has done nothing but look at files. -/
  fault_reported : ∀ findings earlier finding later error,
    ((findAll settings).on host state).1 = some findings →
    findings = earlier ++ finding :: later → Fault settings earlier finding error →
    ∃ first, FirstFault settings findings first ∧
      (build host settings state).1 = .error first ∧
      ∀ request ∈ requests host settings state, request.isLook = true
  /-- A chapter that was found is planned again when it is run, by the plan whose blocks were
  counted: that cannot fail. -/
  planned_again : ∀ chapters, ((discover settings).on host state).1 = .ok chapters →
    ∀ chapter ∈ chapters, ∃ plan, plan.length = chapter.blocks ∧
      ∀ session : Session, session.options = chapter.options settings →
        chapter.document.plan session.options.scope = .ok plan ∧
        after (runDocument chapter.document) session = after (runPlan chapter.document plan) session
  /-- No action is refused when it runs. -/
  action_unrefused : ∀ action,
    (runAction action).Yields (fun _ ↦ True) fun cause ↦ cause.isRefused = false
  /-- A document that is refused has asked nothing and has left the session as it was. -/
  document_refused : ∀ document session, (after (runDocument document) session).Always
    (fun _ ↦ True) fun out ↦ ∀ error, out.1 = .error (.failed error) →
      error.cause.isRefused = true →
      after (runDocument document) session = pure (.error (.failed error), session)
  /-- A build that fails with a judgement has done nothing but look at files. -/
  judgement_first : ∀ error, (build host settings state).1 = .error error →
    error.isJudgement = true → ∀ request ∈ requests host settings state, request.isLook = true
  /-- A check succeeds with some counts exactly when the build gets as far as making the directory
  of assets, and they count the chapters that both find. -/
  check_ok : ∀ summary, ((check settings).on host state).1 = .ok summary ↔
    Request.makeDirectories settings.assetsDir ∈ requests host settings state ∧
      ∃ chapters, ((discover settings).on host state).1 = .ok chapters ∧
        summary = summarize settings chapters
  /-- A build that succeeds tells the counts of the check. -/
  same_counts : ∀ summary, (build host settings state).1 = .ok summary →
    ((check settings).on host state).1 = .ok summary
  /-- A check that fails fails like the build. -/
  check_error : ∀ error, ((check settings).on host state).1 = .error error →
    (build host settings state).1 = .error error

/-- Where chapters are not found, the build fails as they do and has only looked at files. -/
theorem build_of_error {host : Host σ} {settings : Settings} {state : σ} {error : BuildError}
    (h : ((discover settings).on host state).1 = .error error) :
    (build host settings state).1 = .error error ∧
      ∀ request ∈ requests host settings state, request.isLook = true := by
  obtain ⟨asked, hlogging, hlooks⟩ := (discover_looks settings).on_logging host state []
  rw [requests, build_eq, build_eq, hlogging]
  generalize (discover settings).on host state = found at h
  obtain ⟨out, reached⟩ := found
  cases h
  exact ⟨rfl, hlooks⟩

/-- Where chapters are found, the build goes on with them. -/
theorem build_of_ok {host : Host σ} {settings : Settings} {state : σ} {chapters : List Chapter}
    (h : ((discover settings).on host state).1 = .ok chapters) :
    (∃ reached, build host settings state = buildFound host settings chapters reached) ∧
      Request.makeDirectories settings.assetsDir ∈ requests host settings state := by
  obtain ⟨looks, hlogging⟩ := (discover settings).on_logging host state []
  rw [requests, build_eq, build_eq, hlogging]
  generalize (discover settings).on host state = found at h
  obtain ⟨out, reached⟩ := found
  cases h
  obtain ⟨asked, hfound⟩ := buildFound_logging host settings chapters reached ([] ++ looks)
  refine ⟨⟨reached, rfl⟩, ?_⟩
  simp only [hfound]
  exact List.mem_append_right _ List.mem_cons_self

/-- Making a directory is more than looking at files. -/
theorem makeDirectories_not_mem {path : String} {asked : List Request}
    (h : ∀ request ∈ asked, request.isLook = true) : Request.makeDirectories path ∉ asked :=
  fun hmem ↦ Bool.noConfusion (h _ hmem)

/-- What a check comes to is what finding the chapters comes to. -/
theorem check_result (host : Host σ) (settings : Settings) (state : σ) :
    ((check settings).on host state).1 =
      ((discover settings).on host state).1.map (summarize settings) := by
  rw [check_eq]
  generalize (discover settings).on host state = found
  obtain ⟨_ | _, reached⟩ := found <;> rfl

/-- Every build judges the chapters before it does anything else. -/
theorem build_validatesFirst (host : Host σ) (settings : Settings) (state : σ) :
    ValidatesFirst host settings state where
  fault_reported := by
    intro findings earlier finding later error hfound hsplit hfault
    obtain ⟨first, hfirst⟩ := exists_error_of_fault hsplit hfault
    have hdiscover : ((discover settings).on host state).1 = .error first := by
      rw [discover_on, hfound]
      exact hfirst
    obtain ⟨hbuild, hlooks⟩ := build_of_error hdiscover
    exact ⟨first, firstFault_of_error hfirst, hbuild, hlooks⟩
  planned_again := by
    intro chapters hchapters chapter hchapter
    obtain ⟨plan, hplan, hlength⟩ := plan_of_discover hchapters chapter hchapter
    refine ⟨plan, hlength, fun session hoptions ↦ ?_⟩
    have hscope : chapter.document.plan session.options.scope = .ok plan := by
      rw [hoptions]
      exact hplan
    exact ⟨hscope, after_runDocument_of_plan hscope⟩
  action_unrefused := by
    intro action
    exact (runAction_yields action).imp fun _ _ ↦ trivial
  document_refused := runDocument_refused
  judgement_first := by
    intro error herror hjudgement
    cases hdiscover : ((discover settings).on host state).1 with
    | error first => exact (build_of_error hdiscover).2
    | ok chapters =>
      obtain ⟨⟨reached, hbuild⟩, -⟩ := build_of_ok hdiscover
      rw [hbuild] at herror
      rw [(result_of_discover hdiscover reached).1 error herror] at hjudgement
      cases hjudgement
  check_ok := by
    intro summary
    rw [check_result]
    cases hdiscover : ((discover settings).on host state).1 with
    | error first =>
      have hlooks := (build_of_error hdiscover).2
      constructor
      · intro hcheck
        cases hcheck
      · rintro ⟨hmem, -⟩
        exact absurd hmem (makeDirectories_not_mem hlooks)
    | ok chapters =>
      constructor
      · intro hcheck
        cases hcheck
        exact ⟨(build_of_ok hdiscover).2, chapters, rfl, rfl⟩
      · rintro ⟨-, found, hfound, rfl⟩
        cases hfound
        rfl
  same_counts := by
    intro summary hbuilt
    cases hdiscover : ((discover settings).on host state).1 with
    | error first =>
      rw [(build_of_error hdiscover).1] at hbuilt
      cases hbuilt
    | ok chapters =>
      obtain ⟨⟨reached, hbuild⟩, -⟩ := build_of_ok hdiscover
      rw [hbuild] at hbuilt
      rw [check_result, hdiscover, (result_of_discover hdiscover reached).2 summary hbuilt]
      rfl
  check_error := by
    intro error hcheck
    rw [check_result] at hcheck
    cases hdiscover : ((discover settings).on host state).1 with
    | error first =>
      rw [hdiscover] at hcheck
      cases hcheck
      exact (build_of_error hdiscover).1
    | ok chapters =>
      rw [hdiscover] at hcheck
      cases hcheck

/-- A project with one chapter, whose settings cannot be read. -/
theorem build_validatesFirst_malformed :
    let host : Host Unit :=
      { choose := fun state _ ↦ (0, state)
        answer := fun state request ↦ (match request with
          | .entries _ => Except.ok [("a.md", EntryKind.file)]
          | .readText _ => Except.ok "---\ntitle: [\n---\n"
          | request => request.easyReply, state) }
    ∃ error, (build host Settings.default ()).1 = .error error ∧ error.isJudgement = true ∧
      ∀ request ∈ requests host Settings.default (), request.isLook = true := by
  intro host
  have hfailed : ((discover Settings.default).on host ()).1.toOption = none := by decide +kernel
  cases hdiscover : ((discover Settings.default).on host ()).1 with
  | error error =>
    have herror := (build_of_error hdiscover).1
    have hjudgement := isJudgement_of_discover hdiscover
    exact ⟨error, herror, hjudgement,
      (build_validatesFirst host Settings.default ()).judgement_first error herror hjudgement⟩
  | ok chapters =>
    rw [hdiscover] at hfailed
    cases hfailed

end Runbook.Build
