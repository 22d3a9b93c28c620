import Runbook.Proofs.Session.Assets
import Runbook.Proofs.Session.Yields
import Runbook.Proofs.Session.Exit
import Runbook.Proofs.Session.Remembering
import Runbook.Sandbox.Workspace
/-!
# One checkpoint, one name

The names of the checkpoints that a document takes are pairwise different in a run that succeeds,
and the snapshot of each has been moved to the path that goes with its name
(`runDocument_takesOnce`). A name that is taken again is refused before anything is asked of the
machine, so the snapshot with that name stays as it is.

Names are compared as texts, and the path of a snapshot ends in the name. Two different names can be
spellings of one entry, such as `a` and `a/`: both are plain names, both checkpoints succeed, and
the second snapshot takes the place of the first (`runDocument_replacesSnapshot`). Without a slash
in them, different names lead to different places (`mem_slash_of_place_eq`).
-/

set_option autoImplicit false

namespace Runbook

open Block Machine

/-- The name of the checkpoint that an action takes, if it takes one. -/
def Block.Action.checkpointName? : Action → Option String
  | .checkpoint block => some block.name
  | _ => none

namespace Session

open Document Work

/-- The names of the checkpoints of a plan, in order. -/
def checkpointNames (plan : List PlannedBlock) : List String :=
  plan.filterMap fun block ↦ block.action.checkpointName?

theorem checkpointNames_cons (block : PlannedBlock) (plan : List PlannedBlock) :
    checkpointNames (block :: plan) =
      block.action.checkpointName?.toList ++ checkpointNames plan := by
  rw [checkpointNames, List.filterMap_cons]
  cases block.action.checkpointName? <;> rfl

/-- The path of the snapshot that a document keeps under a name. -/
def Options.snapshotPath (options : Options) (basename name : String) : String :=
  Path.join (Path.join (Path.join options.assetsRoot "checkpoints") basename) name

/-- A snapshot has been moved to the path that goes with its name. -/
def Moved (options : Options) (name : String) (record : List Exchange) : Prop :=
  ∃ basename staging, options.basename = some basename ∧ basename ≠ "" ∧
    (⟨.rename staging (options.snapshotPath basename name), Except.ok ()⟩ : Exchange) ∈ record

/-- The checkpoints that have been taken have different names, and the snapshot of each has been
moved to its path. Two of these paths lead to one place only if there is a slash in a name. -/
structure TakenOnce (options : Options) (names : List String) (record : List Exchange) : Prop where
  nodup : names.Nodup
  moved : ∀ name ∈ names, Moved options name record
  apart : names.Pairwise fun first second ↦ ∀ basename,
    Path.place (options.snapshotPath basename first) =
      Path.place (options.snapshotPath basename second) →
    '/' ∈ first.toList ∨ '/' ∈ second.toList

theorem Moved.mono {options : Options} {name : String} {record later : List Exchange}
    (h : Moved options name record) (hlater : record <+: later) : Moved options name later := by
  obtain ⟨basename, staging, hbasename, hne, hrename⟩ := h
  exact ⟨basename, staging, hbasename, hne, hlater.subset hrename⟩

/-! ### One block -/

section Blocks

variable {ε α β : Type} {session : Session} {record : List Exchange}

/-- A session goes on with the options and the checkpoints that it had, and so does its record. -/
structure Continues (session : Session) (record : List Exchange) (reached : Session)
    (later : List Exchange) : Prop where
  grows : record <+: later
  options : reached.options = session.options
  checkpoints : reached.checkpoints = session.checkpoints

theorem Continues.trans {between last : Session} {middle later : List Exchange}
    (h : Continues session record between middle) (hlater : Continues between middle last later) :
    Continues session record last later :=
  ⟨h.grows.trans hlater.grows, hlater.options.trans h.options,
    hlater.checkpoints.trans h.checkpoints⟩

/-- Whatever the answers are, every value that work gives goes with the session that is reached and
the record of what has been asked. -/
def Records (work : ExceptT ε (StateT Session Act) α) (session : Session) (record : List Exchange)
    (good : α → Session → List Exchange → Prop) : Prop :=
  Evolving Recording (fun _ ↦ True) work session record fun result reached later ↦
    ∀ value, result = .ok value → good value reached later

namespace Records

variable {good : α → Session → List Exchange → Prop} {done : β → Session → List Exchange → Prop}

protected theorem pure {value : α} (h : good value session record) :
    Records (Pure.pure value : ExceptT ε (StateT Session Act) α) session record good :=
  Evolving.pure fun _ heq ↦ Except.ok.inj heq ▸ h

protected theorem throw (cause : ε) :
    Records (throw cause : ExceptT ε (StateT Session Act) α) session record good :=
  Evolving.throw nofun

theorem imp {work : ExceptT ε (StateT Session Act) α}
    {better : α → Session → List Exchange → Prop} (h : Records work session record better)
    (himp : ∀ value reached later, better value reached later → good value reached later) :
    Records work session record good :=
  Evolving.imp h fun _ reached later hbetter value hvalue ↦
    himp value reached later (hbetter value hvalue)

protected theorem bind {work : ExceptT ε (StateT Session Act) α}
    {next : α → ExceptT ε (StateT Session Act) β} (h : Records work session record good)
    (hnext : ∀ value reached later, good value reached later →
      Records (next value) reached later done) :
    Records (work >>= next) session record done :=
  Evolving.bind h (fun value reached later hvalue ↦ hnext value reached later (hvalue value rfl))
    fun _ _ _ _ ↦ nofun

/-- After a stop nothing is done. -/
theorem throw_bind {cause : ε} {next : α → ExceptT ε (StateT Session Act) β} :
    Records (MonadExcept.throw cause >>= next) session record done :=
  Evolving.throw nofun

protected theorem get {next : Session → ExceptT ε (StateT Session Act) β}
    (h : Records (next session) session record done) :
    Records (MonadState.get >>= next) session record done :=
  Evolving.get h

/-- What handles a stop gives no value. -/
protected theorem tryCatch {work : ExceptT ε (StateT Session Act) α}
    {handle : ε → ExceptT ε (StateT Session Act) α} (h : Records work session record good)
    (hhandle : ∀ cause reached later, Records (handle cause) reached later fun _ _ _ ↦ False) :
    Records (tryCatch work handle) session record good :=
  Evolving.tryCatch h (fun _ _ _ hvalue ↦ hvalue) fun cause reached later _ ↦
    imp (hhandle cause reached later) fun _ _ _ ↦ False.elim

/-- Whatever work does, it can go before a stop. -/
theorem of_throw {work : ExceptT ε (StateT Session Act) α} {cause : ε} :
    Records (work >>= fun _ ↦ (throw cause : ExceptT ε (StateT Session Act) β)) session record
      done := by
  have hends : Evolving Recording (fun _ ↦ True) work session record fun _ _ _ ↦ True :=
    (Act.evolves_recording _ record).imp fun _ _ _ ↦ trivial
  exact Evolving.bind hends (fun _ _ _ _ ↦ Records.throw _) fun _ _ _ _ ↦ nofun

/-- Work that takes no checkpoint only goes on. -/
theorem of_remembers {work : Work α} (h : work.Remembers) :
    Records work session record fun _ ↦ Continues session record :=
  ((Act.evolves_recording _ record).and (h session)).imp fun _ _ hends _ _ ↦
    ⟨hends.1, hends.2.1, hends.2.2⟩

/-- Work that takes no checkpoint goes first. -/
theorem after_remembers {work : Work α} {next : α → Work β} (h : work.Remembers)
    (hnext : ∀ value reached later, Continues session record reached later →
      Records (next value) reached later done) :
    Records (work >>= next) session record done :=
  .bind (of_remembers h) hnext

/-- A request that has to succeed. -/
theorem askOr {request : Request} {answer : request.Reply → Except IoError α}
    {cause : IoError → Failure}
    (h : ∀ reply value, answer reply = .ok value →
      good value session (record ++ [⟨request, reply⟩])) :
    Records (Work.ask request >>= fun reply ↦ Work.orFail (answer reply) cause) session record
      good := by
  refine Evolving.ask fun reply later hstep ↦ ⟨trivial, ?_⟩
  obtain rfl := hstep
  cases hanswer : answer reply with
  | ok value => exact Records.pure (h reply value hanswer)
  | error error => exact Records.throw _

end Records

/-- A snapshot that is filled has been moved to its path. -/
theorem records_fillCheckpoint (block : Checkpoint) (parent staging : String) :
    Records (fillCheckpoint block parent staging) session record fun _ reached later ↦
      Continues session record reached later ∧
        (⟨.rename staging (Path.join parent block.name), Except.ok ()⟩ : Exchange) ∈ later := by
  refine .get (.after_remembers (.ask _) fun reply first asked hasked ↦
    .after_remembers (.orFail _ _) fun skip second known hknown ↦
    .after_remembers (.of_preserves (preserves_copyTree _ _ _ _)) fun _ third copied hcopied ↦
    .after_remembers (.of_preserves (preserves_leadsSomewhere _)) fun taken fourth looked
      hlooked ↦ ?_)
  have hbefore := ((hasked.trans hknown).trans hcopied).trans hlooked
  extract_lets rest
  have hrest {reached : Session} {later : List Exchange}
      (h : Continues session record reached later) :
      Records (rest ()) reached later fun _ last final ↦ Continues session record last final ∧
        (⟨.rename staging (Path.join parent block.name), Except.ok ()⟩ : Exchange) ∈ final := by
    refine .askOr fun reply value hreply ↦ ⟨h.trans ⟨List.prefix_append _ _, rfl, rfl⟩, ?_⟩
    rw [hreply]
    exact List.mem_append_right _ (List.mem_singleton.2 rfl)
  split
  · exact .after_remembers (.ask _) fun _ fifth emptied hemptied ↦
      .after_remembers (.orFail _ _) fun _ sixth gone hgone ↦
        hrest ((hbefore.trans hemptied).trans hgone)
  · exact hrest hbefore

theorem records_basename : Records basename session record fun name reached later ↦
    reached = session ∧ later = record ∧ session.options.basename = some name ∧ name ≠ "" := by
  refine .get ?_
  split
  · next name hname =>
    split
    · exact .throw _
    · next hempty => exact .pure ⟨rfl, rfl, hname, fun hnil ↦ hempty (String.isEmpty_iff.2 hnil)⟩
  · exact .throw _

theorem records_recordCheckpoint (name : String) :
    Records (recordCheckpoint name) session record fun fresh reached later ↦ later = record ∧
      (fresh = true → name ∉ session.checkpoints ∧
        reached = { session with checkpoints := name :: session.checkpoints }) := by
  refine .get ?_
  split
  · exact .pure ⟨rfl, nofun⟩
  · next hfresh => exact Evolving.modify (Records.pure ⟨rfl, fun _ ↦ ⟨hfresh, rfl⟩⟩)

/-- A checkpoint that succeeds had a name that was not taken and is taken then, and its snapshot has
been moved to its path. -/
theorem records_runCheckpoint (block : Checkpoint) :
    Records (runCheckpoint block) session record fun _ reached later ↦
      record <+: later ∧ reached.options = session.options ∧ block.name ∉ session.checkpoints ∧
        reached.checkpoints = block.name :: session.checkpoints ∧
        Moved session.options block.name later := by
  refine .bind records_basename fun name reached later hname ↦
    .bind (records_recordCheckpoint _) fun fresh noted later hnoted ↦ ?_
  obtain ⟨rfl, rfl, hbasename, hne⟩ := hname
  obtain ⟨rfl, hfresh⟩ := hnoted
  cases fresh with
  | false => exact .throw_bind
  | true =>
    obtain ⟨hnew, rfl⟩ := hfresh rfl
    refine .get (.after_remembers (.ask _) fun _ first asked hasked ↦
      .after_remembers (.orFail _ _) fun _ second made hmade ↦
      .after_remembers (.ask _) fun _ third temp htemp ↦
      .after_remembers (.orFail _ _) fun staging fourth staged hstaged ↦
      .bind (.tryCatch (records_fillCheckpoint _ _ _) fun _ _ _ ↦ .of_throw)
        fun _ last final hfilled ↦ .pure ?_)
    obtain ⟨hcontinues, hmoved⟩ := hfilled
    have hall := (((hasked.trans hmade).trans htemp).trans hstaged).trans hcontinues
    exact ⟨hall.grows, hall.options, hnew, hall.checkpoints, name, staging, hbasename, hne, hmoved⟩

/-- A block that is no checkpoint goes on with the session, and one that is takes its name. -/
theorem records_runAction (action : Action) :
    Records (runAction action) session record fun _ reached later ↦
      record <+: later ∧ reached.options = session.options ∧
        (∀ name ∈ action.checkpointName?, name ∉ session.checkpoints ∧
          Moved session.options name later) ∧
        reached.checkpoints = action.checkpointName?.toList ++ session.checkpoints := by
  cases action with
  | checkpoint block =>
    refine .imp (records_runCheckpoint block) fun _ _ _ hends ↦ ?_
    obtain ⟨hgrows, hoptions, hnew, hcheckpoints, hmoved⟩ := hends
    refine ⟨hgrows, hoptions, ?_, hcheckpoints⟩
    rintro name ⟨⟩
    exact ⟨hnew, hmoved⟩
  | _ =>
    exact .imp (.of_remembers (remembers_runAction nofun)) fun _ _ _ hends ↦
      ⟨hends.grows, hends.options, nofun, hends.checkpoints⟩

end Blocks

/-! ### All blocks -/

section Runs

variable {session : Session} {record : List Exchange} {plan : List PlannedBlock}

theorem records_located {α : Type} {place : Failure → RunError} {work : Work α}
    {good : α → Session → List Exchange → Prop} (h : Records work session record good) :
    Records (located place work) session record good := by
  refine (Act.evolves_bind (after work session) _ _ _).2 (Act.Evolves.imp h ?_)
  intro out reached hout
  obtain ⟨(cause | _) | value, session⟩ := out
  · exact nofun
  · exact nofun
  · rintro _ ⟨⟩
    exact hout value rfl

theorem records_runBlock (block : PlannedBlock) :
    Records (runBlock block) session record fun _ reached later ↦
      record <+: later ∧ reached.options = session.options ∧
        (∀ name ∈ block.action.checkpointName?, name ∉ session.checkpoints ∧
          Moved session.options name later) ∧
        reached.checkpoints = block.action.checkpointName?.toList ++ session.checkpoints := by
  refine .tryCatch (records_located (records_runAction block.action)) fun stop reached later ↦ ?_
  cases stop with
  | failed error => exact .of_throw
  | abandoned => exact .throw _

/-- Blocks that succeed take names that are pairwise different and were not taken before. -/
theorem records_runBlocks (plan : List PlannedBlock) :
    Records (runBlocks plan) session record fun _ _ later ↦
      record <+: later ∧ (checkpointNames plan).Nodup ∧ ∀ name ∈ checkpointNames plan,
        name ∉ session.checkpoints ∧ Moved session.options name later := by
  induction plan generalizing session record with
  | nil => exact .pure ⟨List.prefix_refl _, List.nodup_nil, nofun⟩
  | cons block plan ih =>
    refine .bind (records_runBlock block) fun node reached later hblock ↦
      .bind ih fun shown last final hplan ↦ .pure ?_
    obtain ⟨hgrows, hoptions, hfirst, hcheckpoints⟩ := hblock
    obtain ⟨hlater, hnodup, hrest⟩ := hplan
    refine ⟨hgrows.trans hlater, ?_⟩
    rw [hoptions, hcheckpoints] at hrest
    rw [checkpointNames_cons]
    cases hname : block.action.checkpointName? with
    | none =>
      rw [hname] at hrest
      exact ⟨hnodup, hrest⟩
    | some name =>
      rw [hname] at hrest hfirst
      obtain ⟨hnew, hmoved⟩ := hfirst name rfl
      refine ⟨List.nodup_cons.2 ⟨fun hin ↦ (hrest name hin).1 List.mem_cons_self, hnodup⟩,
        List.forall_mem_cons.2 ⟨⟨hnew, hmoved.mono hlater⟩, fun other hin ↦ ?_⟩⟩
      obtain ⟨hother, hmovedother⟩ := hrest other hin
      exact ⟨fun htaken ↦ hother (List.mem_cons_of_mem _ htaken), hmovedother⟩

theorem records_runPlan (document : Document) (plan : List PlannedBlock) :
    Records (runPlan document plan) session record fun _ _ later ↦
      (checkpointNames plan).Nodup ∧
        ∀ name ∈ checkpointNames plan, Moved session.options name later := by
  refine .tryCatch (.bind (records_runBlocks plan) fun shown reached later hplan ↦ ?_)
    fun stop reached later ↦ ?_
  · obtain ⟨-, hnodup, hnames⟩ := hplan
    have hfinish : Records (located RunError.document finish) reached later
        fun _ _ final ↦ later <+: final :=
      (Act.evolves_recording _ later).imp fun _ _ hgrows _ _ ↦ hgrows
    exact .bind hfinish fun _ _ final hfinal ↦
      .pure ⟨hnodup, fun name hname ↦ (hnames name hname).2.mono hfinal⟩
  · cases stop with
    | failed error => exact .throw _
    | abandoned => exact .of_throw

end Runs

/-! ### Documents -/

section Documents

variable {σ : Type} {answer : σ → (r : Request) → r.Reply × σ} {session last : Session}
  {state final : σ} {plan : List PlannedBlock} {results : List (Option Node)}
  {options : Options}

/-- Different names without a slash make paths to different places. -/
theorem mem_slash_of_place_eq {basename first second : String} (hfirst : Path.IsPlain first)
    (hsecond : Path.IsPlain second) (hne : first ≠ second)
    (hplace : Path.place (options.snapshotPath basename first) =
      Path.place (options.snapshotPath basename second)) :
    '/' ∈ first.toList ∨ '/' ∈ second.toList := by
  by_contra hslash
  rw [not_or] at hslash
  unfold Options.snapshotPath at hplace
  rw [Path.place_join _ first, Path.place_join _ second, (hfirst.isEntryName hslash.1).place_eq,
    (hsecond.isEntryName hslash.2).place_eq] at hplace
  exact hne (List.singleton_inj.1 (Path.down_injective hplace))

/-- The checkpoints that a session remembers are those of the blocks that have succeeded, which a
document without a name has none of. -/
theorem Handled.checkpoints_eq (h : Handled answer plan session state results last final) :
    last.options = session.options ∧
      last.checkpoints = (checkpointNames plan).reverse ++ session.checkpoints ∧
      (checkpointNames plan ≠ [] →
        ∃ basename, session.options.basename = some basename ∧ basename ≠ "") := by
  induction h with
  | done => exact ⟨rfl, rfl, fun hne ↦ absurd rfl hne⟩
  | @block block plan result results session between last state reached final hblock hrest ih =>
    have hends := (records_runAction block.action : Records _ session [] _).exchanges answer state
    rw [show (after (runAction block.action) session).run answer state = _ from hblock] at hends
    obtain ⟨-, hoptions, hmoved, hcheckpoints⟩ := hends result rfl
    obtain ⟨hlast, htaken, hnamed⟩ := ih
    rw [checkpointNames_cons, hlast, htaken, hcheckpoints, hoptions]
    rw [hoptions] at hnamed
    cases hname : block.action.checkpointName? with
    | none => exact ⟨rfl, rfl, hnamed⟩
    | some name =>
      obtain ⟨-, basename, -, hbasename, hne, -⟩ := hmoved name hname
      exact ⟨rfl, by simp, fun _ ↦ ⟨basename, hbasename, hne⟩⟩

theorem isPlain_of_mem_checkpointNames {document : Document} {scope name : String}
    (hplan : document.plan scope = .ok plan) (hname : name ∈ checkpointNames plan) :
    Path.IsPlain name := by
  obtain ⟨planned, hplanned, hfound⟩ := List.mem_filterMap.1 hname
  obtain ⟨node, -, hof⟩ := (enumerates_of_plan hplan).sound planned hplanned
  obtain ⟨code, runnable, -, -, haction⟩ := hof.action_eq
  obtain ⟨index, line, action⟩ := planned
  cases action with
  | checkpoint block =>
    cases hfound
    have hkind := Action.kind_of_parse haction
    obtain ⟨kind, arguments, body⟩ := runnable
    cases hkind
    obtain ⟨found, hparsed, hsame⟩ := exists_of_map_ok haction
    cases hsame
    exact Checkpoint.isPlain_name hparsed
  | _ => cases hfound

/-- A checkpoint whose name has been taken is refused, and nothing is asked or changed. -/
theorem after_runCheckpoint_of_taken {block : Checkpoint} {basename : String}
    (hbasename : session.options.basename = some basename) (hne : basename ≠ "")
    (h : block.name ∈ session.checkpoints) : after (runCheckpoint block) session =
      pure (.error (.failed (.unmet (.checkpointTaken block.name))), session) := by
  have hname : after Session.basename session = pure (.ok basename, session) := by
    unfold Session.basename
    rw [after_bind, after_get, pure_bind]
    simp only [hbasename, String.isEmpty_iff, hne, if_false]
    rfl
  have hrecorded : after (recordCheckpoint block.name) session = pure (.ok false, session) := by
    unfold recordCheckpoint
    rw [after_bind, after_get, pure_bind]
    simp only [h, if_true]
    rfl
  unfold runCheckpoint
  rw [after_bind, hname, pure_bind]
  simp only
  rw [after_bind, hrecorded, pure_bind]
  rfl

/-- A document takes its checkpoints under different names. When its run succeeds, each snapshot has
been moved to the path that goes with its name, and two of these paths lead to one place only if
there is a slash in a name. A block that takes a name again stops with a condition that is not met,
and leaves the session and the machine as they are. -/
theorem runDocument_takesOnce (answer : σ → (r : Request) → r.Reply × σ) (document : Document)
    (options : Options) (state : σ) :
    (∀ plan finished, document.plan options.scope = .ok plan →
      (follow answer (runDocument document) (.new options) state).1.1 = .ok finished →
      TakenOnce options (checkpointNames plan)
        ((after (runDocument document) (.new options)).exchanges answer state)) ∧
      ∀ before results last final (block : Checkpoint),
        Handled answer before (.new options) state results last final →
        block.name ∈ checkpointNames before →
        after (runCheckpoint block) last =
          pure (.error (.failed (.unmet (.checkpointTaken block.name))), last) := by
  refine ⟨fun plan finished hplan hfinished ↦ ?_,
    fun before results last final block hhandled hname ↦ ?_⟩
  · have hrun : after (runDocument document) (.new options) =
        after (runPlan document plan) (.new options) := after_runDocument_of_plan hplan
    have hends := (records_runPlan document plan : Records _ (.new options) [] _).exchanges
      answer state
    unfold follow at hfinished
    rw [hrun] at hfinished ⊢
    obtain ⟨hnodup, hmoved⟩ := hends finished hfinished
    refine ⟨hnodup, hmoved, hnodup.imp_of_mem fun hfirst hsecond hne basename hplace ↦ ?_⟩
    exact mem_slash_of_place_eq (isPlain_of_mem_checkpointNames hplan hfirst)
      (isPlain_of_mem_checkpointNames hplan hsecond) hne hplace
  · obtain ⟨hoptions, hcheckpoints, hnamed⟩ := hhandled.checkpoints_eq
    obtain ⟨basename, hbasename, hne⟩ := hnamed (List.ne_nil_of_mem hname)
    refine after_runCheckpoint_of_taken (hoptions ▸ hbasename) hne ?_
    rw [hcheckpoints]
    exact List.mem_append_left _ (List.mem_reverse.2 hname)

end Documents

/-- The options of a document with a name. -/
def namedOptions : Options := ⟨".", "o", some "c", "x", "sh", "/", .default⟩

/-- A document that takes two checkpoints, with a new file in between. -/
def takesTwo (first second : String) : Document :=
  ⟨none, [.code ("x:checkpoint name=" ++ first) "", .code "x:file:create path=b" "",
    .code ("x:checkpoint name=" ++ second) ""]⟩

/-- Two checkpoints with different names on a machine on which all goes well. -/
theorem runDocument_takesOnce_twoNames :
    let answer := fun (_ : Unit) (request : Request) ↦ (request.easyReply, ())
    ∃ plan finished, (takesTwo "a" "b").plan namedOptions.scope = .ok plan ∧
      checkpointNames plan = ["a", "b"] ∧
      (follow answer (runDocument (takesTwo "a" "b")) (.new namedOptions) ()).1.1 = .ok finished ∧
      TakenOnce namedOptions (checkpointNames plan)
        ((after (runDocument (takesTwo "a" "b")) (.new namedOptions)).exchanges answer ()) := by
  intro answer
  have hran : (((takesTwo "a" "b").plan namedOptions.scope).toOption.map checkpointNames,
      (follow answer (runDocument (takesTwo "a" "b")) (.new namedOptions) ()).1.1.toOption.isSome) =
        (some ["a", "b"], true) := by
    decide +kernel
  obtain ⟨hnames, hfinished⟩ := Prod.mk.inj hran
  cases hplan : (takesTwo "a" "b").plan namedOptions.scope with
  | error refused =>
    rw [hplan] at hnames
    cases hnames
  | ok plan =>
    rw [hplan] at hnames
    cases hok : (follow answer (runDocument (takesTwo "a" "b")) (.new namedOptions) ()).1.1 with
    | error stop =>
      rw [hok] at hfinished
      cases hfinished
    | ok finished =>
      exact ⟨plan, finished, rfl, Option.some.inj hnames, rfl,
        (runDocument_takesOnce answer _ namedOptions ()).1 plan finished hplan hok⟩

/-- Two checkpoints whose names are spellings of one entry succeed as well, and the snapshot of the
second takes the place of the first, in which the file that was made in between is not. -/
theorem runDocument_replacesSnapshot :
    let workspace : Sandbox.Workspace :=
      ⟨⟨.empty, [], [], [], 0, 100, 0⟩, Sandbox.FileSystem.root, [], 0, []⟩
    let first := follow Sandbox.Workspace.host.answer
      (runDocument ⟨none, (takesTwo "a" "a/").nodes.take 1⟩) (.new namedOptions) workspace
    let whole := follow Sandbox.Workspace.host.answer (runDocument (takesTwo "a" "a/"))
      (.new namedOptions) workspace
    let stands (workspace : Sandbox.Workspace) (path : String) : Bool :=
      (workspace.files.find Sandbox.FileSystem.root path true).toOption.isSome
    ((takesTwo "a" "a/").plan namedOptions.scope).toOption.map checkpointNames =
        some ["a", "a/"] ∧
      Path.place (namedOptions.snapshotPath "c" "a") =
        Path.place (namedOptions.snapshotPath "c" "a/") ∧
      (first.1.1.toOption.isSome, stands first.2 "o/checkpoints/c/a",
        stands first.2 "o/checkpoints/c/a/b") = (true, true, false) ∧
      (whole.1.1.toOption.isSome, stands whole.2 "o/checkpoints/c/a/b") = (true, true) := by
  decide +kernel

end Session

end Runbook
