import Runbook.Proofs.Block.Containment
import Runbook.Proofs.Machine.Always
import Runbook.Proofs.Session.Yields
/-!
# Where blocks keep their assets

Screenshot and checkpoint blocks change files outside of the working directory: each keeps what it
makes in a directory of its kind that has the name of the document (`Options.Owns`). They change
nothing else, as long as the machine gives new files and directories plain names in the directories
that it is asked to make them in and lists directories by plain names (`Answers.tidy`). What the
processes do that a block starts is their own affair.

`Work.Confined` says of work that all paths that it changes are allowed. It has one rule for each
construct, so it is proved along the text of the work.
-/

set_option autoImplicit false

namespace Runbook

open Block Document Machine

/-! ### What requests change -/

namespace Machine

/-- The paths at which a request changes something. -/
def Request.changes : Request → List String
  | makeDirectories path => [path]
  | makeTempFile directory _ => [directory]
  | makeTempDirectory directory => [directory]
  | writeTemp path _ => [path]
  | setMode path _ => [path]
  | rename source target => [source, target]
  | discardFile path => [path]
  | discardTree path => [path]
  | removeTree path => [path]
  | copyFile _ target => [target]
  | makeLink _ path => [path]
  | writeFile path _ => [path]
  | _ => []

/-- The answers of a machine on which entries of directories have plain names. -/
def Answers.tidy : Answers
  | .makeTempFile directory _, .ok path =>
    ∃ name, Path.IsPlain name ∧ path = Path.join directory name
  | .makeTempDirectory directory, .ok path =>
    ∃ name, Path.IsPlain name ∧ path = Path.join directory name
  | .entries _, .ok entries => ∀ entry ∈ entries, Path.IsPlain entry.1
  | _, _ => True

end Machine

namespace Session

open Work

/-! ### Work that changes only what it may -/

/-- As long as the answers are tidy, work that is run with some options changes only paths that are
allowed, keeps the options, and gives a good value if it gives any. -/
def Work.Confined {α : Type} (options : Options) (allowed : String → Prop) (work : Work α)
    (good : α → Prop) : Prop :=
  ∀ session, session.options = options →
    (after work session).AlwaysUnder .tidy (fun request ↦ ∀ path ∈ request.changes, allowed path)
      fun out ↦ out.2.options = options ∧ ∀ value, out.1 = .ok value → good value

namespace Work.Confined

variable {α β : Type} {options : Options} {allowed : String → Prop} {good : α → Prop}

protected theorem pure {value : α} (h : good value) :
    (Pure.pure value : Work α).Confined options allowed good := by
  refine fun session hoptions ↦ ⟨hoptions, ?_⟩
  rintro _ ⟨⟩
  exact h

protected theorem throw (stop : Stop) : (throw stop : Work α).Confined options allowed good :=
  fun _ hoptions ↦ ⟨hoptions, nofun⟩

protected theorem fail (cause : Failure) :
    (Work.fail cause : Work α).Confined options allowed good :=
  .throw _

protected theorem ask {request : Request} (h : ∀ path ∈ request.changes, allowed path) :
    (Work.ask request).Confined options allowed fun reply ↦ Answers.tidy request reply := by
  refine fun session hoptions ↦ ⟨h, fun reply hreply ↦ ⟨hoptions, ?_⟩⟩
  rintro _ ⟨⟩
  exact hreply

protected theorem get :
    (MonadState.get : Work Session).Confined options allowed fun session ↦
      session.options = options := by
  refine fun session hoptions ↦ ⟨hoptions, ?_⟩
  rintro _ ⟨⟩
  exact hoptions

theorem imp {work : Work α} {better : α → Prop} (h : work.Confined options allowed better)
    (himp : ∀ value, better value → good value) : work.Confined options allowed good :=
  fun session hoptions ↦ (h session hoptions).imp fun _ hout ↦
    ⟨hout.1, fun value hvalue ↦ himp value (hout.2 value hvalue)⟩

/-- Work that changes only what is allowed, when more is. -/
theorem allow {work : Work α} {wider : String → Prop} (h : work.Confined options allowed good)
    (hallow : ∀ path, allowed path → wider path) : work.Confined options wider good :=
  fun session hoptions ↦ (h session hoptions).widen fun _ hchanges path hpath ↦
    hallow path (hchanges path hpath)

protected theorem bind {work : Work α} {next : α → Work β} {done : β → Prop}
    (h : work.Confined options allowed good)
    (hnext : ∀ value, good value → (next value).Confined options allowed done) :
    (work >>= next).Confined options allowed done := by
  intro session hoptions
  rw [after_bind, Act.alwaysUnder_bind]
  refine (h session hoptions).imp fun out hout ↦ ?_
  obtain ⟨stop | value, reached⟩ := out
  · exact ⟨hout.1, nofun⟩
  · exact hnext value (hout.2 value rfl) reached hout.1

/-- Cleaning up after a stop gives no value. -/
protected theorem onStop {cleanUp : Work Unit} {work : Work α}
    (hclean : cleanUp.Confined options allowed fun _ ↦ True)
    (h : work.Confined options allowed good) :
    (Work.onStop cleanUp work).Confined options allowed good := by
  intro session hoptions
  unfold Work.onStop
  rw [after_tryCatch, Act.alwaysUnder_bind]
  refine (h session hoptions).imp fun out hout ↦ ?_
  obtain ⟨stop | value, reached⟩ := out
  · exact Confined.bind hclean (fun _ _ ↦ .throw stop) reached hout.1
  · exact hout

/-- The value of an answer. -/
protected theorem orFail {answer : Except IoError α} {cause : IoError → Failure}
    (h : ∀ value, answer = .ok value → good value) :
    (Work.orFail answer cause).Confined options allowed good := by
  cases answer with
  | ok value => exact .pure (h value rfl)
  | error error => exact .fail _

/-- The value of an answer of which nothing has to be known. -/
protected theorem orFail_true {answer : Except IoError α} {cause : IoError → Failure} :
    (Work.orFail answer cause).Confined options allowed fun _ ↦ True :=
  .orFail fun _ _ ↦ trivial

end Work.Confined

/-! ### Work that changes nothing -/

section Parts

variable {α : Type} {options : Options} {allowed : String → Prop}

theorem confined_pure (value : α) :
    (pure value : Work α).Confined options allowed fun _ ↦ True :=
  .pure trivial

theorem confined_leadsSomewhere (path : String) :
    (leadsSomewhere path).Confined options allowed fun _ ↦ True := by
  refine .bind (.ask (List.forall_mem_nil _)) fun answer _ ↦ ?_
  split <;> exact confined_pure _

theorem confined_deadline? (limit : Option Number.Duration) :
    (deadline? limit).Confined options allowed fun _ ↦ True := by
  unfold deadline?
  split
  · exact confined_pure _
  · exact .bind (.ask (List.forall_mem_nil _)) fun _ _ ↦ confined_pure _

theorem confined_runToEnd (invocation : Invocation) (label : String) (input : Bytes)
    (limit : Option Number.Duration) :
    (runToEnd invocation label input limit).Confined options allowed fun _ ↦ True := by
  have hrelease (process : ProcessId) :
      (ask (.release process)).Confined options allowed fun _ ↦ True :=
    .imp (.ask (List.forall_mem_nil _)) fun _ _ ↦ trivial
  refine .bind (.ask (List.forall_mem_nil _)) fun spawned _ ↦ .bind .orFail_true fun process _ ↦
    .bind (confined_deadline? limit) fun deadline _ ↦
      .bind (.ask (List.forall_mem_nil _)) fun collected _ ↦ ?_
  split
  · exact .bind (hrelease process) fun _ _ ↦ .throw _
  · exact .bind (hrelease process) fun _ _ ↦ .fail _
  · exact .bind (hrelease process) fun _ _ ↦ .fail _
  · split
    · split
      · exact .fail _
      · exact confined_pure _
    · exact confined_pure _

theorem confined_requireSuccess (label : String) (finished : Finished) :
    (requireSuccess label finished).Confined options allowed fun _ ↦ True := by
  unfold requireSuccess
  split
  · exact confined_pure _
  · exact .fail _

theorem confined_basename : basename.Confined options allowed fun name ↦
    options.basename = some name ∧ name ≠ "" := by
  refine .bind .get fun session hoptions ↦ ?_
  rw [hoptions]
  split
  · next name hname =>
    split
    · exact .fail _
    · next hempty => exact .pure ⟨hname, fun hnil ↦ hempty (String.isEmpty_iff.2 hnil)⟩
  · exact .fail _

theorem confined_recordCheckpoint (name : String) :
    (recordCheckpoint name).Confined options allowed fun _ ↦ True := by
  intro session hoptions
  unfold recordCheckpoint
  rw [after_bind, after_get, pure_bind]
  simp only
  split
  · exact confined_pure _ session hoptions
  · exact ⟨hoptions, fun _ _ ↦ trivial⟩

/-! ### Checkpoints -/

/-- With a path that is allowed, the entries that can stand in it are allowed. -/
def Grows (allowed : String → Prop) : Prop :=
  ∀ path name, allowed path → Path.IsPlain name → allowed (Path.join path name)

theorem confined_isLeftOut (exclude : List String) (skip path name : String) :
    (isLeftOut exclude skip path name).Confined options allowed fun _ ↦ True := by
  unfold isLeftOut
  split
  · exact confined_pure _
  · refine .bind (.ask (List.forall_mem_nil _)) fun answer _ ↦ ?_
    split <;> exact confined_pure _

theorem confined_copyEntry (source : String) {target : String} (kind : EntryKind)
    (htarget : allowed target) :
    (copyEntry source target kind).Confined options allowed fun _ ↦ True := by
  have honly : ∀ path ∈ [target], allowed path := List.forall_mem_singleton.2 htarget
  unfold copyEntry
  split
  · exact .bind (.ask (List.forall_mem_nil _)) fun _ _ ↦ .bind .orFail_true fun _ _ ↦
      .bind (.ask honly) fun _ _ ↦ .bind .orFail_true fun _ _ ↦ confined_pure _
  · exact .bind (.ask honly) fun _ _ ↦ .bind .orFail_true fun _ _ ↦ confined_pure _

theorem confined_copyEntries (hgrows : Grows allowed) (exclude : List String) (skip source : String)
    {target : String} (htarget : allowed target) {copyDirectory : String → String → Work Nat}
    (hcopy : ∀ source target, allowed target →
      (copyDirectory source target).Confined options allowed fun _ ↦ True)
    {entries : List (String × EntryKind)} (hentries : ∀ entry ∈ entries, Path.IsPlain entry.1) :
    (copyEntries exclude skip source target copyDirectory entries).Confined options allowed
      fun _ ↦ True := by
  induction entries with
  | nil => exact confined_pure _
  | cons entry entries ih =>
    obtain ⟨name, kind⟩ := entry
    have hcopied : allowed (Path.join target name) :=
      hgrows target name htarget (hentries (name, kind) List.mem_cons_self)
    have hlater := ih fun other hother ↦ hentries other (List.mem_cons_of_mem _ hother)
    refine .bind (confined_isLeftOut _ _ _ _) fun leftOut _ ↦ ?_
    extract_lets rest
    have hrest : ∀ copied, (rest copied).Confined options allowed fun _ ↦ True :=
      fun _ ↦ .bind hlater fun _ _ ↦ confined_pure _
    split
    · exact .bind (confined_pure _) fun copied _ ↦ hrest copied
    · split
      · exact .bind (.ask (List.forall_mem_singleton.2 hcopied)) fun _ _ ↦
          .bind .orFail_true fun _ _ ↦ .bind (hcopy _ _ hcopied) fun copied _ ↦ hrest copied
      · exact .bind (confined_copyEntry _ _ hcopied) fun copied _ ↦ hrest copied

theorem confined_copyDirectory (hgrows : Grows allowed) (exclude : List String) (skip : String)
    (depth : Nat) (source : String) {target : String} (htarget : allowed target) :
    (copyDirectory exclude skip depth source target).Confined options allowed fun _ ↦ True := by
  induction depth generalizing source target with
  | zero => exact .fail _
  | succ depth ih =>
    have hlist : (ask (.entries source)).Confined options allowed fun answer ↦
        ∀ entries, answer = .ok entries → ∀ entry ∈ entries, Path.IsPlain entry.1 := by
      refine .imp (.ask (List.forall_mem_nil _)) fun answer hanswer entries hentries ↦ ?_
      rw [hentries] at hanswer
      exact hanswer
    exact .bind hlist fun answer hanswer ↦ .bind (.orFail hanswer) fun entries hentries ↦
      confined_copyEntries hgrows _ _ _ htarget (fun source _ htarget ↦ ih source htarget) hentries

theorem confined_copyTree (hgrows : Grows allowed) (source : String) {target : String}
    (exclude : List String) (skip : String) (htarget : allowed target) :
    (copyTree source target exclude skip).Confined options allowed fun _ ↦ True := by
  refine .bind (.ask (List.forall_mem_nil _)) fun _ _ ↦ .bind .orFail_true fun found _ ↦ ?_
  extract_lets rest
  have hrest : ∀ kind, (rest kind).Confined options allowed fun _ ↦ True := by
    intro kind
    change Confined options allowed (if kind = .directory then _ else _) _
    split
    · exact confined_copyDirectory hgrows _ _ _ _ htarget
    · exact confined_pure _
  split
  · exact .bind (.ask (List.forall_mem_nil _)) fun _ _ ↦ .bind .orFail_true fun kind _ ↦ hrest kind
  · exact .bind (confined_pure _) fun kind _ ↦ hrest kind

theorem confined_fillCheckpoint (hgrows : Grows allowed) {block : Checkpoint}
    {parent staging : String} (hname : Path.IsPlain block.name) (hparent : allowed parent)
    (hstaging : allowed staging) :
    (fillCheckpoint block parent staging).Confined options allowed fun _ ↦ True := by
  have htarget : allowed (Path.join parent block.name) := hgrows parent _ hparent hname
  refine .bind .get fun _ _ ↦ .bind (.ask (List.forall_mem_nil _)) fun _ _ ↦
    .bind .orFail_true fun _ _ ↦ .bind (confined_copyTree hgrows _ _ _ hstaging) fun _ _ ↦
      .bind (confined_leadsSomewhere _) fun taken _ ↦ ?_
  extract_lets rest
  have hboth : ∀ path ∈ [staging, Path.join parent block.name], allowed path :=
    List.forall_mem_cons.2 ⟨hstaging, List.forall_mem_singleton.2 htarget⟩
  have hrest : (rest ()).Confined options allowed fun _ ↦ True :=
    .bind (.ask hboth) fun _ _ ↦ .orFail_true
  split
  · exact .bind (.ask (List.forall_mem_singleton.2 htarget)) fun _ _ ↦
      .bind .orFail_true fun _ _ ↦ hrest
  · exact hrest

end Parts

/-! ### The directories of a document -/

/-- A path is in the directory that a document keeps its assets of a kind in. -/
def Options.Owns (options : Options) (kind path : String) : Prop :=
  ∃ name, options.basename = some name ∧ name ≠ "" ∧ (Path.place path).IsWithin
    (Path.place (Path.join (Path.join options.assetsRoot kind) name))

/-- The directory that the assets of an action are kept in, if it makes any. -/
def assetKind? : Action → Option String
  | .screenshot _ => some "screenshots"
  | .checkpoint _ => some "checkpoints"
  | _ => none

section Blocks

variable {options : Options} {allowed : String → Prop}

theorem grows_owns (options : Options) (kind : String) : Grows (options.Owns kind) := by
  rintro path entry ⟨name, hbasename, hne, hwithin⟩ hplain
  obtain ⟨last, hlast⟩ := hplain.exists_place_join_eq path
  exact ⟨name, hbasename, hne, hlast ▸ hwithin.down [last]⟩

theorem confined_makeTempFile (hgrows : Grows allowed) {directory : String} (ending : String)
    (h : allowed directory) : (ask (.makeTempFile directory ending)).Confined options allowed
      fun answer ↦ ∀ path, answer = .ok path → allowed path := by
  refine .imp (.ask (List.forall_mem_singleton.2 h)) fun answer hanswer path hpath ↦ ?_
  rw [hpath] at hanswer
  obtain ⟨name, hplain, rfl⟩ := hanswer
  exact hgrows directory name h hplain

theorem confined_makeTempDirectory (hgrows : Grows allowed) {directory : String}
    (h : allowed directory) : (ask (.makeTempDirectory directory)).Confined options allowed
      fun answer ↦ ∀ path, answer = .ok path → allowed path := by
  refine .imp (.ask (List.forall_mem_singleton.2 h)) fun answer hanswer path hpath ↦ ?_
  rw [hpath] at hanswer
  obtain ⟨name, hplain, rfl⟩ := hanswer
  exact hgrows directory name h hplain

/-- A checkpoint changes only the directory of the checkpoints of its document. -/
theorem confined_runCheckpoint (options : Options) {block : Checkpoint}
    (hplain : Path.IsPlain block.name) :
    (runCheckpoint block).Confined options (options.Owns "checkpoints") fun _ ↦ True := by
  have hgrows := grows_owns options "checkpoints"
  refine .bind confined_basename fun name hname ↦ .bind (confined_recordCheckpoint _) fun _ _ ↦ ?_
  extract_lets rest
  have hrest : (rest ()).Confined options (options.Owns "checkpoints") fun _ ↦ True := by
    refine .bind .get fun session hoptions ↦ ?_
    rw [hoptions]
    extract_lets current parent
    have hparent : options.Owns "checkpoints" parent :=
      ⟨name, hname.1, hname.2, Path.Place.isWithin_refl _⟩
    have hdiscard {staging : String} (hstaging : options.Owns "checkpoints" staging) :
        (ask (.discardTree staging)).Confined options (options.Owns "checkpoints") fun _ ↦ True :=
      .imp (.ask (List.forall_mem_singleton.2 hstaging)) fun _ _ ↦ trivial
    exact .bind (.ask (List.forall_mem_singleton.2 hparent)) fun _ _ ↦ .bind .orFail_true fun _ _ ↦
      .bind (confined_makeTempDirectory hgrows hparent) fun answer hanswer ↦
        .bind (.orFail hanswer) fun staging hstaging ↦
          .bind (.onStop (hdiscard hstaging)
            (confined_fillCheckpoint hgrows hplain hparent hstaging)) fun _ _ ↦ confined_pure _
  have hfail : (fail (.unmet (.checkpointTaken block.name)) : Work Unit).Confined options
      (options.Owns "checkpoints") fun _ ↦ True := .fail _
  split
  · exact .bind hfail fun _ _ ↦ hrest
  · exact hrest

theorem confined_publish {temp target : String} (mode : Option Nat) (htemp : allowed temp)
    (htarget : allowed target) :
    (publish temp target mode).Confined options allowed fun _ ↦ True := by
  have honly : ∀ path ∈ [temp], allowed path := List.forall_mem_singleton.2 htemp
  have hboth : ∀ path ∈ [temp, target], allowed path :=
    List.forall_mem_cons.2 ⟨htemp, List.forall_mem_singleton.2 htarget⟩
  exact .onStop (.imp (.ask honly) fun _ _ ↦ trivial) (.bind (.ask honly) fun _ _ ↦
    .bind .orFail_true fun _ _ ↦ .bind (.ask hboth) fun _ _ ↦ .orFail_true)

theorem confined_capture (block : Picture) (temp : String) :
    (capture block temp).Confined options allowed fun _ ↦ True := by
  refine .bind .get fun session _ ↦ .bind (confined_runToEnd _ _ _ _) fun finished _ ↦
    .bind (confined_requireSuccess _ _) fun _ _ ↦ .bind (.ask (List.forall_mem_nil _)) fun _ _ ↦
      .bind .orFail_true fun bytes _ ↦ ?_
  split
  · exact confined_pure _
  · exact .fail _

/-- A screenshot changes only the directory of the screenshots of its document. -/
theorem confined_runScreenshot (options : Options) {block : Picture}
    (hplain : Path.IsPlain block.outputName) :
    (runScreenshot block).Confined options (options.Owns "screenshots") fun _ ↦ True := by
  have hgrows := grows_owns options "screenshots"
  refine .bind confined_basename fun name hname ↦ .bind .get fun session hoptions ↦ ?_
  rw [hoptions]
  extract_lets current directory
  have hdirectory : options.Owns "screenshots" directory :=
    ⟨name, hname.1, hname.2, Path.Place.isWithin_refl _⟩
  have htarget := hgrows directory block.outputName hdirectory hplain
  have hdiscard {temp : String} (htemp : options.Owns "screenshots" temp) :
      (ask (.discardFile temp)).Confined options (options.Owns "screenshots") fun _ ↦ True :=
    .imp (.ask (List.forall_mem_singleton.2 htemp)) fun _ _ ↦ trivial
  exact .bind (.ask (List.forall_mem_singleton.2 hdirectory)) fun _ _ ↦ .bind .orFail_true
    fun _ _ ↦ .bind (confined_makeTempFile hgrows _ hdirectory) fun answer hanswer ↦
      .bind (.orFail hanswer) fun temp htemp ↦
        .bind (.onStop (hdiscard htemp) (confined_capture _ _)) fun size _ ↦
          .bind (confined_publish _ htemp htarget) fun _ _ ↦ confined_pure _

/-- A block that makes assets changes only the directory that its document keeps them in. -/
theorem confined_runAction (options : Options) {kind : Kind} {arguments body directory : String}
    {action : Action} (h : Action.parse kind arguments body = .ok action)
    (hkind : assetKind? action = some directory) :
    (runAction action).Confined options (options.Owns directory) fun _ ↦ True := by
  have hsame := Action.kind_of_parse h
  cases action with
  | screenshot block =>
    cases hkind
    cases hsame
    change (Picture.parse arguments body).map Action.screenshot = _ at h
    obtain ⟨found, hparsed, hfound⟩ := exists_of_map_ok h
    cases hfound
    exact confined_runScreenshot options (Picture.isPlain_outputName hparsed)
  | checkpoint block =>
    cases hkind
    cases hsame
    change (Checkpoint.parse arguments).map Action.checkpoint = _ at h
    obtain ⟨found, hparsed, hfound⟩ := exists_of_map_ok h
    cases hfound
    exact confined_runCheckpoint options (Checkpoint.isPlain_name hparsed)
  | _ => cases hkind

end Blocks

end Session

end Runbook
