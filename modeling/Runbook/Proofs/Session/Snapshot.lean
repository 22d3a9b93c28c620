import Runbook.Proofs.Sandbox.Replacing
import Runbook.Proofs.Session.Copying
import Runbook.Proofs.Session.Yields
import Runbook.Sandbox.Workspace
/-!
# Taking a snapshot again

A checkpoint whose name has been taken in an earlier run replaces the snapshot of that name. The new
one is first put together in a directory beside it (`Staged`). Up to there the old snapshot is as it
was, whatever fails. Then the old one is removed and the new one is moved to its path
(`Ready.alters_fillCheckpoint`), and at last, or when the work has stopped early, the directory
beside it is gone or is discarded (`Ready.stopped`).

So a checkpoint that succeeds leaves exactly the new snapshot, and one that fails leaves the old one
as it was, unless what has failed is at the path of the snapshot (`runCheckpoint_replaces`). This
exception cannot be dropped: removing comes before moving, and it can remove what is in the snapshot
and then fail (`runDocument_losesSnapshot`).
-/

set_option autoImplicit false

namespace Runbook.Session

open Block Machine Sandbox Work

section

variable {ω : Type} {step : Steps ω} {safe : ω → Prop} {world : ω} {session : Session}

/-- The name of the document is looked up. -/
theorem evolving_basename :
    Evolving step safe basename session world fun result reached after ↦
      reached = session ∧ after = world ∧
        ∀ name, result = .ok name → session.options.basename = some name := by
  refine .get ?_
  cases hname : session.options.basename with
  | none => exact .throw ⟨rfl, rfl, nofun⟩
  | some name =>
    dsimp only
    split
    · exact .throw ⟨rfl, rfl, nofun⟩
    · exact .pure ⟨rfl, rfl, fun _ heq ↦ Except.ok.inj heq ▸ rfl⟩

/-- The name of a checkpoint is noted in the session. -/
theorem evolving_recordCheckpoint {name : String} :
    Evolving step safe (recordCheckpoint name) session world fun _ reached after ↦
      reached.options = session.options ∧ after = world := by
  refine .get ?_
  split
  · exact .pure ⟨rfl, rfl⟩
  · exact .modify (.pure ⟨rfl, rfl⟩)

end

/-- The path of the directory in which a document keeps its snapshots. -/
def Options.snapshotsPath (options : Options) (basename : String) : String :=
  Path.join (Path.join options.assetsRoot "checkpoints") basename

/-- A checkpoint that is taken again. -/
structure Retaking where
  /-- The files before. -/
  files : FileSystem
  /-- The directory that relative paths start from. -/
  here : NodeId
  options : Options
  block : Checkpoint
  /-- The name of the document among its assets. -/
  basename : String
  /-- The name of the snapshot. -/
  name : String
  /-- The directory in which the snapshots are. -/
  parent : NodeId
  /-- The snapshot that is there. -/
  old : NodeId
  /-- The working directory. -/
  source : NodeId
  /-- The directory of the assets. -/
  assets : NodeId

namespace Retaking

section

variable (taking : Retaking)

/-- The path of the directory in which the snapshots are. -/
def path : String := taking.options.snapshotsPath taking.basename

/-- The path of the snapshot. -/
def target : String := Path.join taking.path taking.block.name

/-- The path of the directory that the copy is put into first. -/
def temp (fresh : String) : String := Path.join taking.path fresh

/-- The name of the snapshot in its directory. -/
def entry : String := ByteText.ofText taking.name

/-- The copying of the working directory, once there is a directory for the copy. -/
def job (staged : FileSystem) : Copying where
  files := staged
  here := taking.here
  staging := taking.files.nodes.size
  exclude := taking.block.exclude
  skip := ByteText.toText (staged.pathTo taking.assets)

/-- A snapshot stands where a checkpoint is taken. -/
structure Ready (known : List String) : Prop where
  sound : taking.files.Sound
  rooted : taking.files.Rooted
  hung : taking.files.Hung
  spelled : taking.files.IsSpelled
  here : taking.files.isDirectory taking.here = true
  basename : taking.options.basename = some taking.basename
  name : Path.components taking.block.name = [.normal taking.name]
  parent : taking.files.find taking.here (ByteText.ofText taking.path) true = .ok taking.parent
  old : taking.files.named (taking.parent, taking.entry) = some taking.old
  isDirectory : taking.files.isDirectory taking.old = true
  source : taking.files.find taking.here (ByteText.ofText taking.options.workdir) true =
    .ok taking.source
  isSource : taking.files.isDirectory taking.source = true
  known : taking.options.workdir ∈ known
  assets : taking.files.find taking.here (ByteText.ofText taking.options.assetsRoot) true =
    .ok taking.assets
  inside : taking.files.isInside taking.assets taking.files.nodes.size taking.parent = true

/-- A new directory for the copy has been made beside the snapshot. -/
structure Staged (fresh : String) (staged : FileSystem) : Prop where
  sound : staged.Sound
  rooted : staged.Rooted
  spelled : staged.IsSpelled
  grows : taking.files.GrowsTo staged
  gains : taking.files.Gains taking.parent (ByteText.ofText fresh)
    (.directory taking.parent []) staged
  staging : staged.IsStaging taking.here taking.files.nodes.size (ByteText.ofText fresh)
  free : taking.files.named (taking.parent, ByteText.ofText fresh) = none
  isEntryName : Path.IsEntryName fresh
  notMem : ByteText.ofText fresh ∉ FileSystem.pieces (ByteText.ofText taking.options.workdir)

/-- The names that were in the directory of the snapshots. -/
def kept : Set String := {name | taking.files.named (taking.parent, name) ≠ none}

/-- The directories of the snapshot that was there. -/
def lost : Set NodeId :=
  {id | taking.files.isInside taking.old taking.files.nodes.size id = true}

/-- Where work on a snapshot has stopped: the directory for the copy has been filled, and the
snapshot is there, or some of it has been removed and what has failed is at its path. -/
def Interrupted (staged : FileSystem) (stop : Stop) (reached : FileSystem) : Prop :=
  ∃ copied, staged.Fills taking.files.nodes.size copied ∧ (reached = copied ∨
    (∃ error, stop = .failed (Failure.atPath taking.target error)) ∧
      copied.Clears (taking.parent, taking.entry) taking.old reached)

/-- What was there is as it was, but for the snapshot. -/
def Unharmed (after : FileSystem) : Prop :=
  taking.files.Spares taking.parent (taking.kept \ {taking.entry}) taking.lost after

/-- What is left when a checkpoint fails: the snapshot is as it was and so is all else, or what has
failed is at the path of the snapshot. Then only the snapshot can be gone. -/
def Stopped (stop : Stop) (after : FileSystem) : Prop :=
  taking.files.Spares taking.parent taking.kept ∅ after ∨
    (∃ error, stop = .failed (Failure.atPath taking.target error)) ∧ taking.Unharmed after

/-- The snapshot is a copy of the working directory, and nothing else has changed. -/
structure Replaced (known : List String) (after : FileSystem) : Prop where
  spares : taking.files.Spares taking.parent {taking.entry}ᶜ taking.lost after
  snapshot : after.named (taking.parent, taking.entry) = some taking.files.nodes.size
  mirrors : ∃ fresh mode staged number, Tree.IsNew taking.files known fresh ∧
    taking.files.makeDirectory taking.here (ByteText.ofText (taking.temp fresh)) mode =
      .ok staged ∧ (taking.job staged).Mirrors taking.options.workdir taking.source after
        taking.files.nodes.size number

end

variable {taking : Retaking} {known : List String} {fresh : String}
  {staged copied left after : FileSystem} {session : Session} {stop : Stop} {mode number : Nat}
  {refuses : Request → Prop}

/-! ### The directory for the copy -/

section

variable (h : taking.Ready known)
include h

theorem Ready.isDirectory_parent : taking.files.isDirectory taking.parent = true :=
  FileSystem.isDirectory_of_named h.old

theorem Ready.ne_root : taking.old ≠ FileSystem.root := fun heq ↦ h.hung.root _ (heq ▸ h.old)

theorem Ready.isDirectory_assets : taking.files.isDirectory taking.assets = true :=
  h.sound.isDirectory_of_isInside h.isDirectory_parent h.inside

/-- The snapshot is not above the directory that it is in. -/
theorem Ready.isInside_parent {fuel : Nat} :
    taking.files.isInside taking.old fuel taking.parent = false :=
  h.rooted.isInside_eq_false h.hung h.old h.isDirectory

theorem Ready.stages (hnew : Tree.IsNew taking.files known fresh)
    (hmade : taking.files.makeDirectory taking.here (ByteText.ofText (taking.temp fresh)) mode =
      .ok staged) : taking.Staged fresh staged := by
  have hparent := FileSystem.leads_of_find h.parent
  have hgoes : FileSystem.GoesOn taking.here (ByteText.ofText taking.path) (ByteText.ofText fresh)
      (ByteText.ofText (taking.temp fresh)) := FileSystem.goesOn_join hnew.isEntryName
  obtain ⟨spot, hspot, -, hfree, hholder, hadds⟩ := FileSystem.adds_of_makeDirectory hmade
  obtain ⟨other, hother, -, -, hgains⟩ := FileSystem.gains_of_makeDirectory hmade
  obtain rfl := hparent.spot_eq hgoes hspot
  obtain rfl := hparent.spot_eq hgoes hother
  refine ⟨hadds.sound h.sound hfree hholder, hgains.rooted h.sound h.rooted,
    h.spelled.of_makeDirectory hmade fun spot hspot ↦ ⟨fresh, ?_⟩, hadds.growsTo h.sound hfree,
    hgains, hgains.isStaging h.sound h.here hnew.named hnew.links, hfree,
    hnew.isEntryName, hnew.paths _ h.known⟩
  rw [hparent.spot_eq hgoes hspot]

variable (hstaged : taking.Staged fresh staged)
include hstaged

/-- The copy is put below what is left out of it. -/
theorem Ready.job : (taking.job staged).Ready (ByteText.ofText fresh) where
  sound := hstaged.sound
  rooted := hstaged.rooted
  here := hstaged.grows.isDirectory h.here
  staging := hstaged.staging
  below := by
    have hinside : staged.isInside taking.assets (taking.files.nodes.size + 1)
        taking.files.nodes.size = true := by
      have hup : staged.parentOf taking.files.nodes.size = taking.parent := by
        rw [FileSystem.parentOf, hstaged.gains.content_new]
      rw [FileSystem.isInside_succ, hup, Bool.or_eq_true, Bool.and_eq_true,
        FileSystem.isInside_eq h.sound (fun _ ↦ hstaged.gains.fills.frame?_eq)
          (FileSystem.lt_size_of_isDirectory h.isDirectory_parent)]
      exact .inr ⟨bne_iff_ne.2 hstaged.staging.ne_root, h.inside⟩
    exact FileSystem.isBelow_pathTo hstaged.rooted hstaged.sound hstaged.spelled
      hstaged.staging.isDirectory (hstaged.grows.isDirectory h.isDirectory_assets) hinside

/-! ### What is left -/

variable (hfills : staged.Fills taking.files.nodes.size copied)
include hfills

omit h in
theorem Staged.fills : taking.files.Fills taking.parent copied :=
  hstaged.gains.fills.trans hfills (.inr (Nat.le_refl _))

theorem Ready.leads_path :
    copied.Leads taking.here (ByteText.ofText taking.path) taking.parent :=
  (hstaged.fills hfills).leads h.sound.named (FileSystem.leads_of_find h.parent)

omit h in
theorem Staged.named_fresh : copied.named (taking.parent, ByteText.ofText fresh) =
    some taking.files.nodes.size :=
  hfills.named_of_named hstaged.gains.named

theorem Ready.named_entry : copied.named (taking.parent, taking.entry) = some taking.old :=
  (hstaged.fills hfills).named_of_named h.old

theorem Ready.stands_temp :
    copied.Stands taking.here (ByteText.ofText (taking.temp fresh))
      (taking.parent, ByteText.ofText fresh) taking.files.nodes.size := by
  have hgoes : FileSystem.GoesOn taking.here (ByteText.ofText taking.path) (ByteText.ofText fresh)
      (ByteText.ofText (taking.temp fresh)) := FileSystem.goesOn_join hstaged.isEntryName
  exact (h.leads_path hstaged hfills).stands hgoes.start hgoes.pieces nofun hgoes.plain
    (hstaged.named_fresh hfills)
    ((hfills.isDirectory_eq hfills.lt_size).trans hstaged.staging.isDirectory)

theorem Ready.stands_target :
    copied.Stands taking.here (ByteText.ofText taking.target) (taking.parent, taking.entry)
      taking.old := by
  obtain ⟨hname, habsolute, -⟩ := Path.names_of_components h.name
  obtain ⟨dots, hdots, hall⟩ := FileSystem.pieces_of_components h.name
  refine (h.leads_path hstaged hfills).stands (FileSystem.start_join habsolute) ?_ hall
    (FileSystem.pieces_of_isEntryName hname).2.1 (h.named_entry hstaged hfills) ?_
  · rw [target, FileSystem.pieces_join habsolute, hdots, entry]
  · rw [(hstaged.fills hfills).isDirectory_eq (FileSystem.lt_size_of_isDirectory h.isDirectory),
      h.isDirectory]

/-- What is inside of the snapshot was inside of it before. -/
theorem Ready.mem_lost {id : NodeId} {fuel : Nat} (hid : id < taking.files.nodes.size)
    (hinside : copied.isInside taking.old fuel id = true) : id ∈ taking.lost := by
  rw [FileSystem.isInside_eq h.sound (fun _ ↦ (hstaged.fills hfills).frame?_eq) hid] at hinside
  exact FileSystem.isInside_of_isInside_root
    (h.rooted id (FileSystem.isDirectory_of_isInside h.isDirectory h.ne_root hinside)) hinside

/-- What is new is not inside of the snapshot that was there. -/
theorem Ready.isInside_eq_false {id fuel : Nat} (hid : taking.files.nodes.size ≤ id) :
    copied.isInside taking.old fuel id = false := by
  have hlt : taking.parent < taking.files.nodes.size :=
    FileSystem.lt_size_of_isDirectory h.isDirectory_parent
  have hmem : id ∈ {id | taking.files.nodes.size ≤ id ∨
      ∀ fuel, copied.isInside taking.old fuel id = false} := .inl hid
  refine FileSystem.isInside_eq_false_of_closed ?_ ?_ hmem
  · rintro id (hid | hnone) hroot
    · cases hdirectory : copied.isDirectory id with
      | false =>
        refine .inr fun fuel ↦ ?_
        rw [FileSystem.parentOf_eq, FileSystem.frame?_eq_none_iff.2 hdirectory]
        exact FileSystem.isInside_root_eq_false h.ne_root
      | true =>
        rcases (hstaged.fills hfills).above id _ _ hid
          (FileSystem.frame?_eq_some_iff.2 ⟨_, FileSystem.content_of_isDirectory hdirectory, rfl⟩)
          with hparent | hnew
        · refine .inr fun fuel ↦ ?_
          rw [hparent, FileSystem.isInside_eq h.sound
            (fun _ ↦ (hstaged.fills hfills).frame?_eq) hlt, h.isInside_parent]
        · exact .inl hnew
    · refine .inr fun fuel ↦ ?_
      have hup := hnone (fuel + 1)
      rw [FileSystem.isInside_succ, Bool.or_eq_false_iff, bne_iff_ne.2 hroot, Bool.true_and] at hup
      exact hup.2
  · rintro (hold | hnone)
    · exact Nat.not_lt_of_le hold (FileSystem.lt_size_of_isDirectory h.isDirectory)
    · have hself := hnone 1
      rw [FileSystem.isInside_succ, decide_eq_true rfl] at hself
      cases hself

omit h in
theorem Staged.spares : taking.files.Spares taking.parent {ByteText.ofText fresh}ᶜ ∅ copied where
  size := (hstaged.fills hfills).size
  frame _ hid := (hstaged.fills hfills).frame?_eq hid
  node id hid hne _ := (hstaged.fills hfills).node id hid hne
  named name hname := by
    have hlt : taking.parent < taking.files.nodes.size := hstaged.gains.fills.lt_size
    rw [hfills.named_eq (Nat.lt_of_lt_of_le hlt hstaged.gains.fills.size) (Nat.ne_of_lt hlt),
      hstaged.gains.others name hname]

theorem Ready.spares_of_clears
    (hclears : copied.Clears (taking.parent, taking.entry) taking.old left) :
    taking.files.Spares taking.parent {ByteText.ofText fresh, taking.entry}ᶜ taking.lost left := by
  have hparent : copied.isInside taking.old copied.nodes.size taking.parent = false := by
    rw [FileSystem.isInside_eq h.sound (fun _ ↦ (hstaged.fills hfills).frame?_eq)
      (FileSystem.lt_size_of_isDirectory h.isDirectory_parent), h.isInside_parent]
  refine ((hstaged.spares hfills).mono ?_ (Set.empty_subset _)).trans (hclears.spares hparent) ?_
    fun id hid hinside ↦ h.mem_lost hstaged hfills hid hinside
  · exact fun name hname hfresh ↦ hname (.inl hfresh)
  · exact fun name hname hentry ↦ hname (.inr hentry)

/-- Once the copy has been moved to the path of the snapshot. -/
theorem Ready.renames
    (hclears : copied.Clears (taking.parent, taking.entry) taking.old left)
    (hrename : left.rename taking.here (ByteText.ofText (taking.temp fresh))
      (ByteText.ofText taking.target) = .ok after) :
    left.Renames taking.parent (ByteText.ofText fresh) taking.entry taking.files.nodes.size
      after := by
  obtain ⟨source, target, id, hsource, htarget, hsourceDots, htargetDots, hid, hmoved⟩ :=
    FileSystem.exists_move_of_rename hrename
  obtain rfl := ((h.stands_temp hstaged hfills).shrinks hclears.toShrinks).spot source hsource
    hsourceDots
  obtain rfl := ((h.stands_target hstaged hfills).shrinks hclears.toShrinks).spot target htarget
    htargetDots
  obtain rfl := Option.some.inj ((hclears.named _ _ hid).symm.trans (hstaged.named_fresh hfills))
  have hframe : left.frame? taking.files.nodes.size =
      some (taking.parent, (staged.node taking.files.nodes.size).mode) := by
    rw [hclears.frame, hfills.frame]
    exact FileSystem.frame?_eq_some_iff.2 ⟨_, hstaged.gains.content_new, rfl⟩
  rw [(hmoved fun heq ↦ ?_).1]
  · exact FileSystem.renames_moveName hframe (FileSystem.isDirectory_of_named hid)
  · have hsame := Option.some.inj
      ((h.named_entry hstaged hfills).symm.trans (hclears.named _ _ heq))
    exact Nat.ne_of_lt (FileSystem.lt_size_of_isDirectory h.isDirectory) hsame

theorem Ready.spares_of_renames
    (hclears : copied.Clears (taking.parent, taking.entry) taking.old left)
    (hrenames : left.Renames taking.parent (ByteText.ofText fresh) taking.entry
      taking.files.nodes.size after) :
    taking.files.Spares taking.parent {taking.entry}ᶜ taking.lost after := by
  have hne : taking.entry ≠ ByteText.ofText fresh := by
    intro heq
    cases h.old.symm.trans (heq ▸ hstaged.free)
  have hspares := (h.spares_of_clears hstaged hfills hclears).trans hrenames.spares
    (fun name hname ↦ not_or.1 hname) fun _ _ hin ↦ absurd hin (Set.notMem_empty _)
  refine ⟨hspares.size, hspares.frame, hspares.node, fun name hname ↦ ?_⟩
  by_cases hfresh : name = ByteText.ofText fresh
  · rw [hfresh, hrenames.named_first hne, hstaged.free]
  · exact hspares.named name (not_or.2 ⟨hfresh, hname⟩)

/-- The copy is the same after it has been moved. -/
theorem Ready.mirrors_of_renames
    (hmirrors : (taking.job staged).Mirrors taking.options.workdir taking.source copied
      taking.files.nodes.size number)
    (hclears : copied.Clears (taking.parent, taking.entry) taking.old left)
    (hrenames : left.Renames taking.parent (ByteText.ofText fresh) taking.entry
      taking.files.nodes.size after) :
    (taking.job staged).Mirrors taking.options.workdir taking.source after
      taking.files.nodes.size number := by
  have hlt : taking.parent < taking.files.nodes.size := hstaged.gains.fills.lt_size
  have hbelow (path : List String) :
      after.descend taking.files.nodes.size path = copied.descend taking.files.nodes.size path ∧
        ∀ twin, copied.descend taking.files.nodes.size path = some twin →
          after.node twin = copied.node twin := by
    have hmem : taking.files.nodes.size ∈ {id | taking.files.nodes.size ≤ id} := Nat.le_refl _
    refine FileSystem.descend_eq_of_closed ?_ ?_ hmem
    · intro id hid name child hchild
      have hnew : id = taking.files.nodes.size ∨ staged.nodes.size ≤ id := by
        rw [hstaged.gains.size]
        exact (Nat.eq_or_lt_of_le hid).imp_left Eq.symm
      exact hstaged.gains.fills.size.trans
        (hfills.lt_of_named hstaged.staging.empty hnew hchild).2
    · intro id hid
      have hne : id ≠ taking.parent := Nat.ne_of_gt (Nat.lt_of_lt_of_le hlt hid)
      rw [hrenames.node id hne,
        hclears.outside id hne (h.isInside_eq_false hstaged hfills hid)]
  exact hmirrors.congr (fun path ↦ (hbelow path).1) fun path ↦ (hbelow path).2

end

section

variable (h : taking.Ready known)
include h

/-- To remove the directory for the copy changes nothing that was there before. -/
theorem Ready.spares_of_removal {names : Set String} {gone : Set NodeId}
    (hspares : taking.files.Spares taking.parent names gone left)
    (hnames : ByteText.ofText fresh ∉ names)
    (hstands : left.Stands taking.here (ByteText.ofText (taking.temp fresh))
      (taking.parent, ByteText.ofText fresh) taking.files.nodes.size)
    (hremoval : left.Removal taking.here (ByteText.ofText (taking.temp fresh)) after) :
    taking.files.Spares taking.parent names gone after := by
  have hinside {id : NodeId} {fuel : Nat} (hid : id < taking.files.nodes.size) :
      left.isInside taking.files.nodes.size fuel id = false := by
    rw [FileSystem.isInside_eq h.sound hspares.frame hid]
    exact h.sound.isInside_eq_false (Nat.le_refl _) hid
  refine hspares.trans ((hremoval.clears hstands).spares (hinside ?_)) ?_ fun id hid hin ↦ ?_
  · exact FileSystem.lt_size_of_isDirectory h.isDirectory_parent
  · rintro name hname rfl
    exact hnames hname
  · exact absurd hin (Bool.eq_false_iff.1 (hinside hid))

variable (hstaged : taking.Staged fresh staged)
include hstaged

/-- Nothing is gone but what is in the snapshot. -/
theorem Ready.unharmed_of_clears (hfills : staged.Fills taking.files.nodes.size copied)
    (hclears : copied.Clears (taking.parent, taking.entry) taking.old left) :
    taking.Unharmed left := by
  refine (h.spares_of_clears hstaged hfills hclears).mono ?_ (Set.Subset.refl _)
  rintro name ⟨hname, hentry⟩ (rfl | heq)
  · exact hname hstaged.free
  · exact hentry heq

/-- Once the directory for the copy has been removed. -/
theorem Ready.stopped {reached : FileSystem} (hstop : taking.Interrupted staged stop reached)
    (hremoval : reached.Removal taking.here (ByteText.ofText (taking.temp fresh)) after) :
    taking.Unharmed after ∧ taking.Stopped stop after := by
  have hfresh : ByteText.ofText fresh ∉ taking.kept := fun hin ↦ hin hstaged.free
  obtain ⟨copied, hfills, rfl | ⟨hfailed, hclears⟩⟩ := hstop
  · have hspares := h.spares_of_removal (hstaged.fills hfills).spares hfresh
      (h.stands_temp hstaged hfills) hremoval
    exact ⟨hspares.mono Set.sdiff_subset (Set.empty_subset _), .inl hspares⟩
  · have hspares := h.spares_of_removal (h.unharmed_of_clears hstaged hfills hclears)
      (fun hin ↦ hfresh hin.1) ((h.stands_temp hstaged hfills).shrinks hclears.toShrinks) hremoval
    exact ⟨hspares, .inr ⟨hfailed, hspares⟩⟩

/-! ### The run -/

omit h hstaged in
theorem alters_leadsSomewhere {path : String} {safe : FileSystem → Prop}
    {stopped : Stop → FileSystem → Prop} (hsafe : safe left) :
    (leadsSomewhere path).Alters (Tree.Step refuses known taking.here) safe session left
      (fun _ after ↦ after = left) stopped := by
  refine .ask_bind fun reply reached hstep ↦ ?_
  obtain ⟨rfl, -⟩ := hstep
  refine ⟨hsafe, ?_⟩
  cases reply with
  | ok kind => exact .pure rfl
  | error error => exact .pure rfl

/-- The copy is moved to the path of the snapshot. -/
theorem Ready.alters_rename (hnew : Tree.IsNew taking.files known fresh)
    (hmade : taking.files.makeDirectory taking.here (ByteText.ofText (taking.temp fresh)) mode =
      .ok staged)
    (hfills : staged.Fills taking.files.nodes.size copied)
    (hmirrors : (taking.job staged).Mirrors taking.options.workdir taking.source copied
      taking.files.nodes.size number)
    (hclears : copied.Clears (taking.parent, taking.entry) taking.old left) :
    (Work.ask (.rename (taking.temp fresh) taking.target) >>= fun reply ↦
        Work.orFail reply (Failure.atPath taking.target)).Alters
      (Tree.Step refuses known taking.here) taking.Unharmed session left
      (fun _ ↦ taking.Replaced known) (taking.Interrupted staged) := by
  refine .askOr fun reply after hstep ↦ ?_
  cases reply with
  | error error =>
    obtain ⟨-, rfl⟩ := hstep
    exact ⟨h.unharmed_of_clears hstaged hfills hclears, copied, hfills,
      .inr ⟨⟨error, rfl⟩, hclears⟩⟩
  | ok done =>
    have hrenames := h.renames hstaged hfills hclears hstep
    have hspares := h.spares_of_renames hstaged hfills hclears hrenames
    refine ⟨hspares.mono (fun name hname ↦ hname.2) (Set.Subset.refl _), hspares,
      hrenames.named_last, fresh, mode, staged, number, hnew, hmade, ?_⟩
    exact h.mirrors_of_renames hstaged hfills hmirrors hclears hrenames

/-- The working directory is copied. -/
theorem Ready.alters_copyTree (job : Copying) (hjob : taking.job staged = job) :
    (copyTree taking.options.workdir (taking.temp fresh) job.exclude job.skip).Alters
      (Tree.Step refuses known job.here) (job.files.Fills job.staging) session job.files
      (fun number after ↦ job.files.Fills job.staging after ∧
        job.Mirrors taking.options.workdir taking.source after job.staging number)
      (job.Stopped refuses taking.options.workdir taking.source maxWalkDepth) := by
  have hgoes : FileSystem.GoesOn taking.here (ByteText.ofText taking.path) (ByteText.ofText fresh)
      (ByteText.ofText (taking.temp fresh)) := FileSystem.goesOn_join hstaged.isEntryName
  have hpath := h.leads_path hstaged (.refl hstaged.staging.isDirectory)
  have htemp : staged.Leads taking.here (ByteText.ofText (taking.temp fresh))
      taking.files.nodes.size := by
    refine hpath.down hgoes hstaged.gains.named fun target ↦ ?_
    rw [hstaged.gains.content_new]
    exact nofun
  subst hjob
  exact Copying.copyTree_mirrors (h.job hstaged) (hstaged.grows.find_eq h.source)
    (hstaged.grows.isDirectory h.isSource) hstaged.notMem htemp

/-- The snapshot is removed, if it is seen, and the copy takes its place. -/
theorem Ready.alters_fillCheckpoint (hoptions : session.options = taking.options)
    (hnew : Tree.IsNew taking.files known fresh)
    (hmade : taking.files.makeDirectory taking.here (ByteText.ofText (taking.temp fresh)) mode =
      .ok staged) :
    (fillCheckpoint taking.block taking.path (taking.temp fresh)).Alters
      (Tree.Step refuses known taking.here) taking.Unharmed session staged
      (fun _ ↦ taking.Replaced known) (taking.Interrupted staged) := by
  have hfilled {copied : FileSystem} (hfills : staged.Fills taking.files.nodes.size copied) :
      taking.Unharmed copied := h.unharmed_of_clears hstaged hfills (.refl copied _ _)
  have hempty : staged.Fills taking.files.nodes.size staged := .refl hstaged.staging.isDirectory
  refine .get ?_
  rw [hoptions]
  refine .askOr_bind (fun reply reached hstep ↦ hstep.1 ▸ hfilled hempty) ?_
    fun reply reached skip hstep hskip ↦ ?_
  · rintro reply reached error ⟨rfl, -⟩ -
    exact ⟨_, hempty, .inl rfl⟩
  subst hskip
  obtain ⟨rfl, hcanonical⟩ := hstep
  obtain rfl : skip = (taking.job reached).skip := by
    cases hplace : reached.canonical taking.here (ByteText.ofText taking.options.assetsRoot) with
    | error code =>
      rw [hplace] at hcanonical
      cases hcanonical
    | ok place =>
      rw [hplace] at hcanonical
      rw [Option.some.inj hcanonical, FileSystem.canonical_of_leads
        (FileSystem.leads_of_find (hstaged.grows.find_eq h.assets))
        (hstaged.grows.isDirectory h.isDirectory_assets) hplace]
      rfl
  have hcopied : (copyTree taking.options.workdir (taking.temp fresh) taking.block.exclude
      (taking.job reached).skip).Alters (Tree.Step refuses known taking.here) taking.Unharmed
        session reached (fun number after ↦ reached.Fills taking.files.nodes.size after ∧
          (taking.job reached).Mirrors taking.options.workdir taking.source after
            taking.files.nodes.size number) (taking.Interrupted reached) :=
    .imp (.safer (h.alters_copyTree hstaged (taking.job reached) rfl) fun _ ↦ hfilled)
      (fun _ _ hcopied ↦ hcopied) fun stop after hstop ↦ ⟨after, hstop.1, .inl rfl⟩
  refine .bind hcopied ?_
  intro number session copied ⟨hfills, hmirrors⟩
  refine .bind (alters_leadsSomewhere (hfilled hfills)) fun stands session after hafter ↦ ?_
  subst hafter
  extract_lets rest
  have hrest {left : FileSystem} (session : Session)
      (hclears : after.Clears (taking.parent, taking.entry) taking.old left) :
      (rest ()).Alters (Tree.Step refuses known taking.here) taking.Unharmed session left
        (fun _ ↦ taking.Replaced known) (taking.Interrupted reached) :=
    h.alters_rename hstaged hnew hmade hfills hmirrors hclears
  have hclears {left : FileSystem}
      (hremoval : after.Removal taking.here (ByteText.ofText taking.target) left) :
      after.Clears (taking.parent, taking.entry) taking.old left :=
    hremoval.clears (h.stands_target hstaged hfills)
  split
  · refine .askOr_bind (fun _ _ hstep ↦ ?_) (fun _ left error hstep _ ↦ ?_)
      fun _ left _ hstep _ ↦ ?_
    · exact h.unharmed_of_clears hstaged hfills (hclears hstep)
    · exact ⟨after, hfills, .inr ⟨⟨error, rfl⟩, hclears hstep⟩⟩
    · exact hrest session (hclears hstep)
  · exact hrest session (.refl after _ _)

end

/-- When a checkpoint is taken again, the snapshot is a copy of the working directory afterwards,
and no other name in the directory of the snapshots has changed. When the checkpoint fails, all that
was there is as it was, unless what has failed is at the path of the snapshot. At every moment, only
the snapshot can be gone. -/
theorem runCheckpoint_replaces (h : taking.Ready known)
    (hoptions : session.options = taking.options) :
    (runCheckpoint taking.block).Alters (Tree.Step refuses known taking.here) taking.Unharmed
      session taking.files (fun _ ↦ taking.Replaced known) taking.Stopped := by
  have hunharmed : taking.Unharmed taking.files := .refl _ _ _ _
  have hstopped (stop : Stop) : taking.Stopped stop taking.files := .inl (.refl _ _ _ _)
  refine Evolving.bind evolving_basename (fun name session' files hname ↦ ?_)
    fun stop _ files hstop ↦ hstop.2.1 ▸ hstopped stop
  obtain ⟨rfl, rfl, hbasename⟩ := hname
  obtain rfl := Option.some.inj
    ((hbasename name rfl).symm.trans ((congrArg Options.basename hoptions).trans h.basename))
  refine Evolving.bind evolving_recordCheckpoint (fun recorded noted files hnoted ↦ ?_)
    fun stop _ files hstop ↦ hstop.2 ▸ hstopped stop
  obtain ⟨hsame, rfl⟩ := hnoted
  extract_lets rest
  have hrest : (rest ()).Alters (Tree.Step refuses known taking.here) taking.Unharmed noted
      taking.files (fun _ ↦ taking.Replaced known) taking.Stopped := by
    refine .get ?_
    rw [hsame, hoptions]
    have hmakes {after : FileSystem}
        (hmakes : taking.files.Makes taking.here (ByteText.ofText taking.path) after) :
        after = taking.files :=
      hmakes.eq_of_leads (FileSystem.leads_of_find h.parent)
    refine .askOr_bind (fun _ _ hstep ↦ hmakes hstep.1 ▸ hunharmed)
      (fun _ _ error hstep _ ↦ hmakes hstep.1 ▸ hstopped _) fun _ after _ hstep _ ↦ ?_
    obtain rfl := hmakes hstep.1
    refine .askOr_bind (fun reply staged hstep ↦ ?_) (fun reply staged error hstep herror ↦ ?_)
      fun reply staged temp hstep htemp ↦ ?_
    · cases reply with
      | error error => exact hstep.2 ▸ hunharmed
      | ok temp =>
        obtain ⟨fresh, mode, hnew, rfl, hmade⟩ := hstep
        have hstaged := h.stages hnew hmade
        exact h.unharmed_of_clears hstaged (.refl hstaged.staging.isDirectory) (.refl staged _ _)
    · subst herror
      exact hstep.2 ▸ hstopped _
    · subst htemp
      obtain ⟨fresh, mode, hnew, rfl, hmade⟩ := hstep
      have hstaged := h.stages hnew hmade
      refine .bind (.onStop_discardTree
        (h.alters_fillCheckpoint hstaged (hsame.trans hoptions) hnew hmade)
        fun stop reached after hstop hstep ↦ h.stopped hstaged hstop hstep) ?_
      exact fun _ _ _ hreplaced ↦ .pure hreplaced
  split
  · exact Evolving.throw (hstopped _)
  · exact hrest

/-- A project with a snapshot of the name that is taken again. -/
def retakenProject : Retaking where
  files := ⟨#[⟨.directory FileSystem.root [("assets", 1), ("project", 5)], 0o755⟩,
    ⟨.directory FileSystem.root [("checkpoints", 2)], 0o755⟩, ⟨.directory 1 [("c", 3)], 0o755⟩,
    ⟨.directory 2 [("x", 4)], 0o755⟩, ⟨.directory 3 [("old.txt", 6)], 0o755⟩,
    ⟨.directory FileSystem.root [("new.txt", 7)], 0o755⟩, ⟨.file (Text.encode "old\n"), 0o644⟩,
    ⟨.file (Text.encode "new\n"), 0o644⟩]⟩
  here := FileSystem.root
  options := ⟨"project", "assets", some "c", "x", "sh", "/", .default⟩
  block := ⟨"x", []⟩
  basename := "c"
  name := "x"
  parent := 3
  old := 4
  source := 5
  assets := 1

theorem ready_retakenProject : retakenProject.Ready ["project"] where
  sound := FileSystem.sound_of_forall rfl (by decide +kernel) (by decide +kernel)
  rooted := FileSystem.rooted_of_forall (by decide +kernel)
  hung := by
    refine ⟨fun spot id hid ↦ ?_, fun spot hroot ↦ ?_⟩
    · exact FileSystem.forall_named (motive := fun spot id ↦
        retakenProject.files.isDirectory id = true → retakenProject.files.parentOf id = spot.1)
        (by decide +kernel) hid
    · exact FileSystem.forall_named (motive := fun _ id ↦ id ≠ FileSystem.root)
        (by decide +kernel) hroot rfl
  spelled := FileSystem.isSpelled_of_forall (by decide +kernel)
  here := rfl
  basename := rfl
  name := by decide +kernel
  parent := by decide +kernel
  old := by decide +kernel
  isDirectory := rfl
  source := by decide +kernel
  isSource := rfl
  known := List.mem_cons_self
  assets := by decide +kernel
  inside := by decide +kernel

theorem runCheckpoint_replaces_retakenProject :
    let session : Session := .new retakenProject.options
    retakenProject.Ready ["project"] ∧ session.options = retakenProject.options ∧
      (runCheckpoint retakenProject.block).Alters
        (Tree.Step (fun _ ↦ False) ["project"] retakenProject.here) retakenProject.Unharmed session
        retakenProject.files (fun _ ↦ retakenProject.Replaced ["project"]) retakenProject.Stopped :=
  ⟨ready_retakenProject, rfl, runCheckpoint_replaces ready_retakenProject rfl⟩

/-- A snapshot whose name is written with a full stop after it is emptied, and then it cannot be
removed: the checkpoint fails, and what was in the snapshot is gone. -/
theorem runDocument_losesSnapshot :
    let workspace : Sandbox.Workspace :=
      ⟨⟨retakenProject.files, [], [], [], 0, 100, 0⟩, FileSystem.root, [], 0, []⟩
    let document : Document := ⟨none, [.code "x:checkpoint name=x/." ""]⟩
    let reached := follow Sandbox.Workspace.host.answer (runDocument document)
      (.new retakenProject.options) workspace
    let stands (workspace : Sandbox.Workspace) (path : String) : Bool :=
      (workspace.files.find FileSystem.root path true).toOption.isSome
    (document.plan retakenProject.options.scope).toOption.isSome = true ∧
      reached.1.1.toOption.isSome = false ∧
      (stands workspace "assets/checkpoints/c/x/old.txt",
        stands reached.2 "assets/checkpoints/c/x",
        stands reached.2 "assets/checkpoints/c/x/old.txt") = (true, true, false) := by
  decide +kernel

end Retaking

end Runbook.Session
