import Runbook.Proofs.Block.Containment
import Runbook.Proofs.Sandbox.Spelling
import Runbook.Proofs.Sandbox.Temporary
import Runbook.Proofs.Session.Assets
import Runbook.Proofs.Session.Disk
import Runbook.Sandbox.Workspace
import Runbook.Session.Run
/-!
# Files are replaced in one step

A block that creates a file, patches one or takes a picture replaces its target in one step
(`runAction_replaces`), whatever fails on the way. At every moment the target is as it was or has
the whole new content (`Intact`). When the block stops, nothing has changed but for directories on
the way to the target (`Unchanged`); when it succeeds, nothing else has changed but the target,
which has the new content and the permission bits that it should have (`Published`).

In between a temporary file stands aside (`Staged`). It is filled, by the block itself or by a
browser, it gets its permission bits and is moved to the target, and it is removed whenever one of
these steps fails. There is one lemma for each part of the work, and each says what the part can
leave on the disk when it succeeds and when it stops.

The bytes of a picture are those that the browser has left in the temporary file when it ends
(`Drawn`). The parameter `leaves` says what these can be: a property of all that browsers leave is
one of what is published.

Two things are not as one would think. The permission bits are those of whatever the path of the
target leads to, also where that is a directory and the link to it is what is replaced
(`createFile_linkedDirectory`). And the path of a picture can lead up from a directory that had been
missing, so it leads somewhere once that directory has been made: this is why `Prepared` asks that
the path of a picture only leads down.
-/

set_option autoImplicit false

namespace Runbook.Session

open Block Machine Sandbox Work

/-! ### What a block does to a file -/

/-- The directory of a block. -/
def Options.directoryOf (options : Options) (cwd : Option String) : String :=
  cwd.elim options.workdir (Path.join options.workdir)

/-- The path of the file that an action replaces. -/
def target? (options : Options) : Action → Option String
  | .createFile block => some (Path.join (options.directoryOf block.cwd) block.path)
  | .patchFile block => some (Path.join (options.directoryOf block.cwd) block.path)
  | .screenshot block => options.basename.map fun name ↦
      Path.join (Path.join (Path.join options.assetsRoot "screenshots") name) block.outputName
  | _ => none

/-- The text of the file that a path leads to, empty if there is none. -/
def textAt (files : FileSystem) (here : NodeId) (path : String) : String :=
  ((files.readFile here (ByteText.ofText path)).toOption.bind Text.decode?).getD ""

section

variable (action : Action) (here : NodeId) (target : String) (files : FileSystem)
  (leaves : Bytes → Prop)

/-- The new content of a file is all that the action makes of the file that is there. A picture is
what a browser leaves at the path that it is handed, if that is a picture. -/
def Writes (bytes : Bytes) : Prop :=
  match action with
  | .createFile block => bytes = Text.encode block.content
  | .patchFile block => ∃ patched, block.patch.apply (textAt files here target) = .ok patched ∧
      bytes = Text.encode patched
  | .screenshot _ => leaves bytes ∧ (Image.size? bytes).isSome = true
  | _ => False

/-- The permission bits of a new file: those of what the path of the target leads to. For a picture,
and where the path leads nowhere, they are the usual ones. -/
def modeFor : Nat :=
  match action with
  | .screenshot _ => defaultMode
  | _ => (files.mode? here (ByteText.ofText target)).getD defaultMode

/-- The files once the directories on the way to a target have been made. -/
structure Prepared (made : FileSystem) : Prop where
  grows : files.GrowsTo made
  /-- The path of the target leads nowhere that it did not lead before. -/
  found : (action.kind = .screenshot → files.LeadsDown here (ByteText.ofText target)) →
    ∀ id, made.find here (ByteText.ofText target) true = .ok id →
      files.find here (ByteText.ofText target) true = .ok id

/-- Nothing has changed, but for directories on the way to the target. -/
def Unchanged (after : FileSystem) : Prop :=
  ∃ made, Prepared action here target files made ∧ made.AgreesOutside ∅ after

/-- Nothing has changed but what stands at the spot of the target: a file with the whole new
content. -/
structure PublishedAt (made : FileSystem) (spot : FileSystem.Spot) (bytes : Bytes)
    (after : FileSystem) : Prop where
  prepared : Prepared action here target files made
  at_spot : made.spot here (ByteText.ofText target) = .ok spot
  writes : Writes action here target files leaves bytes
  standing : after.standing spot = some ⟨.file bytes, modeFor action here target files⟩
  agrees : made.AgreesOutside {spot} after
  /-- Unless a link to a directory stood there, the path of the target still leads to that spot. -/
  stays : ¬made.LinksToDirectory spot → after.spot here (ByteText.ofText target) = .ok spot

/-- The target has been replaced. -/
def Published (after : FileSystem) : Prop :=
  ∃ made spot bytes, PublishedAt action here target files leaves made spot bytes after

/-- At every moment the target is as before or has the whole new content; besides, there can be
files at places that were free and are not that of the target. -/
inductive Intact (after : FileSystem) : Prop where
  | unchanged {made : FileSystem} {temps : Set FileSystem.Spot}
    (prepared : Prepared action here target files made) (agrees : made.AgreesOutside temps after)
    (aside : ∀ spot ∈ temps, made.named spot = none ∧ after.IsSpare spot ∧
      made.spot here (ByteText.ofText target) ≠ .ok spot)
  | published (h : Published action here target files leaves after)

end

variable {action : Action} {here : NodeId} {target temp : String}
  {files made fs : FileSystem} {spot : FileSystem.Spot} {leaves : Bytes → Prop}
  {session : Session} {bytes kept : Bytes} {mode? : Option Nat} {mode : Nat}

theorem prepared_refl (action : Action) (here : NodeId) (target : String) (files : FileSystem) :
    Prepared action here target files files :=
  ⟨.refl files, fun _ _ hid ↦ hid⟩

theorem Prepared.unchanged (h : Prepared action here target files made) :
    Unchanged action here target files made :=
  ⟨made, h, .refl made ∅⟩

theorem unchanged_refl (action : Action) (here : NodeId) (target : String) (files : FileSystem) :
    Unchanged action here target files files :=
  (prepared_refl action here target files).unchanged

theorem Unchanged.intact (h : Unchanged action here target files fs) :
    Intact action here target files leaves fs := by
  obtain ⟨made, hprepared, hagrees⟩ := h
  exact .unchanged hprepared hagrees nofun

/-! ### Temporary files -/

/-- A temporary file stands aside from the target, and nothing else has changed but for directories.
-/
structure Staged (action : Action) (here : NodeId) (target : String) (files made : FileSystem)
    (temp : String) (spot : FileSystem.Spot) (fs : FileSystem) : Prop where
  prepared : Prepared action here target files made
  aside : made.Aside here (ByteText.ofText temp) spot fs
  clear : made.spot here (ByteText.ofText target) ≠ .ok spot

namespace Staged

theorem intact (h : Staged action here target files made temp spot fs) :
    Intact action here target files leaves fs := by
  refine .unchanged h.prepared h.aside.agrees ?_
  rintro other rfl
  exact ⟨h.aside.free, h.aside.spare, h.clear⟩

/-- A temporary file that is removed leaves nothing behind. -/
theorem takes_discard (h : Staged action here target files made temp spot fs) :
    (ask (.discardFile temp)).Takes (Disk.Step here target leaves)
      (fun disk ↦ Intact action here target files leaves disk.files) session fs
      (fun _ ↦ Unchanged action here target files) (Unchanged action here target files) := by
  have hunchanged (reply : Unit) (reached : FileSystem)
      (heffect : Disk.Effect here target fs (.discardFile temp) reply reached) :
      Unchanged action here target files reached := by
    obtain rfl := heffect
    exact ⟨made, h.prepared, h.aside.unlink⟩
  refine Work.Takes.imp (.ask (fun _ ↦ rfl) fun reply reached heffect ↦ ?_) hunchanged fun _ h ↦ h
  exact (hunchanged reply reached heffect).intact

/-- Whatever has been written to a temporary file, it stands aside. -/
theorem writeTemp (h : Staged action here target files made temp spot fs)
    (hstanding : fs.standing spot = some ⟨.file kept, mode⟩) {content : Bytes}
    {reply : Except IoError Unit} {reached : FileSystem}
    (heffect : Disk.Effect here target fs (.writeTemp temp content) reply reached) :
    Staged action here target files made temp spot reached ∧
      (∀ done, reply = .ok done → reached.standing spot = some ⟨.file content, mode⟩) := by
  cases reply with
  | error error =>
    rcases heffect.2 error rfl with rfl | ⟨part, bits, hpart⟩
    · exact ⟨h, nofun⟩
    · exact ⟨⟨h.prepared, (h.aside.writeFile hstanding hpart).1, h.clear⟩, nofun⟩
  | ok done =>
    obtain ⟨bits, hwrite⟩ := heffect.1 rfl
    obtain ⟨haside, hwritten⟩ := h.aside.writeFile hstanding hwrite
    exact ⟨⟨h.prepared, haside, h.clear⟩, fun _ _ ↦ hwritten⟩

/-- Whatever permission bits a temporary file has, it stands aside. -/
theorem setMode (h : Staged action here target files made temp spot fs)
    (hstanding : fs.standing spot = some ⟨.file bytes, mode⟩) {bits : Nat}
    {reply : Except IoError Unit} {reached : FileSystem}
    (heffect : Disk.Effect here target fs (.setMode temp bits) reply reached) :
    Staged action here target files made temp spot reached ∧
      (∀ done, reply = .ok done → reached.standing spot = some ⟨.file bytes, bits⟩) := by
  cases reply with
  | error error => exact ⟨heffect.2 error rfl ▸ h, nofun⟩
  | ok done =>
    obtain ⟨haside, hset⟩ := h.aside.changeMode hstanding (heffect.1 done rfl)
    exact ⟨⟨h.prepared, haside, h.clear⟩, fun _ _ ↦ hset⟩

/-- A temporary file stands aside, or it has been moved to the target. -/
theorem rename (h : Staged action here target files made temp spot fs)
    (hstanding : fs.standing spot = some ⟨.file bytes, modeFor action here target files⟩)
    (hwrites : Writes action here target files leaves bytes) {reply : Except IoError Unit}
    {reached : FileSystem}
    (heffect : Disk.Effect here target fs (.rename temp target) reply reached) :
    (∀ error, reply = .error error → Staged action here target files made temp spot reached) ∧
      (∀ done, reply = .ok done → Published action here target files leaves reached) := by
  refine ⟨fun error herror ↦ heffect.2 error herror ▸ h, fun moved hmoved ↦ ?_⟩
  obtain ⟨place, hplace, hagrees, hmovedstanding, hstays⟩ :=
    h.aside.rename h.clear (heffect.1 moved hmoved)
  exact ⟨made, place, bytes, h.prepared, hplace, hwrites, hmovedstanding.trans hstanding, hagrees,
    hstays⟩

/-- A temporary file with the whole new content is published or removed. -/
theorem takes_publish (h : Staged action here target files made temp spot fs)
    (hstanding : fs.standing spot = some ⟨.file bytes, mode⟩)
    (hwrites : Writes action here target files leaves bytes)
    (hmode : mode?.getD defaultMode = modeFor action here target files) :
    (publish temp target mode?).Takes (Disk.Step here target leaves)
      (fun disk ↦ Intact action here target files leaves disk.files) session fs
      (fun _ ↦ Published action here target files leaves)
      (Unchanged action here target files) := by
  refine .onStop ?_ fun reached
    (hreached : Staged action here target files made temp spot reached) ↦ hreached.takes_discard
  rw [hmode]
  refine .askOr_bind (fun _ ↦ rfl) (fun _ _ heffect ↦ (h.setMode hstanding heffect).1.intact)
    (fun _ _ heffect _ _ ↦ (h.setMode hstanding heffect).1)
    fun reply reached heffect done hdone ↦ ?_
  obtain ⟨hstaged, hset⟩ := h.setMode hstanding heffect
  have hrename {reply : Except IoError Unit} {after : FileSystem}
      (heffect : Disk.Effect here target reached (.rename temp target) reply after) :=
    hstaged.rename (hset done hdone) hwrites heffect
  refine .askOr (fun _ ↦ rfl) (fun reply after heffect ↦ ?_) (fun _ _ heffect ↦ (hrename heffect).1)
    fun _ _ heffect ↦ (hrename heffect).2
  cases reply with
  | error error => exact ((hrename heffect).1 error rfl).intact
  | ok moved => exact .published ((hrename heffect).2 moved rfl)

/-- A temporary file is filled or removed. -/
theorem takes_fill (h : Staged action here target files made temp spot fs)
    (hstanding : fs.standing spot = some ⟨.file kept, mode⟩) (content : Bytes) :
    (fill temp content).Takes (Disk.Step here target leaves)
      (fun disk ↦ Intact action here target files leaves disk.files) session fs
      (fun _ reached ↦ Staged action here target files made temp spot reached ∧
        reached.standing spot = some ⟨.file content, mode⟩)
      (Unchanged action here target files) := by
  refine .onStop ?_ fun reached
    (hreached : Staged action here target files made temp spot reached) ↦ hreached.takes_discard
  refine .askOr_bind (fun _ ↦ rfl) (fun _ _ heffect ↦ (h.writeTemp hstanding heffect).1.intact)
    (fun _ _ heffect _ _ ↦ (h.writeTemp hstanding heffect).1)
    fun reply reached heffect done hdone ↦ ?_
  obtain ⟨hstaged, hwritten⟩ := h.writeTemp hstanding heffect
  -- Handing the bytes over and making sure that they stay changes nothing that can be seen.
  have hflush {reply : Except IoError Unit} {after : FileSystem}
      (heffect : Disk.Effect here target reached (.flush temp) reply after) :
      Staged action here target files made temp spot after ∧
        after.standing spot = some ⟨.file content, mode⟩ := by
    obtain rfl : after = reached := heffect
    exact ⟨hstaged, hwritten done hdone⟩
  refine .askOr_bind (fun _ ↦ rfl) (fun _ _ heffect ↦ (hflush heffect).1.intact)
    (fun _ _ heffect _ _ ↦ (hflush heffect).1) fun _ flushed hflushed _ _ ↦ ?_
  have hsync {reply : Except IoError Unit} {after : FileSystem}
      (heffect : Disk.Effect here target flushed (.sync temp) reply after) :
      Staged action here target files made temp spot after ∧
        after.standing spot = some ⟨.file content, mode⟩ := by
    obtain rfl : after = flushed := heffect
    exact hflush hflushed
  exact .askOr (fun _ ↦ rfl) (fun _ _ heffect ↦ (hsync heffect).1.intact)
    (fun _ _ heffect _ _ ↦ (hsync heffect).1) fun _ _ heffect _ _ ↦ hsync heffect

end Staged

/-- A new temporary file is one that stands aside. -/
theorem staged_of_makesTemp (hprepared : Prepared action here target files made)
    (hsound : made.Sound) (h : Disk.MakesTemp here target made temp fs) :
    ∃ spot mode, Staged action here target files made temp spot fs ∧
      fs.standing spot = some ⟨.file [], mode⟩ := by
  obtain ⟨spot, mode, hspot, hname, hslash, hfree, hclear, rfl⟩ := h
  obtain ⟨haside, hstanding⟩ := FileSystem.aside_addNamed hsound hspot hname hslash hfree
  exact ⟨spot, mode, ⟨hprepared, haside, hclear⟩, hstanding⟩

/-- The outcomes of making a temporary file. -/
theorem makesTemp_or (hprepared : Prepared action here target files made) (hsound : made.Sound)
    {directory ending : String} {reply : Except IoError String}
    (heffect : Disk.Effect here target made (.makeTempFile directory ending) reply fs) :
    (∀ error, reply = .error error → Unchanged action here target files fs) ∧
      (∀ temp, reply = .ok temp → ∃ spot mode, Staged action here target files made temp spot fs ∧
        fs.standing spot = some ⟨.file [], mode⟩) := by
  refine ⟨fun error herror ↦ ?_, fun temp htemp ↦ ?_⟩
  · rw [heffect.2 error herror]
    exact hprepared.unchanged
  · exact staged_of_makesTemp hprepared hsound (heffect.1 temp htemp)

theorem intact_of_makesTemp (hprepared : Prepared action here target files made)
    (hsound : made.Sound) {directory ending : String} {reply : Except IoError String}
    (heffect : Disk.Effect here target made (.makeTempFile directory ending) reply fs) :
    Intact action here target files leaves fs := by
  obtain ⟨hfailed, hmade⟩ := makesTemp_or hprepared hsound heffect
  cases reply with
  | error error => exact (hfailed error rfl).intact
  | ok temp =>
    obtain ⟨spot, mode, hstaged, -⟩ := hmade temp rfl
    exact hstaged.intact

/-- A file is replaced by one that is written beside it, or nothing has changed. -/
theorem takes_writeAtomic (hprepared : Prepared action here target files made)
    (hsound : made.Sound) (hwrites : Writes action here target files leaves bytes)
    (hmode : mode?.getD defaultMode = modeFor action here target files) :
    (writeAtomic target bytes mode?).Takes (Disk.Step here target leaves)
      (fun disk ↦ Intact action here target files leaves disk.files) session made
      (fun _ ↦ Published action here target files leaves)
      (Unchanged action here target files) := by
  refine .askOr_bind (fun _ ↦ rfl) (fun _ _ heffect ↦ intact_of_makesTemp hprepared hsound heffect)
    (fun _ _ heffect ↦ (makesTemp_or hprepared hsound heffect).1) fun _ _ heffect temp htemp ↦ ?_
  obtain ⟨spot, mode, hstaged, hstanding⟩ :=
    (makesTemp_or hprepared hsound heffect).2 temp htemp
  refine .bind (hstaged.takes_fill hstanding bytes) fun _ filled ⟨hfilled, hcontent⟩ ↦ ?_
  exact hfilled.takes_publish hcontent hwrites hmode

/-! ### Directories -/

theorem prepared_of_makes {path : String} {rest : List String} (hsound : files.Sound)
    (hdown : (action.kind = .screenshot → files.LeadsDown here (ByteText.ofText target)) →
      files.LeadsDown here (ByteText.ofText target))
    (hstart : FileSystem.start here (ByteText.ofText target) =
      FileSystem.start here (ByteText.ofText path))
    (hpieces : FileSystem.pieces (ByteText.ofText target) =
      FileSystem.pieces (ByteText.ofText path) ++ rest)
    (hlast : FileSystem.pieces (ByteText.ofText path) ≠ [] → ∃ name ∈ rest, name ≠ ".")
    (h : files.Makes here (ByteText.ofText path) made) :
    Prepared action here target files made ∧ made.Sound := by
  obtain ⟨hmade, hgrows⟩ := h.growsTo hsound
  exact ⟨⟨hgrows, fun hcondition id ↦
    h.find_eq hsound (hdown hcondition) hstart hpieces hlast⟩, hmade⟩

/-- From a directory that is there, a path that stays inside leads down. -/
theorem leadsDown_join {directory path : String} {id : NodeId} (hpath : StaysInside path)
    (hfind : files.find here (ByteText.ofText directory) true = .ok id) :
    files.LeadsDown here (ByteText.ofText (Path.join directory path)) := by
  obtain ⟨-, hreaches, -⟩ :=
    FileSystem.locate_eq_ok_node_iff.1 (FileSystem.find_eq_ok_iff.1 hfind)
  refine ⟨_, _, id, FileSystem.pieces_join hpath.relative, FileSystem.notMem_pieces hpath.down, ?_⟩
  rw [FileSystem.start_join hpath.relative]
  exact FileSystem.walk_of_reaches hreaches

theorem takes_makeParent (hsound : files.Sound)
    (hdown : files.LeadsDown here (ByteText.ofText target)) :
    (makeParent target).Takes (Disk.Step here target leaves)
      (fun disk ↦ Intact action here target files leaves disk.files) session files
      (fun _ made ↦ Prepared action here target files made ∧ made.Sound)
      (Unchanged action here target files) := by
  unfold makeParent
  cases hparent : Path.parent? target with
  | none => exact .pure ⟨prepared_refl action here target files, hsound⟩
  | some parent =>
    obtain ⟨rest, hpieces, hlast⟩ := FileSystem.pieces_parent hparent
    have hmakes {made : FileSystem} (h : files.Makes here (ByteText.ofText parent) made) :
        Prepared action here target files made ∧ made.Sound :=
      prepared_of_makes hsound (fun _ ↦ hdown) (FileSystem.start_parent hparent) hpieces hlast h
    exact .askOr (fun _ ↦ rfl) (fun _ _ heffect ↦ (hmakes heffect).1.unchanged.intact)
      (fun _ _ heffect _ _ ↦ (hmakes heffect).1.unchanged) fun _ _ heffect _ _ ↦ hmakes heffect

/-- The directory of a block is there. -/
theorem takes_blockDirectory (cwd : Option String) :
    (blockDirectory cwd).Takes (Disk.Step here target leaves)
      (fun disk ↦ Intact action here target files leaves disk.files) session files
      (fun directory reached ↦ reached = files ∧ directory = session.options.directoryOf cwd ∧
        ∃ id, files.find here (ByteText.ofText directory) true = .ok id)
      (fun reached ↦ reached = files) := by
  have hintact : Intact action here target files leaves files :=
    (unchanged_refl action here target files).intact
  have hleads (directory : String) :
      (do if ← leadsTo directory .directory then return directory
          else fail (.unmet (.noDirectory directory)) : Work String).Takes
        (Disk.Step here target leaves)
        (fun disk ↦ Intact action here target files leaves disk.files) session files
        (fun found reached ↦ reached = files ∧ found = directory ∧
          ∃ id, files.find here (ByteText.ofText found) true = .ok id)
        (fun reached ↦ reached = files) := by
    have hfound : (leadsTo directory .directory).Takes (Disk.Step here target leaves)
        (fun disk ↦ Intact action here target files leaves disk.files) session files
        (fun found reached ↦ reached = files ∧
          (found = true → ∃ id, files.find here (ByteText.ofText directory) true = .ok id))
        (fun reached ↦ reached = files) := by
      refine .bind (.ask (fun _ ↦ rfl) fun reply reached heffect ↦ heffect.1 ▸ hintact)
        fun reply reached heffect ↦ ?_
      cases reply with
      | error error => exact .pure ⟨heffect.1, nofun⟩
      | ok kind =>
        obtain ⟨id, hid, -⟩ := heffect.2 kind rfl
        exact .pure ⟨heffect.1, fun _ ↦ ⟨id, hid⟩⟩
    refine .bind hfound fun found reached ⟨hreached, hid⟩ ↦ ?_
    split
    · exact .pure ⟨hreached, rfl, hid ‹_›⟩
    · exact .fail hreached
  refine .get ?_
  cases cwd with
  | none => exact hleads _
  | some cwd => exact hleads _

theorem takes_modeOf (hintact : Intact action here target files leaves fs) :
    (modeOf target).Takes (Disk.Step here target leaves)
      (fun disk ↦ Intact action here target files leaves disk.files) session fs
      (fun mode reached ↦ reached = fs ∧ mode = fs.mode? here (ByteText.ofText target))
      (Unchanged action here target files) := by
  refine .bind (.ask (fun _ ↦ rfl) fun reply reached heffect ↦ heffect.1 ▸ hintact)
    fun reply reached heffect ↦ ?_
  cases reply with
  | error error => exact .pure heffect
  | ok mode => exact .pure heffect

/-- The permission bits of the target are the same once the directories on the way to it have been
made. -/
theorem Prepared.mode?_eq (h : Prepared action here target files made) (hsound : files.Sound)
    (hhere : files.isDirectory here = true)
    (hdown : files.LeadsDown here (ByteText.ofText target)) :
    made.mode? here (ByteText.ofText target) = files.mode? here (ByteText.ofText target) := by
  cases hfind : files.find here (ByteText.ofText target) true with
  | ok id => exact h.grows.mode?_eq hsound hhere hfind
  | error code =>
    have hnone {fs : FileSystem} (hfs : ∀ id, fs.find here (ByteText.ofText target) true ≠ .ok id) :
        fs.mode? here (ByteText.ofText target) = none := by
      unfold FileSystem.mode?
      cases hid : fs.find here (ByteText.ofText target) true with
      | ok id => exact absurd hid (hfs id)
      | error code => rfl
    have hmade : made.mode? here (ByteText.ofText target) = none :=
      hnone fun id hid ↦ nomatch hfind.symm.trans (h.found (fun _ ↦ hdown) id hid)
    rw [hmade, hnone fun id hid ↦ nomatch hfind.symm.trans hid]

/-! ### Blocks that write files -/

theorem takes_runCreateFile {block : CreateFile} (hblock : StaysInside block.path)
    (htarget : target = Path.join (session.options.directoryOf block.cwd) block.path)
    (hsound : files.Sound) (hhere : files.isDirectory here = true) :
    (runCreateFile block).Takes (Disk.Step here target leaves)
      (fun disk ↦ Intact (.createFile block) here target files leaves disk.files) session files
      (fun _ ↦ Published (.createFile block) here target files leaves)
      (Unchanged (.createFile block) here target files) := by
  have hunchanged : Unchanged (.createFile block) here target files files :=
    unchanged_refl _ here target files
  refine .bind ((takes_blockDirectory block.cwd).imp (fun _ _ h ↦ h) fun _ h ↦ h ▸ hunchanged)
    fun directory reached ⟨hreached, hdirectory, id, hid⟩ ↦ ?_
  subst hreached
  obtain rfl : Path.join directory block.path = target := by rw [hdirectory, htarget]
  have hdown := leadsDown_join hblock hid
  refine .bind (takes_makeParent hsound hdown) fun _ made ⟨hprepared, hmade⟩ ↦ ?_
  have hintact :
      Intact (.createFile block) here (Path.join directory block.path) reached leaves made :=
    hprepared.unchanged.intact
  refine .bind (takes_modeOf hintact) fun mode left ⟨hleft, hmode⟩ ↦ ?_
  subst hleft
  have hmodeFor : mode.getD defaultMode =
      modeFor (.createFile block) here (Path.join directory block.path) reached := by
    rw [hmode, hprepared.mode?_eq hsound hhere hdown]
    rfl
  refine .bind (takes_writeAtomic hprepared hmade rfl hmodeFor) fun _ after hafter ↦ ?_
  exact .pure hafter

theorem textAt_eq {text : String}
    (h : files.readFile here (ByteText.ofText target) = .ok bytes)
    (htext : Text.decode? bytes = some text) : textAt files here target = text := by
  rw [textAt, h]
  change (Text.decode? bytes).getD "" = text
  rw [htext, Option.getD_some]

theorem textAt_eq_empty
    (h : ∀ id, files.find here (ByteText.ofText target) true ≠ .ok id) :
    textAt files here target = "" ∧ files.mode? here (ByteText.ofText target) = none := by
  unfold textAt FileSystem.readFile FileSystem.mode?
  cases hid : files.find here (ByteText.ofText target) true with
  | ok id => exact absurd hid (h id)
  | error code => exact ⟨rfl, rfl⟩

/-- What is read of a file to patch is its text and its permission bits. -/
theorem takes_readTarget {block : PatchFile} (hsound : files.Sound)
    (hdown : files.LeadsDown here (ByteText.ofText target)) :
    (readTarget block target).Takes (Disk.Step here target leaves)
      (fun disk ↦ Intact action here target files leaves disk.files) session files
      (fun found made ↦ Prepared action here target files made ∧ made.Sound ∧
        found.1 = textAt files here target ∧
        found.2.getD defaultMode = (files.mode? here (ByteText.ofText target)).getD defaultMode)
      (Unchanged action here target files) := by
  have hunchanged : Unchanged action here target files files :=
    unchanged_refl action here target files
  refine .bind (.ask (fun _ ↦ rfl) fun reply reached heffect ↦ heffect.1 ▸ hunchanged.intact)
    fun reply reached heffect ↦ ?_
  obtain ⟨rfl, htext, hnone⟩ := heffect
  cases reply with
  | ok text =>
    obtain ⟨bytes, hread, hdecode⟩ := htext text rfl
    refine .bind (takes_modeOf hunchanged.intact) fun mode left ⟨hleft, hmode⟩ ↦ ?_
    subst hleft
    exact .pure ⟨prepared_refl action here target left, hsound, (textAt_eq hread hdecode).symm,
      by rw [hmode]⟩
  | error error =>
    simp only
    split
    · exact .fail hunchanged
    · rename_i hmissing
      obtain ⟨hempty, hmode⟩ := textAt_eq_empty (hnone (congrArg Except.error (not_not.1 hmissing)))
      split
      · refine .bind (takes_makeParent hsound hdown) fun _ made ⟨hprepared, hmade⟩ ↦ ?_
        exact .pure ⟨hprepared, hmade, hempty.symm, by rw [hmode]⟩
      · exact .fail hunchanged

theorem takes_runPatchFile {block : PatchFile} (hblock : StaysInside block.path)
    (htarget : target = Path.join (session.options.directoryOf block.cwd) block.path)
    (hsound : files.Sound) :
    (runPatchFile block).Takes (Disk.Step here target leaves)
      (fun disk ↦ Intact (.patchFile block) here target files leaves disk.files) session files
      (fun _ ↦ Published (.patchFile block) here target files leaves)
      (Unchanged (.patchFile block) here target files) := by
  have hunchanged : Unchanged (.patchFile block) here target files files :=
    unchanged_refl _ here target files
  refine .bind ((takes_blockDirectory block.cwd).imp (fun _ _ h ↦ h) fun _ h ↦ h ▸ hunchanged)
    fun directory reached ⟨hreached, hdirectory, id, hid⟩ ↦ ?_
  subst hreached
  obtain rfl : Path.join directory block.path = target := by rw [hdirectory, htarget]
  refine .bind (takes_readTarget hsound (leadsDown_join hblock hid))
    fun found made ⟨hprepared, hmade, htext, hmode⟩ ↦ ?_
  obtain ⟨content, mode⟩ := found
  simp only at htext hmode ⊢
  split
  · exact .fail hprepared.unchanged
  · rename_i patched hpatched
    refine .bind (takes_writeAtomic hprepared hmade ⟨patched, htext ▸ hpatched, rfl⟩ hmode)
      fun _ after hafter ↦ ?_
    exact .pure hafter

/-! ### Pictures -/

/-- A program that has been handed the path of a temporary file writes to that file only. -/
theorem staged_of_step {disk reached : Disk} {request : Request} {reply : request.Reply}
    (h : Staged action here target files made temp spot disk.files)
    (hwriters : ∀ writer ∈ disk.writers, writer.2 = temp)
    (hstep : Disk.Step here target leaves disk request reply reached)
    (hquiet : ∀ between, Disk.Effect here target between request reply reached.files →
      reached.files = between) :
    Staged action here target files made temp spot reached.files ∧
      reached.writers = Disk.writersAfter disk.writers request reply := by
  obtain ⟨between, hscribbled, heffect, hafter, -⟩ := hstep
  rw [hquiet between heffect]
  refine ⟨?_, hafter⟩
  rcases hscribbled with rfl | ⟨writer, hwriter, place, hplace, hagrees, hspare⟩
  · exact h
  · rw [hwriters writer hwriter, h.aside.spot_eq_iff, h.aside.at_spot] at hplace
    obtain rfl : spot = place := Except.ok.inj hplace
    exact ⟨h.prepared, h.aside.change hagrees hspare, h.clear⟩

section Browser

variable {disk : Disk} {process : ProcessId}

/-- A temporary file has been left by a browser that has ended. -/
structure Drawn (action : Action) (here : NodeId) (target : String) (files made : FileSystem)
    (temp : String) (spot : FileSystem.Spot) (leaves : Bytes → Prop) (fs : FileSystem) : Prop
    extends Staged action here target files made temp spot fs where
  left : ∀ bytes, fs.readFile here (ByteText.ofText temp) = .ok bytes → leaves bytes

/-- A browser is at work that has been handed the path of a temporary file. -/
structure AtWork (action : Action) (here : NodeId) (target : String) (files made : FileSystem)
    (temp : String) (spot : FileSystem.Spot) (process : ProcessId) (disk : Disk) : Prop where
  staged : Staged action here target files made temp spot disk.files
  writers : disk.writers = [(process, temp)]

theorem AtWork.step (h : AtWork action here target files made temp spot process disk)
    {reached : Disk} {request : Request} {reply : request.Reply}
    (hstep : Disk.Step here target leaves disk request reply reached)
    (hquiet : ∀ between, Disk.Effect here target between request reply reached.files →
      reached.files = between) :
    Staged action here target files made temp spot reached.files ∧
      reached.writers = Disk.writersAfter [(process, temp)] request reply := by
  rw [← h.writers]
  refine staged_of_step h.staged (fun writer hwriter ↦ ?_) hstep hquiet
  rw [h.writers, List.mem_singleton] at hwriter
  rw [hwriter]

/-- A browser that is let go writes no more. -/
theorem AtWork.evolving_release {α : Type}
    (h : AtWork action here target files made temp spot process disk) (session : Session)
    (stop : Stop) (succeeded : α → FileSystem → Prop) :
    Evolving (Disk.Step here target leaves)
      (fun disk ↦ Intact action here target files leaves disk.files)
      (ask (.release process) >>= fun _ ↦ throw stop : Work α) session disk
      fun result reached disk ↦ reached = session ∧ disk.writers = [] ∧
        (∀ value, result = .ok value → succeeded value disk.files) ∧
        (∀ stop, result = .error stop →
          Staged action here target files made temp spot disk.files) := by
  refine Evolving.ask fun reply released hstep ↦ ?_
  obtain ⟨hstaged, hwriters⟩ := h.step hstep fun _ heffect ↦ heffect
  refine ⟨hstaged.intact, rfl, ?_, nofun, fun _ _ ↦ hstaged⟩
  rw [hwriters]
  exact List.filter_eq_nil_iff.2 (by simp)

theorem AtWork.evolving_deadline?
    (h : AtWork action here target files made temp spot process disk)
    (limit : Option Number.Duration) :
    Evolving (Disk.Step here target leaves)
      (fun disk ↦ Intact action here target files leaves disk.files)
      (deadline? limit) session disk fun result reached disk ↦ (∃ deadline, result = .ok deadline) ∧
        reached = session ∧ AtWork action here target files made temp spot process disk := by
  cases limit with
  | none => exact ⟨⟨none, rfl⟩, rfl, h⟩
  | some limit =>
    refine Evolving.ask fun now reached hstep ↦ ?_
    obtain ⟨hstaged, hwriters⟩ := h.step hstep fun _ heffect ↦ heffect
    exact ⟨hstaged.intact, ⟨_, rfl⟩, rfl, hstaged, hwriters⟩

/-- A browser that has been handed the path of a temporary file is run to its end or let go. -/
theorem takes_runToEnd (h : Staged action here target files made temp spot fs)
    {invocation : Invocation}
    (henvironment : invocation.environment = [(Screenshot.pathVariable, temp)]) (label : String)
    (input : Bytes) (limit : Option Number.Duration) :
    (runToEnd invocation label input limit).Takes (Disk.Step here target leaves)
      (fun disk ↦ Intact action here target files leaves disk.files) session fs
      (fun _ ↦ Drawn action here target files made temp spot leaves)
      (Staged action here target files made temp spot) := by
  refine Evolving.ask fun reply disk hstep ↦ ?_
  obtain ⟨hstaged, hwriters⟩ :=
    staged_of_step h (List.forall_mem_nil _) hstep fun _ heffect ↦ heffect
  refine ⟨hstaged.intact, ?_⟩
  cases reply with
  | error error => exact ⟨rfl, hwriters, nofun, fun _ _ ↦ hstaged⟩
  | ok process =>
    have hwork : AtWork action here target files made temp spot process disk := by
      refine ⟨hstaged, hwriters.trans ?_⟩
      rw [Disk.writersAfter, henvironment]
      simp
    rw [orFail, pure_bind]
    refine (hwork.evolving_deadline? limit).bind
      (fun deadline reached disk ⟨_, hreached, hwork⟩ ↦ ?_)
      fun stop reached disk ⟨⟨_, hok⟩, _⟩ ↦ nomatch hok
    subst hreached
    refine Evolving.ask fun reply disk hstep ↦ ?_
    obtain ⟨hstaged, hwriters⟩ := hwork.step hstep fun _ heffect ↦ heffect
    refine ⟨hstaged.intact, ?_⟩
    have hrunning (hwriters : disk.writers = [(process, temp)]) :
        AtWork action here target files made temp spot process disk := ⟨hstaged, hwriters⟩
    obtain (⟨status, output, errors, inputError⟩ | _ | error) | _ := reply
    · have hnone : disk.writers = [] := hwriters.trans (List.filter_eq_nil_iff.2 (by simp))
      have hdrawn : Drawn action here target files made temp spot leaves disk.files :=
        ⟨hstaged, hstep.left temp (hwork.writers ▸ List.mem_singleton_self _)⟩
      cases inputError with
      | none => exact ⟨rfl, hnone, fun _ _ ↦ hdrawn, nofun⟩
      | some error =>
        dsimp only
        split
        · exact ⟨rfl, hnone, nofun, fun _ _ ↦ hstaged⟩
        · exact ⟨rfl, hnone, fun _ _ ↦ hdrawn, nofun⟩
    · exact (hrunning hwriters).evolving_release reached _ _
    · exact (hrunning hwriters).evolving_release reached _ _
    · exact (hrunning hwriters).evolving_release reached _ _

/-- The picture that a browser has left is in the temporary file, or the file is still there. -/
theorem takes_capture (h : Staged action here target files made temp spot fs) (block : Picture) :
    (capture block temp).Takes (Disk.Step here target leaves)
      (fun disk ↦ Intact action here target files leaves disk.files) session fs
      (fun _ reached ↦ Staged action here target files made temp spot reached ∧ ∃ bytes mode,
        reached.standing spot = some ⟨.file bytes, mode⟩ ∧
          leaves bytes ∧ (Image.size? bytes).isSome = true)
      (Staged action here target files made temp spot) := by
  refine .get (.bind (takes_runToEnd h rfl _ _ _) fun finished reached hreached ↦ ?_)
  have hrequire : (requireSuccess ("screenshot " ++ block.outputName) finished).Takes
      (Disk.Step here target leaves)
      (fun disk ↦ Intact action here target files leaves disk.files) session reached
      (fun _ ↦ Drawn action here target files made temp spot leaves)
      (Staged action here target files made temp spot) := by
    unfold requireSuccess
    split
    · exact .pure hreached
    · exact .fail hreached.toStaged
  refine .bind hrequire fun _ fs hfs ↦ ?_
  have hread {reply : Except IoError Bytes} {after : FileSystem}
      (heffect : Disk.Effect here target fs (.readBytes temp) reply after) :
      Staged action here target files made temp spot after ∧ ∀ bytes, reply = .ok bytes →
        leaves bytes ∧ ∃ mode, after.standing spot = some ⟨.file bytes, mode⟩ := by
    obtain ⟨rfl, hbytes⟩ := heffect
    exact ⟨hfs.toStaged, fun bytes hreply ↦ ⟨hfs.left bytes (hbytes bytes hreply),
      hfs.aside.readFile (hbytes bytes hreply)⟩⟩
  refine .askOr_bind (fun _ ↦ rfl) (fun _ _ heffect ↦ (hread heffect).1.intact)
    (fun _ _ heffect _ _ ↦ (hread heffect).1) fun _ after heffect bytes hbytes ↦ ?_
  obtain ⟨hafter, hstands⟩ := hread heffect
  obtain ⟨hleft, mode, hstanding⟩ := hstands bytes hbytes
  cases hsize : Image.size? bytes with
  | some size => exact .pure ⟨hafter, bytes, mode, hstanding, hleft, by rw [hsize]; rfl⟩
  | none => exact .fail hafter

end Browser

theorem takes_runScreenshot {block : Picture} {name : String}
    (hblock : Path.IsPlain block.outputName) (hname : session.options.basename = some name)
    (htarget : target = Path.join (Path.join (Path.join session.options.assetsRoot "screenshots")
      name) block.outputName) (hsound : files.Sound) :
    (runScreenshot block).Takes (Disk.Step here target leaves)
      (fun disk ↦ Intact (.screenshot block) here target files leaves disk.files) session files
      (fun _ ↦ Published (.screenshot block) here target files leaves)
      (Unchanged (.screenshot block) here target files) := by
  have hunchanged : Unchanged (.screenshot block) here target files files :=
    unchanged_refl _ here target files
  have hbasename : (basename : Work String).Takes (Disk.Step here target leaves)
      (fun disk ↦ Intact (.screenshot block) here target files leaves disk.files) session files
      (fun found reached ↦ found = name ∧ reached = files)
      (Unchanged (.screenshot block) here target files) := by
    refine .get ?_
    rw [hname]
    dsimp only
    split
    · exact .fail hunchanged
    · exact .pure ⟨rfl, rfl⟩
  refine .bind hbasename fun found reached ⟨hfound, hreached⟩ ↦ .get ?_
  subst hfound hreached
  have hrelative : Path.isAbsolute block.outputName = false := by
    obtain ⟨entry, hentry⟩ := hblock
    exact isAbsolute_eq_false (by rw [hentry]; simp)
  have hmakes {reply : Except IoError Unit} {made : FileSystem}
      (h : Disk.Effect here target reached (.makeDirectories
        (Path.join (Path.join session.options.assetsRoot "screenshots") found)) reply made) :
      Prepared (.screenshot block) here target reached made ∧ made.Sound := by
    subst htarget
    obtain ⟨entry, hentry⟩ := hblock
    refine prepared_of_makes hsound (fun hdown ↦ hdown rfl) (FileSystem.start_join hrelative)
      (FileSystem.pieces_join hrelative) (fun _ ↦ ?_) h
    exact FileSystem.exists_mem_pieces (hentry ▸ List.mem_cons_self)
  refine .askOr_bind (fun _ ↦ rfl) (fun _ _ heffect ↦ (hmakes heffect).1.unchanged.intact)
    (fun _ _ heffect _ _ ↦ (hmakes heffect).1.unchanged) fun _ made heffect _ _ ↦ ?_
  obtain ⟨hprepared, hmade⟩ := hmakes heffect
  refine .askOr_bind (fun _ ↦ rfl) (fun _ _ heffect ↦ intact_of_makesTemp hprepared hmade heffect)
    (fun _ _ heffect ↦ (makesTemp_or hprepared hmade heffect).1) fun _ _ heffect temp htemp ↦ ?_
  obtain ⟨spot, mode, hstaged, -⟩ := (makesTemp_or hprepared hmade heffect).2 temp htemp
  refine .bind (.onStop (takes_capture hstaged block) fun _ hstopped ↦ hstopped.takes_discard)
    fun size captured ⟨hcaptured, bytes, bits, hstanding, hpicture⟩ ↦ ?_
  rw [← htarget]
  refine .bind (hcaptured.takes_publish hstanding hpicture rfl) fun _ published hpublished ↦ ?_
  exact .pure hpublished

/-! ### Actions -/

/-- A block that writes a file or takes a picture replaces its target in one step. -/
theorem runAction_replaces {kind : Kind} {arguments body : String} {action : Action}
    (haction : Action.parse kind arguments body = .ok action)
    (htarget : target? session.options action = some target) (hsound : files.Sound)
    (hhere : files.isDirectory here = true) :
    (runAction action).Takes (Disk.Step here target leaves)
      (fun disk ↦ Intact action here target files leaves disk.files) session files
      (fun _ ↦ Published action here target files leaves)
      (Unchanged action here target files) := by
  unfold Action.parse at haction
  split at haction <;> obtain ⟨block, hblock, rfl⟩ := exists_of_map_ok haction
  · cases htarget
  · exact takes_runPatchFile (PatchFile.staysInside hblock) (Option.some.inj htarget).symm hsound
  · exact takes_runCreateFile (CreateFile.staysInside hblock) (Option.some.inj htarget).symm hsound
      hhere
  · cases htarget
  · cases htarget
  · obtain ⟨name, hname, hpath⟩ := Option.map_eq_some_iff.1 htarget
    exact takes_runScreenshot (Picture.isPlain_outputName hblock) hname hpath.symm hsound
  · cases htarget

/-- A directory with a file that only its owner may read. -/
def privateFile : FileSystem :=
  ⟨#[⟨.directory FileSystem.root [("a.txt", 1)], 0o755⟩, ⟨.file (Text.encode "old\n"), 0o600⟩]⟩

theorem sound_privateFile : privateFile.Sound := by
  refine ⟨rfl, fun id parent mode hframe ↦ ?_, fun spot id hid ↦ ?_⟩
  · match id with
    | 0 =>
      cases hframe
      rfl
    | 1 => cases hframe
    | _ + 2 => cases hframe
  · obtain ⟨directory, name⟩ := spot
    match directory with
    | 0 =>
      change List.lookup name [("a.txt", 1)] = some id at hid
      rw [FileSystem.lookup_cons_name] at hid
      split at hid <;> cases hid
      decide
    | 1 => cases hid
    | _ + 2 => cases hid

/-- The file that only its owner may read is replaced by one that only its owner may read. -/
theorem runAction_replaces_privateFile :
    let session : Session := .new ⟨".", "assets", none, "x", "sh", "/", .default⟩
    ∃ action, Action.parse .createFile "path=a.txt" "new\n" = .ok action ∧
      target? session.options action = some "./a.txt" ∧ privateFile.Sound ∧
      privateFile.isDirectory FileSystem.root = true ∧
      modeFor action FileSystem.root "./a.txt" privateFile = 0o600 ∧
      (runAction action).Takes (Disk.Step FileSystem.root "./a.txt" fun _ ↦ True)
        (fun disk ↦ Intact action FileSystem.root "./a.txt" privateFile (fun _ ↦ True) disk.files)
        session privateFile
        (fun _ ↦ Published action FileSystem.root "./a.txt" privateFile fun _ ↦ True)
        (Unchanged action FileSystem.root "./a.txt" privateFile) := by
  intro session
  have hevaluated : (Action.parse .createFile "path=a.txt" "new\n").toOption.map (fun action ↦
      (target? session.options action, modeFor action FileSystem.root "./a.txt" privateFile)) =
      some (some "./a.txt", 0o600) := by decide +kernel
  cases haction : Action.parse .createFile "path=a.txt" "new\n" with
  | error refusal =>
    rw [haction] at hevaluated
    cases hevaluated
  | ok action =>
    rw [haction] at hevaluated
    simp only [Except.toOption, Option.map_some, Option.some.injEq, Prod.mk.injEq] at hevaluated
    obtain ⟨htarget, hmode⟩ := hevaluated
    exact ⟨action, rfl, htarget, sound_privateFile, rfl, hmode,
      runAction_replaces haction htarget sound_privateFile rfl⟩

/-- A directory with a link to another directory. -/
def linkedDirectory : FileSystem :=
  ⟨#[⟨.directory FileSystem.root [("d", 1), ("link", 2)], 0o755⟩,
    ⟨.directory FileSystem.root [], 0o711⟩, ⟨.link "d", 0o777⟩]⟩

/-- A file that is created in place of a link to a directory has the permission bits of the
directory, not those of a new file. -/
theorem createFile_linkedDirectory :
    let session : Session := .new ⟨".", "assets", none, "x", "sh", "/", .default⟩
    let workspace : Workspace :=
      ⟨⟨linkedDirectory, [], [], [], 0, 100, 0⟩, FileSystem.root, [], 0, []⟩
    let ran := (Action.parse .createFile "path=link" "hello\n").toOption.map fun action ↦
      (after (runAction action) session).on Workspace.host workspace
    linkedDirectory.standing (FileSystem.root, "link") = some ⟨.link "d", 0o777⟩ ∧
      ran.map (fun out ↦ out.1.1.toOption.isSome) = some true ∧
      ran.map (fun out ↦ out.2.files.standing (FileSystem.root, "link")) =
        some (some ⟨.file (Text.encode "hello\n"), 0o711⟩) ∧
      0o711 ≠ defaultMode := by
  decide +kernel

end Runbook.Session
