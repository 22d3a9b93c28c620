import Runbook.Proofs.Machine.Evolution
import Runbook.Proofs.Patch.Application
import Runbook.Proofs.Session.Assets
import Runbook.Proofs.Session.Yields
import Runbook.Proofs.Session.Handlers
import Runbook.Sandbox.Workspace
/-!
# Patches that cannot be applied

A patch that meets the wrong state of the files stops before it has changed any: its directory is
missing, or its file is, or one of its hunks does not match, however many hunks before it did. Then
the machine has only been asked to look (`Peeks`, `OnlyLooks`), so whatever a look leaves alone is
as it was.

The program makes the directory of a missing file before it applies the patch, and it would be there
after a mismatch. But it does so only for a patch that makes its file, and such a patch applies to
the empty text (`Patch.apply_empty_of_createsFile`). What comes later can only fail in an operation
on files.
-/

set_option autoImplicit false

namespace Runbook.Session

open Block Machine Work

variable {α : Type} {session : Session} {record : List Exchange}

/-! ### Work that only looks -/

/-- All requests of a record only look at files. -/
def OnlyLooks (record : List Exchange) : Prop := ∀ exchange ∈ record, exchange.1.isLook = true

theorem onlyLooks_nil : OnlyLooks [] := nofun

theorem OnlyLooks.concat {exchange : Exchange} (h : OnlyLooks record)
    (hlook : exchange.1.isLook = true) : OnlyLooks (record ++ [exchange]) :=
  List.forall_mem_append.2 ⟨h, List.forall_mem_singleton.2 hlook⟩

/-- Work that only looks at files and leaves the session alone. -/
def Peeks (work : Work α) : Prop :=
  ∀ session, (after work session).Always (fun request ↦ request.isLook = true)
    fun out ↦ out.2 = session

theorem peeks_blockDirectory (cwd : Option String) : Peeks (blockDirectory cwd) := by
  refine fun session ↦ ⟨rfl, fun reply ↦ ?_⟩
  obtain error | kind := reply
  · rfl
  · cases kind <;> rfl

theorem peeks_modeOf (target : String) : Peeks (modeOf target) := by
  refine fun session ↦ ⟨rfl, fun reply ↦ ?_⟩
  cases reply <;> rfl

/-- Work that only looks adds looks to a record of looks. -/
theorem Peeks.evolving {work : Work α} (h : Peeks work) (hrecord : OnlyLooks record) :
    Evolving Recording (fun _ ↦ True) work session record fun _ reached record ↦
      OnlyLooks record ∧ reached = session := by
  refine Act.Evolves.and ((h session).evolves
    (fun record request reply reached hlook hrecord hstep ↦ ⟨trivial, ?_⟩) hrecord) (h session)
  rw [show reached = _ from hstep]
  exact hrecord.concat hlook

/-! ### Ends of a patch -/

/-- An end in an unmet condition comes after looks alone and in the same session. -/
def Untouched (session : Session) (result : Except Stop α) (reached : Session)
    (record : List Exchange) : Prop :=
  ∀ cause, result = .error (.failed (.unmet cause)) → OnlyLooks record ∧ reached = session

/-- An early end of a part is one of the whole. -/
theorem Untouched.stop {β : Type} {stop : Stop} {reached : Session}
    (h : Untouched session (.error stop : Except Stop α) reached record) :
    Untouched session (.error stop : Except Stop β) reached record := by
  rintro cause ⟨⟩
  exact h cause rfl

/-- Writing files does not end in an unmet condition. -/
theorem evolving_of_stores {work : Work α} (h : Stores .all work) (between : Session) :
    Evolving Recording (fun _ ↦ True) work between record (Untouched session) := by
  have hevolves : Evolving Recording (fun _ ↦ True) work between record fun _ _ _ ↦ True :=
    Act.Always.evolves (Act.always_true _) (fun _ _ _ _ _ _ _ ↦ ⟨trivial, trivial⟩) trivial
  refine Evolving.imp (hevolves.and (h between).always) ?_
  rintro result reached record ⟨-, houtcome⟩ cause rfl
  exact nomatch houtcome.1

/-- The file of a patch has been read when only looks have been asked for, unless the file is
missing and the patch makes it. -/
theorem evolving_readTarget (block : PatchFile) (target : String) (hrecord : OnlyLooks record) :
    Evolving Recording (fun _ ↦ True) (readTarget block target) session record
      fun result reached record ↦ Untouched session result reached record ∧
        ∀ content mode, result = .ok (content, mode) →
          (OnlyLooks record ∧ reached = session) ∨
            (content = "" ∧ block.patch.createsFile = true) := by
  refine Evolving.ask fun reply reached hstep ↦ ⟨trivial, ?_⟩
  obtain rfl : reached = _ := hstep
  have hlooks : OnlyLooks (record ++ [⟨.readText target, reply⟩]) := hrecord.concat rfl
  obtain error | content := reply
  · dsimp only
    split
    · exact Evolving.throw ⟨nofun, nofun⟩
    split
    · next hcreates =>
      refine Evolving.bind (evolving_of_stores (stores_makeParent target) session)
        (fun _ reached record _ ↦ Evolving.pure ⟨nofun, ?_⟩)
        fun stop reached record hstop ↦ ⟨hstop.stop, nofun⟩
      rintro content mode ⟨⟩
      exact .inr ⟨rfl, hcreates⟩
    · exact Evolving.throw ⟨fun _ _ ↦ ⟨hlooks, rfl⟩, nofun⟩
  · refine Evolving.bind ((peeks_modeOf target).evolving hlooks)
      (fun mode reached record hkept ↦ Evolving.pure ⟨nofun, fun _ _ _ ↦ .inl hkept⟩)
      fun stop reached record hkept ↦ ⟨fun _ _ ↦ hkept, nofun⟩

/-- A patch that ends in an unmet condition has only looked. Assumes: it has been read from a
text. -/
theorem evolving_runPatchFile {block : PatchFile} {text : String}
    (hparse : Patch.parse text = .ok block.patch) (session : Session) :
    Evolving Recording (fun _ ↦ True) (runPatchFile block) session [] (Untouched session) := by
  refine Evolving.bind ((peeks_blockDirectory block.cwd).evolving onlyLooks_nil)
    (fun directory reached record ⟨hlooks, hreached⟩ ↦ ?_) fun stop reached record hkept _ _ ↦ hkept
  subst hreached
  refine Evolving.bind (evolving_readTarget block _ hlooks)
    (fun (content, mode) between record ⟨_, hread⟩ ↦ ?_)
    fun stop between record ⟨hstop, _⟩ ↦ hstop.stop
  dsimp only
  cases happly : block.patch.apply content with
  | error mismatch =>
    rcases hread content mode rfl with hkept | ⟨rfl, hcreates⟩
    · exact Evolving.throw fun _ _ ↦ hkept
    · exact nomatch happly.symm.trans (Patch.apply_empty_of_createsFile hparse hcreates)
  | ok patched =>
    exact Evolving.bind (evolving_of_stores (stores_writeAtomic _ _ _) between)
      (fun _ _ _ _ ↦ Evolving.pure nofun) fun stop _ _ hstop ↦ hstop.stop

/-! ### Runs -/

/-- The patch of a block has been read from its body. -/
theorem PatchFile.parse_patch {arguments body : String} {block : PatchFile}
    (h : PatchFile.parse arguments body = .ok block) : Patch.parse body = .ok block.patch := by
  unfold PatchFile.parse at h
  obtain ⟨given, -, h⟩ := exists_of_bind_ok h
  obtain ⟨patch, hpatch, h⟩ := exists_of_bind_ok h
  split at h
  · cases h
  · obtain ⟨path, -, h⟩ := exists_of_bind_ok h
    cases h
    exact of_mapError_ok hpatch

/-- A look changes nothing in a sandbox. -/
theorem answer_of_isLook (workspace : Sandbox.Workspace) (request : Request)
    (h : request.isLook = true) :
    (Sandbox.Workspace.host.answer workspace request).2 = workspace := by
  cases request
  case entryKind | mode | entries | canonical | readText | readBytes | readLink => rfl
  all_goals cases h

/-- A patch that cannot be applied changes nothing. When its run ends because the directory or the
file is missing or a hunk does not match, then on every machine only looks have been asked for and
the session is the same, and whatever no look changes there is as it was before. In a sandbox that
is every file and directory. In particular no directory has been made for a missing file: a patch
that makes its file applies to the empty text and gives exactly the lines that it adds, which end in
a newline unless the patch marks the new side. Assumes: the block has been accepted. -/
theorem runPatchFile_unmet_keeps {arguments body : String} {block : PatchFile}
    (hblock : PatchFile.parse arguments body = .ok block) (session : Session) :
    (∀ {σ : Type} (host : Host σ) (state : σ) (cause : Unmet),
      let run := (after (runPatchFile block) session).on host state
      run.1.1 = .error (.failed (.unmet cause)) →
        run.1.2 = session ∧
        (∀ request ∈ (after (runPatchFile block) session).asked host state,
          request.isLook = true) ∧
        ∀ {φ : Type} (view : σ → φ), (∀ state request, request.isLook = true →
          view (host.answer state request).2 = view state) → view run.2 = view state) ∧
    (∀ (workspace : Sandbox.Workspace) (cause : Unmet),
      let run := (after (runPatchFile block) session).on Sandbox.Workspace.host workspace
      run.1.1 = .error (.failed (.unmet cause)) → run.2 = workspace) ∧
    (block.patch.createsFile = true → block.patch.apply "" =
      .ok (Patch.fileOfLines (Patch.addedTexts block.patch.hunks)
        (!block.patch.newUnterminated))) := by
  have hparse := PatchFile.parse_patch hblock
  have hlooks {σ : Type} (host : Host σ) (state : σ) (cause : Unmet)
      (hresult : ((after (runPatchFile block) session).on host state).1.1 =
        .error (.failed (.unmet cause))) :
      (∀ request ∈ (after (runPatchFile block) session).asked host state,
        request.isLook = true) ∧
      ((after (runPatchFile block) session).on host state).1.2 = session := by
    have hevolves := (evolving_runPatchFile hparse session).exchanges host.answer state
    obtain ⟨honly, hsession⟩ := hevolves cause hresult
    refine ⟨fun request hrequest ↦ ?_, hsession⟩
    rw [Act.asked_eq_map_exchanges] at hrequest
    obtain ⟨exchange, hexchange, rfl⟩ := List.mem_map.1 hrequest
    exact honly exchange hexchange
  refine ⟨fun host state cause hresult ↦ ?_, fun workspace cause hresult ↦ ?_,
    Patch.apply_empty_of_createsFile hparse⟩
  · obtain ⟨hasked, hsession⟩ := hlooks host state cause hresult
    exact ⟨hsession, hasked, fun view hview ↦ Act.on_of_looks hview _ state hasked⟩
  · obtain ⟨hasked, -⟩ := hlooks _ workspace cause hresult
    have hkept : id ((after (runPatchFile block) session).on Sandbox.Workspace.host workspace).2 =
        id workspace := Act.on_of_looks answer_of_isLook _ workspace hasked
    exact hkept

/-- A directory with a file of two lines. -/
def twoLines : Sandbox.FileSystem :=
  ⟨#[⟨.directory Sandbox.FileSystem.root [("a.txt", 1)], 0o755⟩,
    ⟨.file (Text.encode "a\nb\n"), 0o644⟩]⟩

/-- The first hunk of a patch matches and the second does not, and the sandbox is as it was; another
patch makes a file in a directory that is missing. -/
theorem runPatchFile_keeps_twoLines :
    let session : Session := .new ⟨".", "assets", none, "x", "sh", "/", .default⟩
    let workspace : Sandbox.Workspace :=
      ⟨⟨twoLines, [], [], [], 0, 100, 0⟩, Sandbox.FileSystem.root, [], 0, []⟩
    (∃ block, PatchFile.parse "path=a.txt"
        "@@ -1 +1 @@\n-a\n+x\n@@ -2 +2 @@\n-c\n+y\n" = .ok block ∧
      let run := (after (runPatchFile block) session).on Sandbox.Workspace.host workspace
      run.1.1 = .error (.failed (.unmet (.mismatch "a.txt" (.line 2 2 "c" (some "b"))))) ∧
        run.2 = workspace) ∧
    ∃ block, PatchFile.parse "path=d/a.txt" "@@ -0,0 +1,2 @@\n+x\n+y\n" = .ok block ∧
      block.patch.apply "" = .ok "x\ny\n" := by
  intro session workspace
  constructor
  · have hevaluated : (PatchFile.parse "path=a.txt"
        "@@ -1 +1 @@\n-a\n+x\n@@ -2 +2 @@\n-c\n+y\n").toOption.map (fun block ↦
          ((after (runPatchFile block) session).on Sandbox.Workspace.host workspace).1.1) =
        some (.error (.failed (.unmet (.mismatch "a.txt" (.line 2 2 "c" (some "b")))))) := by
      decide +kernel
    obtain ⟨block, hblock, hresult⟩ := exists_of_toOption_map hevaluated
    obtain ⟨-, hkeeps, -⟩ := runPatchFile_unmet_keeps hblock session
    exact ⟨block, hblock, hresult, hkeeps workspace _ hresult⟩
  · have hevaluated : (PatchFile.parse "path=d/a.txt" "@@ -0,0 +1,2 @@\n+x\n+y\n").toOption.map
        (fun block ↦ (block.patch.createsFile, Patch.fileOfLines
          (Patch.addedTexts block.patch.hunks) (!block.patch.newUnterminated))) =
        some (true, "x\ny\n") := by decide +kernel
    obtain ⟨block, hblock, hblockEvaluated⟩ := exists_of_toOption_map hevaluated
    obtain ⟨hcreates, hadded⟩ := Prod.mk.inj hblockEvaluated
    obtain ⟨-, -, happlies⟩ := runPatchFile_unmet_keeps hblock session
    exact ⟨block, hblock, (happlies hcreates).trans (congrArg _ hadded)⟩

end Runbook.Session
