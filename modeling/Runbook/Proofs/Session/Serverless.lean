import Runbook.Proofs.Session.Yields
import Runbook.Session.Run
/-!
# Work without servers

Some requests are about servers: those that start a process that leads a process group, that read
its output as it comes, that wait for its end alone, or that signal its group
(`Request.isAboutServer`). Blocks that neither start nor stop a server ask none of them: the
processes that they start lead no group and are waited for together with all of their output. They
also leave the session as it is, except that a checkpoint is remembered (`preserves_runAction`).

`Work.Preserves` says both of work: what it may ask, and which part of the session it keeps. It has
one rule for each construct, so it is proved along the text of the work.
-/

set_option autoImplicit false

namespace Runbook

open Block Machine

/-- Whether a request starts a process that leads a group, or watches or signals one. -/
def Machine.Request.isAboutServer : Request → Bool
  | spawn invocation => invocation.leadsGroup
  | readOutput _ _ => true
  | drainOutput _ => true
  | poll _ => true
  | awaitExit _ _ => true
  | signalGroup _ _ => true
  | _ => false

namespace Session

open Work

/-- A request that is not about servers. -/
abbrev Quiet (request : Request) : Prop := request.isAboutServer = false

/-- Work asks nothing about servers, whatever the answers are. -/
def Work.Serverless {α : Type} (work : Work α) : Prop :=
  ∀ session, (after work session).Always (fun request ↦ request.isAboutServer = false) fun _ ↦ True

/-- Work asks only such requests and leaves a part of the session as it is, whatever the answers are
and however it ends. -/
def Work.Preserves {α γ : Type} (asks : Request → Prop) (part : Session → γ) (work : Work α) :
    Prop :=
  ∀ session, (after work session).Always asks fun out ↦ part out.2 = part session

namespace Work.Preserves

variable {α β γ : Type} {asks : Request → Prop} {part : Session → γ}

protected theorem pure (value : α) : (Pure.pure value : Work α).Preserves asks part := fun _ ↦ rfl

protected theorem throw (stop : Stop) : (throw stop : Work α).Preserves asks part := fun _ ↦ rfl

protected theorem fail (cause : Failure) : (Work.fail cause : Work α).Preserves asks part :=
  fun _ ↦ rfl

protected theorem ask {request : Request} (h : asks request) :
    (Work.ask request).Preserves asks part :=
  fun _ ↦ ⟨h, fun _ ↦ rfl⟩

protected theorem get : (MonadState.get : Work Session).Preserves asks part := fun _ ↦ rfl

protected theorem modify {change : Session → Session}
    (h : ∀ session, part (change session) = part session) :
    (modify change : Work Unit).Preserves asks part := h

protected theorem bind {work : Work α} {next : α → Work β} (h : work.Preserves asks part)
    (hnext : ∀ value, (next value).Preserves asks part) :
    (work >>= next).Preserves asks part := by
  intro session
  rw [after_bind, Act.always_bind]
  refine (h session).imp (fun _ hrequest ↦ hrequest) fun out hout ↦ ?_
  obtain ⟨stop | value, reached⟩ := out
  · exact hout
  · exact (hnext value reached).imp (fun _ hrequest ↦ hrequest) fun _ hlater ↦ hlater.trans hout

protected theorem onStop {cleanUp : Work Unit} {work : Work α}
    (hclean : cleanUp.Preserves asks part) (h : work.Preserves asks part) :
    (Work.onStop cleanUp work).Preserves asks part := by
  intro session
  unfold Work.onStop
  rw [after_tryCatch, Act.always_bind]
  refine (h session).imp (fun _ hrequest ↦ hrequest) fun out hout ↦ ?_
  obtain ⟨stop | value, reached⟩ := out
  · exact (Preserves.bind hclean (fun _ ↦ .throw stop) reached).imp (fun _ hrequest ↦ hrequest)
      fun _ hlater ↦ hlater.trans hout
  · exact hout

protected theorem orFail (answer : Except IoError α) (cause : IoError → Failure) :
    (Work.orFail answer cause).Preserves asks part := by
  cases answer with
  | ok value => exact .pure value
  | error error => exact .fail _

/-- A request whose error stops the work. -/
theorem askOr {request : Request} {answer : request.Reply → Except IoError α}
    {cause : IoError → Failure} {next : α → Work β} (h : asks request)
    (hnext : ∀ value, (next value).Preserves asks part) :
    (Work.ask request >>= fun reply ↦ Work.orFail (answer reply) cause >>= next).Preserves asks
      part :=
  .bind (.ask h) fun _ ↦ .bind (.orFail _ _) hnext

theorem widen {work : Work α} {wider : Request → Prop} (h : work.Preserves asks part)
    (hwiden : ∀ request, asks request → wider request) : work.Preserves wider part :=
  fun session ↦ (h session).imp hwiden fun _ hout ↦ hout

theorem serverless {work : Work α} (h : work.Preserves Quiet part) : work.Serverless :=
  fun session ↦ (h session).imp (fun _ hrequest ↦ hrequest) fun _ _ ↦ trivial

end Work.Preserves

section Blocks

variable {γ : Type} {part : Session → γ}

/-! ### Parts of blocks -/

theorem preserves_requireVacant (name : String) : (requireVacant name).Preserves Quiet part := by
  refine .bind .get fun session ↦ ?_
  split
  · exact .fail _
  · exact .pure _

theorem preserves_leadsTo (path : String) (kind : EntryKind) :
    (leadsTo path kind).Preserves Quiet part := by
  refine .bind (.ask rfl) fun answer ↦ ?_
  split <;> exact .pure _

theorem preserves_leadsSomewhere (path : String) : (leadsSomewhere path).Preserves Quiet part := by
  refine .bind (.ask rfl) fun answer ↦ ?_
  split <;> exact .pure _

theorem preserves_deadline? (limit : Option Number.Duration) :
    (deadline? limit).Preserves Quiet part := by
  unfold deadline?
  split
  · exact .pure _
  · exact .bind (.ask rfl) fun _ ↦ .pure _

theorem preserves_blockDirectory (cwd : Option String) :
    (blockDirectory cwd).Preserves Quiet part := by
  refine .bind .get fun session ↦ .bind (preserves_leadsTo _ _) fun found ↦ ?_
  split
  · exact .pure _
  · exact .fail _

theorem preserves_basename : basename.Preserves Quiet part := by
  refine .bind .get fun session ↦ ?_
  split
  · split
    · exact .fail _
    · exact .pure _
  · exact .fail _

/-- A process that leads no group is run to its end. -/
theorem preserves_runToEnd {invocation : Invocation} (h : invocation.leadsGroup = false)
    (label : String) (input : Bytes) (limit : Option Number.Duration) :
    (runToEnd invocation label input limit).Preserves Quiet part := by
  refine .bind (.ask h) fun spawned ↦ .bind (.orFail _ _) fun process ↦
    .bind (preserves_deadline? limit) fun deadline ↦ .bind (.ask rfl) fun collected ↦ ?_
  split
  · exact .bind (.ask rfl) fun _ ↦ .throw _
  · exact .bind (.ask rfl) fun _ ↦ .fail _
  · exact .bind (.ask rfl) fun _ ↦ .fail _
  · split
    · split
      · exact .fail _
      · exact .pure _
    · exact .pure _

theorem preserves_requireSuccess (label : String) (finished : Finished) :
    (requireSuccess label finished).Preserves Quiet part := by
  unfold requireSuccess
  split
  · exact .pure _
  · exact .fail _

/-! ### Command blocks -/

theorem preserves_runCommands (block : Command) (directory : String) (lines : List String) :
    (runCommands block directory lines).Preserves Quiet part := by
  induction lines with
  | nil => exact .pure _
  | cons line lines ih =>
    exact .bind .get fun session ↦ .bind (preserves_runToEnd rfl _ _ _) fun finished ↦
      .bind (preserves_requireSuccess _ _) fun _ ↦ .bind ih fun _ ↦ .pure _

theorem preserves_runCommand (block : Command) : (runCommand block).Preserves Quiet part :=
  .bind (preserves_blockDirectory _) fun _ ↦ .bind (preserves_runCommands _ _ _) fun _ ↦ .pure _

/-! ### File blocks -/

theorem preserves_publish (temp target : String) (mode : Option Nat) :
    (publish temp target mode).Preserves Quiet part :=
  .onStop (.ask rfl) (.askOr rfl fun _ ↦
    .bind (.ask rfl) fun _ ↦ .orFail _ _)

theorem preserves_fill (temp : String) (content : Bytes) :
    (fill temp content).Preserves Quiet part :=
  .onStop (.ask rfl) (.askOr rfl fun _ ↦
    .askOr rfl fun _ ↦ .bind (.ask rfl) fun _ ↦ .orFail _ _)

theorem preserves_writeAtomic (target : String) (content : Bytes) (mode : Option Nat) :
    (writeAtomic target content mode).Preserves Quiet part :=
  .askOr rfl fun _ ↦ .bind (preserves_fill _ _) fun _ ↦
    preserves_publish _ _ _

theorem preserves_makeParent (target : String) : (makeParent target).Preserves Quiet part := by
  unfold makeParent
  split
  · exact .pure _
  · exact .bind (.ask rfl) fun _ ↦ .orFail _ _

theorem preserves_modeOf (target : String) : (modeOf target).Preserves Quiet part := by
  refine .bind (.ask rfl) fun answer ↦ ?_
  split <;> exact .pure _

theorem preserves_runCreateFile (block : CreateFile) : (runCreateFile block).Preserves Quiet part :=
  .bind (preserves_blockDirectory _) fun _ ↦ .bind (preserves_makeParent _) fun _ ↦
    .bind (preserves_modeOf _) fun _ ↦ .bind (preserves_writeAtomic _ _ _) fun _ ↦ .pure _

theorem preserves_readTarget (block : PatchFile) (target : String) :
    (readTarget block target).Preserves Quiet part := by
  refine .bind (.ask rfl) fun answer ↦ ?_
  split
  · exact .bind (preserves_modeOf _) fun _ ↦ .pure _
  · split
    · exact .fail _
    · split
      · exact .bind (preserves_makeParent _) fun _ ↦ .pure _
      · exact .fail _

theorem preserves_runPatchFile (block : PatchFile) : (runPatchFile block).Preserves Quiet part := by
  refine .bind (preserves_blockDirectory _) fun directory ↦
    .bind (preserves_readTarget _ _) fun read ↦ ?_
  obtain ⟨content, mode⟩ := read
  simp only
  split
  · exact .fail _
  · exact .bind (preserves_writeAtomic _ _ _) fun _ ↦ .pure _

/-! ### Screenshots -/

theorem preserves_capture (block : Picture) (temp : String) :
    (capture block temp).Preserves Quiet part := by
  refine .bind .get fun _ ↦ .bind (preserves_runToEnd rfl _ _ _) fun _ ↦
    .bind (preserves_requireSuccess _ _) fun _ ↦ .askOr rfl fun bytes ↦ ?_
  split
  · exact .pure _
  · exact .fail _

theorem preserves_runScreenshot (block : Picture) : (runScreenshot block).Preserves Quiet part :=
  .bind preserves_basename fun _ ↦ .bind .get fun _ ↦ .askOr rfl fun _ ↦ .askOr rfl fun _ ↦
      .bind (.onStop (.ask rfl) (preserves_capture _ _)) fun _ ↦
        .bind (preserves_publish _ _ _) fun _ ↦ .pure _

/-! ### Checkpoints -/

theorem preserves_isLeftOut (exclude : List String) (skip path name : String) :
    (isLeftOut exclude skip path name).Preserves Quiet part := by
  unfold isLeftOut
  split
  · exact .pure _
  · refine .bind (.ask rfl) fun answer ↦ ?_
    split <;> exact .pure _

theorem preserves_copyEntry (source target : String) (kind : EntryKind) :
    (copyEntry source target kind).Preserves Quiet part := by
  unfold copyEntry
  split
  · exact .askOr rfl fun _ ↦ .askOr rfl fun _ ↦ .pure _
  · exact .askOr rfl fun _ ↦ .pure _

theorem preserves_copyEntries (exclude : List String) (skip source target : String)
    {copyDirectory : String → String → Work Nat}
    (hcopy : ∀ source target, (copyDirectory source target).Preserves Quiet part)
    (entries : List (String × EntryKind)) :
    (copyEntries exclude skip source target copyDirectory entries).Preserves Quiet part := by
  induction entries with
  | nil => exact .pure _
  | cons entry entries ih =>
    obtain ⟨name, kind⟩ := entry
    refine .bind (preserves_isLeftOut _ _ _ _) fun leftOut ↦ ?_
    extract_lets rest
    have hrest : ∀ copied, (rest copied).Preserves Quiet part := fun _ ↦ .bind ih fun _ ↦ .pure _
    split
    · exact .bind (.pure _) hrest
    · split
      · exact .askOr rfl fun _ ↦ .bind (hcopy _ _) hrest
      · exact .bind (preserves_copyEntry _ _ _) hrest

theorem preserves_copyDirectory (exclude : List String) (skip : String) (depth : Nat)
    (source target : String) :
    (copyDirectory exclude skip depth source target).Preserves Quiet part := by
  induction depth generalizing source target with
  | zero => exact .fail _
  | succ depth ih =>
    exact .askOr rfl fun entries ↦
      preserves_copyEntries _ _ _ _ ih entries

theorem preserves_copyTree (source target : String) (exclude : List String) (skip : String) :
    (copyTree source target exclude skip).Preserves Quiet part := by
  refine .askOr rfl fun found ↦ ?_
  extract_lets rest
  have hrest : ∀ kind, (rest kind).Preserves Quiet part := by
    intro kind
    change Preserves Quiet part (if kind = .directory then _ else _)
    split
    · exact preserves_copyDirectory _ _ _ _ _
    · exact .pure _
  split
  · exact .bind (.ask rfl) fun _ ↦ .bind (.orFail _ _) hrest
  · exact .bind (.pure _) hrest

theorem preserves_fillCheckpoint (block : Checkpoint) (parent staging : String) :
    (fillCheckpoint block parent staging).Preserves Quiet part := by
  refine .bind .get fun _ ↦ .askOr rfl fun _ ↦
    .bind (preserves_copyTree _ _ _ _) fun _ ↦ .bind (preserves_leadsSomewhere _) fun taken ↦ ?_
  extract_lets rest
  have hrest : (rest ()).Preserves Quiet part := .bind (.ask rfl) fun _ ↦ .orFail _ _
  split
  · exact .askOr rfl fun _ ↦ hrest
  · exact hrest

theorem preserves_recordCheckpoint
    (hpart : ∀ session names, part { session with checkpoints := names } = part session)
    (name : String) : (recordCheckpoint name).Preserves Quiet part := by
  intro session
  unfold recordCheckpoint
  rw [after_bind, after_get, pure_bind]
  simp only
  split
  · exact rfl
  · exact hpart session _

/-- A checkpoint is remembered. -/
theorem preserves_runCheckpoint
    (hpart : ∀ session names, part { session with checkpoints := names } = part session)
    (block : Checkpoint) : (runCheckpoint block).Preserves Quiet part := by
  refine .bind preserves_basename fun _ ↦ .bind (preserves_recordCheckpoint hpart _) fun first ↦ ?_
  extract_lets rest
  have hrest : (rest ()).Preserves Quiet part :=
    .bind .get fun _ ↦ .askOr rfl fun _ ↦
      .askOr rfl fun _ ↦
        .bind (.onStop (.ask rfl) (preserves_fillCheckpoint _ _ _)) fun _ ↦ .pure _
  split
  · exact .bind (.fail _) fun _ ↦ hrest
  · exact hrest

/-- Blocks ask nothing about servers and keep what a session holds besides its checkpoints, except
those that start or stop a server. -/
theorem preserves_runAction
    (hpart : ∀ session names, part { session with checkpoints := names } = part session)
    (action : Action) (hstart : ∀ block, action ≠ .startServer block)
    (hstop : ∀ block, action ≠ .stopServer block) :
    (runAction action).Preserves Quiet part := by
  cases action with
  | command block => exact preserves_runCommand block
  | patchFile block => exact preserves_runPatchFile block
  | createFile block => exact preserves_runCreateFile block
  | startServer block => exact absurd rfl (hstart block)
  | stopServer block => exact absurd rfl (hstop block)
  | screenshot block => exact preserves_runScreenshot block
  | checkpoint block => exact preserves_runCheckpoint hpart block

end Blocks

end Session

end Runbook
