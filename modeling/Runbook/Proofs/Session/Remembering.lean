import Runbook.Proofs.Session.Serverless
/-!
# Work that takes no checkpoint

Only a checkpoint block adds to the checkpoints of a session. All other work keeps them, and the
options, whatever the answers of the machine are and however it ends (`Work.Remembers`). Blocks
without servers leave the whole session as it is; those that start or stop a server change its
servers alone.
-/

set_option autoImplicit false

namespace Runbook.Session

open Block Machine Work

/-! ### Blocks with servers -/

/-- Any request. -/
abbrev Any (_ : Request) : Prop := True

section Blocks

variable {γ : Type} {part : Session → γ}

theorem preserves_dropServer (process : ProcessId) : (dropServer process).Preserves Any part :=
  .bind (.ask trivial) fun _ ↦ .ask trivial

theorem preserves_readUntil (block : StartServer) (process : ProcessId) (needle : Bytes)
    (deadline : Instant) (pieces : Nat) (seen : Bytes) :
    (readUntil block process needle deadline pieces seen).Preserves Any part := by
  induction pieces generalizing seen with
  | zero => exact .fail _
  | succ pieces ih =>
    refine .bind (.ask trivial) fun answer ↦ ?_
    split
    · exact .throw _
    · exact .fail _
    · exact .bind (.ask trivial) fun _ ↦ .fail _
    · split
      · exact .pure _
      · exact ih _

theorem preserves_awaitReady (block : StartServer) (process : ProcessId) :
    (awaitReady block process).Preserves Any part := by
  unfold awaitReady
  split
  · exact .pure _
  · refine .bind (.ask trivial) fun now ↦ ?_
    simp only
    split
    · exact .pure _
    · exact preserves_readUntil _ _ _ _ _ _

theorem preserves_startServer (block : StartServer) (directory : String) :
    (startServer block directory).Preserves Any part :=
  .bind .get fun _ ↦ .askOr trivial fun _ ↦
    .bind (.onStop (preserves_dropServer _) (preserves_awaitReady _ _)) fun _ ↦
      .bind (.ask trivial) fun _ ↦ .pure _

theorem preserves_awaitEnd (server : Server) (deadline : Option Instant) :
    (awaitEnd server deadline).Preserves Any part := by
  refine .bind (.ask trivial) fun answer ↦ ?_
  split
  · exact .bind (preserves_dropServer _) fun _ ↦ .throw _
  · exact .pure _

theorem preserves_stopServer (server : Server) (grace : Number.Duration) :
    (stopServer server grace).Preserves Any part := by
  refine .bind (.ask trivial) fun _ ↦ .bind (.ask trivial) fun now ↦ .bind (preserves_awaitEnd _ _)
    fun first ↦ ?_
  extract_lets rest
  have hrest : ∀ ended, (rest ended).Preserves Any part := by
    intro ended
    cases ended with
    | status status => exact .pure _
    | failed error => exact .bind (.ask trivial) fun _ ↦ .fail _
    | elapsed => exact .bind (.ask trivial) fun _ ↦ .fail _
  split
  · exact .bind (.ask trivial) fun _ ↦ .bind (preserves_awaitEnd _ _) hrest
  · exact .bind (.pure _) hrest

theorem preserves_takeServer
    (hpart : ∀ session registry, part { session with servers := registry } = part session)
    (name : String) : (takeServer name).Preserves Any part := by
  refine .bind .get fun session ↦ ?_
  split
  · exact .fail _
  · exact .bind (.modify fun session ↦ hpart session _) fun _ ↦ .pure _

/-- A server that is started is added to the servers. -/
theorem preserves_runStartServer
    (hpart : ∀ session registry, part { session with servers := registry } = part session)
    (block : StartServer) : (runStartServer block).Preserves Any part := by
  have hvacant (name : String) : (requireVacant name).Preserves Any part :=
    (preserves_requireVacant name).widen fun _ _ ↦ trivial
  have hdirectory : (blockDirectory block.cwd).Preserves Any part :=
    (preserves_blockDirectory block.cwd).widen fun _ _ ↦ trivial
  exact .bind (hvacant _) fun _ ↦ .bind hdirectory fun _ ↦ .bind (preserves_startServer _ _)
    fun _ ↦ .bind (.bind (hvacant _) fun _ ↦ .modify fun session ↦ hpart session _) fun _ ↦ .pure _

/-- A server that is stopped is taken out of the servers. -/
theorem preserves_runStopServer
    (hpart : ∀ session registry, part { session with servers := registry } = part session)
    (block : StopServer) : (runStopServer block).Preserves Any part :=
  .bind (preserves_takeServer hpart _) fun _ ↦ .bind (preserves_stopServer _ _) fun _ ↦ .pure _

end Blocks

/-! ### Options and checkpoints -/

/-- Work keeps the options of a session and the checkpoints that have been taken. -/
def Work.Remembers {α : Type} (work : Work α) : Prop :=
  ∀ session, (after work session).Always (fun _ ↦ True) fun out ↦
    out.2.options = session.options ∧ out.2.checkpoints = session.checkpoints

/-- What work without checkpoints keeps of a session. -/
def remembered (session : Session) : Options × List String :=
  (session.options, session.checkpoints)

namespace Work.Remembers

variable {α : Type}

theorem of_preserves {asks : Request → Prop} {work : Work α}
    (h : work.Preserves asks remembered) : work.Remembers :=
  fun session ↦ (h session).imp (fun _ _ ↦ trivial) fun _ hout ↦ Prod.mk.inj hout

protected theorem ask (request : Request) : (Work.ask request).Remembers :=
  fun _ ↦ ⟨trivial, fun _ ↦ ⟨rfl, rfl⟩⟩

protected theorem orFail (answer : Except IoError α) (cause : IoError → Failure) :
    (Work.orFail answer cause).Remembers := by
  cases answer with
  | ok value => exact fun _ ↦ ⟨rfl, rfl⟩
  | error error => exact fun _ ↦ ⟨rfl, rfl⟩

end Work.Remembers

/-- Running a block that is no checkpoint takes no checkpoint. -/
theorem remembers_runAction {action : Action} (h : ∀ block, action ≠ .checkpoint block) :
    (runAction action).Remembers := by
  cases action with
  | command block => exact .of_preserves (preserves_runCommand block)
  | patchFile block => exact .of_preserves (preserves_runPatchFile block)
  | createFile block => exact .of_preserves (preserves_runCreateFile block)
  | startServer block => exact .of_preserves (preserves_runStartServer (fun _ _ ↦ rfl) block)
  | stopServer block => exact .of_preserves (preserves_runStopServer (fun _ _ ↦ rfl) block)
  | screenshot block => exact .of_preserves (preserves_runScreenshot block)
  | checkpoint block => exact absurd rfl (h block)

end Runbook.Session
