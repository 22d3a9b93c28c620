import Runbook.Proofs.Machine.Always
import Runbook.Proofs.Session.Yields
/-!
# What work leaves behind

The servers that are running are part of the session, and what work does to them has to be said for
every end that it can come to: for a value, for a failure and for a run that is given up.
`Work.Leaves` says it for work from one session, under the answers that a machine may give, together
with what the value or the failure is. It also says that no file is written in place, and that the
run is given up only when the machine gives it up.

Most work leaves the servers alone, whatever the answers are and however it ends. `Work.Frames` is
that case, from every session, and has one rule for each construct, so it is proved along the text
of the work. Under all answers it is `Work.Yields` (`Frames.yields`).
-/

set_option autoImplicit false

namespace Runbook.Session

open Block Machine Work

/-- A request that writes no file in place. -/
abbrev NotInPlace (request : Request) : Prop :=
  ∀ path content, request ≠ .writeFile path content

/-! ### Ends -/

section Ends

variable {ε α β : Type} {answers : Answers} {session : Session}

/-- Under some answers, work in a session writes no file in place, and every end that it can come to
has a property. -/
def Ends (answers : Answers) (work : ExceptT ε (StateT Session Act) α) (session : Session)
    (ends : Except ε α × Session → Prop) : Prop :=
  (after work session).AlwaysUnder answers NotInPlace ends

theorem Ends.imp {work : ExceptT ε (StateT Session Act) α}
    {ends weaker : Except ε α × Session → Prop} (h : Ends answers work session ends)
    (himp : ∀ out, ends out → weaker out) : Ends answers work session weaker :=
  Act.AlwaysUnder.imp h himp

theorem Ends.bind {work : ExceptT ε (StateT Session Act) α}
    {next : α → ExceptT ε (StateT Session Act) β} {between : Except ε α × Session → Prop}
    {ends : Except ε β × Session → Prop} (h : Ends answers work session between)
    (hok : ∀ value reached, between (.ok value, reached) → Ends answers (next value) reached ends)
    (herror : ∀ cause reached, between (.error cause, reached) → ends (.error cause, reached)) :
    Ends answers (work >>= next) session ends := by
  unfold Ends
  rw [after_bind, Act.alwaysUnder_bind]
  refine h.imp fun out hout ↦ ?_
  obtain ⟨cause | value, reached⟩ := out
  · exact herror cause reached hout
  · exact hok value reached hout

theorem Ends.tryCatch {work : ExceptT ε (StateT Session Act) α}
    {handle : ε → ExceptT ε (StateT Session Act) α} {between ends : Except ε α × Session → Prop}
    (h : Ends answers work session between)
    (hok : ∀ value reached, between (.ok value, reached) → ends (.ok value, reached))
    (herror : ∀ cause reached, between (.error cause, reached) →
      Ends answers (handle cause) reached ends) :
    Ends answers (tryCatch work handle) session ends := by
  unfold Ends
  rw [after_tryCatch, Act.alwaysUnder_bind]
  refine h.imp fun out hout ↦ ?_
  obtain ⟨cause | value, reached⟩ := out
  · exact herror cause reached hout
  · exact hok value reached hout

/-- Work that looks at the session first. -/
theorem ends_get {next : Session → ExceptT ε (StateT Session Act) β}
    {ends : Except ε β × Session → Prop} (h : Ends answers (next session) session ends) :
    Ends answers (MonadState.get >>= next) session ends := by
  unfold Ends
  rw [after_bind, after_get, pure_bind]
  exact h

/-- What all ends of work have, the end of a run has. Assumes: the machine gives only such
answers. -/
theorem Ends.follow {σ : Type} {work : ExceptT ε (StateT Session Act) α}
    {ends : Except ε α × Session → Prop} (h : Ends answers work session ends)
    {answer : σ → (r : Request) → r.Reply × σ} (hanswer : Keeps answer answers) (state : σ) :
    ends (follow answer work session state).1 :=
  h.run hanswer state

end Ends

/-! ### Servers at the end of work -/

namespace Work

variable {α β : Type} {answers : Answers} {session : Session}

/-- What an end of work has to be: a good value and the servers that go with it, or a stop with the
servers that go with one, whose failure is allowed or which the answers give. -/
def Outcome (answers : Answers) (good : α → Registry → Prop) (fails : Failure → Prop)
    (stops : Registry → Prop) : Except Stop α × Session → Prop
  | (.ok value, reached) => good value reached.servers
  | (.error (.failed cause), reached) => fails cause ∧ stops reached.servers
  | (.error .abandoned, reached) => answers.GivesUp ∧ stops reached.servers

/-- Under some answers, work in a session writes no file in place and comes to such an end. -/
def Leaves (answers : Answers) (work : Work α) (session : Session)
    (good : α → Registry → Prop) (fails : Failure → Prop) (stops : Registry → Prop) : Prop :=
  Ends answers work session (Outcome answers good fails stops)

section Leaves

variable {good : α → Registry → Prop} {fails : Failure → Prop} {stops : Registry → Prop}

theorem Leaves.imp {work : Work α} {better : α → Registry → Prop} {raised : Failure → Prop}
    {closer : Registry → Prop} (h : work.Leaves answers session better raised closer)
    (hgood : ∀ value servers, better value servers → good value servers)
    (hfails : ∀ cause, raised cause → fails cause)
    (hstops : ∀ servers, closer servers → stops servers) :
    work.Leaves answers session good fails stops := by
  refine Ends.imp h fun out hout ↦ ?_
  obtain ⟨(cause | _) | value, reached⟩ := out
  · exact ⟨hfails cause hout.1, hstops _ hout.2⟩
  · exact ⟨hout.1, hstops _ hout.2⟩
  · exact hgood value _ hout

theorem Leaves.bind {work : Work α} {next : α → Work β} {done : β → Registry → Prop}
    {closer : Registry → Prop} (h : work.Leaves answers session good fails closer)
    (hnext : ∀ value reached, good value reached.servers →
      (next value).Leaves answers reached done fails stops)
    (hstops : ∀ servers, closer servers → stops servers) :
    (work >>= next).Leaves answers session done fails stops := by
  refine Ends.bind h hnext fun stop reached hstop ↦ ?_
  cases stop with
  | failed cause => exact ⟨hstop.1, hstops _ hstop.2⟩
  | abandoned => exact ⟨hstop.1, hstops _ hstop.2⟩

/-- Work whose value is of no use. -/
theorem Leaves.void {work : Work α} {done : Registry → Prop}
    (h : work.Leaves answers session good fails stops)
    (hgood : ∀ value servers, good value servers → done servers) :
    (do let _ ← work : Work Unit).Leaves answers session (fun _ servers ↦ done servers) fails
      stops :=
  h.bind (fun value reached hvalue ↦ hgood value reached.servers hvalue) fun _ hservers ↦ hservers

/-- Work that goes on in the same way from every session and value that the first part can come
to. -/
theorem Leaves.after_bind_congr {work : Work α} {next other : α → Work β}
    (h : work.Leaves .all session good fails stops)
    (hnext : ∀ value reached, good value reached.servers →
      after (next value) reached = after (other value) reached) :
    after (work >>= next) session = after (work >>= other) session := by
  rw [after_bind, after_bind]
  refine h.always.bind_congr fun out hout ↦ ?_
  obtain ⟨_ | value, reached⟩ := out
  · rfl
  · exact hnext value reached hout

/-- Work that looks at the session first. -/
theorem Leaves.get {next : Session → Work α}
    (h : (next session).Leaves answers session good fails stops) :
    (MonadState.get >>= next).Leaves answers session good fails stops :=
  ends_get h

/-- Work that changes the session first. -/
theorem Leaves.modify {change : Session → Session} {next : Unit → Work α}
    (h : (next ()).Leaves answers (change session) good fails stops) :
    (modify change >>= next).Leaves answers session good fails stops := by
  unfold Leaves Ends
  rw [after_bind]
  exact h

end Leaves

/-! ### Work that leaves the servers alone -/

/-- Under some answers, work writes no file in place and leaves the servers as they are, however it
ends; it gives a good value or stops with a failure that is allowed, and the run is given up only
when the answers give it up. -/
def Frames (answers : Answers) (work : Work α) (good : α → Prop) (fails : Failure → Prop) : Prop :=
  ∀ session, work.Leaves answers session
    (fun value servers ↦ servers = session.servers ∧ good value) fails
    fun servers ↦ servers = session.servers

namespace Frames

variable {good : α → Prop} {fails : Failure → Prop}

protected theorem pure {value : α} (h : good value) :
    (Pure.pure value : Work α).Frames answers good fails :=
  fun _ ↦ ⟨rfl, h⟩

protected theorem fail {cause : Failure} (h : fails cause) :
    (Work.fail cause : Work α).Frames answers good fails :=
  fun _ ↦ ⟨h, rfl⟩

protected theorem abandon (h : answers.GivesUp) :
    (throw .abandoned : Work α).Frames answers good fails :=
  fun _ ↦ ⟨h, rfl⟩

protected theorem ask {request : Request} (h : NotInPlace request) :
    (Work.ask request).Frames answers (fun reply ↦ answers request reply) fails :=
  fun _ ↦ ⟨h, fun _ hreply ↦ ⟨rfl, hreply⟩⟩

protected theorem get : (MonadState.get : Work Session).Frames answers (fun _ ↦ True) fails :=
  fun _ ↦ ⟨rfl, trivial⟩

theorem imp {work : Work α} {better : α → Prop} (h : work.Frames answers better fails)
    (himp : ∀ value, better value → good value) : work.Frames answers good fails :=
  fun session ↦ (h session).imp (fun value _ hvalue ↦ ⟨hvalue.1, himp value hvalue.2⟩)
    (fun _ hcause ↦ hcause) fun _ hservers ↦ hservers

/-- Work whose failures are allowed, when more are. -/
theorem allow {work : Work α} {raised : Failure → Prop} (h : work.Frames answers good raised)
    (hallow : ∀ cause, raised cause → fails cause) : work.Frames answers good fails :=
  fun session ↦ (h session).imp (fun _ _ hvalue ↦ hvalue) hallow fun _ hservers ↦ hservers

protected theorem bind {work : Work α} {next : α → Work β} {done : β → Prop}
    (h : work.Frames answers good fails)
    (hnext : ∀ value, good value → (next value).Frames answers done fails) :
    (work >>= next).Frames answers done fails := by
  refine fun session ↦ (h session).bind ?_ fun _ hservers ↦ hservers
  rintro value reached ⟨hservers, hvalue⟩
  refine (hnext value hvalue reached).imp ?_ (fun _ hcause ↦ hcause) fun _ hlater ↦
    hlater.trans hservers
  exact fun _ _ hlater ↦ ⟨hlater.1.trans hservers, hlater.2⟩

/-- Work that handles a stop gives what the work or the handler gives; a failure that is handled has
not to be allowed by the whole. -/
protected theorem tryCatch {work : Work α} {handle : Stop → Work α} {raised : Failure → Prop}
    (h : work.Frames answers good raised)
    (hfailed : ∀ cause, raised cause → (handle (.failed cause)).Frames answers good fails)
    (habandoned : answers.GivesUp → (handle .abandoned).Frames answers good fails) :
    (tryCatch work handle).Frames answers good fails := by
  refine fun session ↦ Ends.tryCatch (h session) (fun _ _ hvalue ↦ hvalue) ?_
  intro stop reached hstop
  have hhandle : reached.servers = session.servers ∧ (handle stop).Frames answers good fails := by
    cases stop with
    | failed cause => exact ⟨hstop.2, hfailed cause hstop.1⟩
    | abandoned => exact ⟨hstop.2, habandoned hstop.1⟩
  obtain ⟨hservers, hhandle⟩ := hhandle
  have hlater := hhandle reached
  rw [hservers] at hlater
  exact hlater

/-- Cleaning up after a stop keeps the stop. -/
protected theorem onStop {cleanUp : Work Unit} {work : Work α}
    (hclean : cleanUp.Frames answers (fun _ ↦ True) fails) (h : work.Frames answers good fails) :
    (Work.onStop cleanUp work).Frames answers good fails :=
  .tryCatch h (fun _ hcause ↦ .bind hclean fun _ _ ↦ .fail hcause)
    fun hgivesUp ↦ .bind hclean fun _ _ ↦ .abandon hgivesUp

/-- The value of an answer, with the failures that errors make. -/
protected theorem orFail {answer : Except IoError α} {cause : IoError → Failure}
    (h : ∀ error, fails (cause error)) :
    (Work.orFail answer cause).Frames answers (fun _ ↦ True) fails := by
  cases answer with
  | ok value => exact .pure trivial
  | error error => exact .fail (h error)

protected theorem leadsTo (path : String) (kind : EntryKind) :
    (Work.leadsTo path kind).Frames answers (fun _ ↦ True) fails := by
  refine .bind (.ask nofun) fun answer _ ↦ ?_
  split <;> exact .pure trivial

protected theorem leadsSomewhere (path : String) :
    (Work.leadsSomewhere path).Frames answers (fun _ ↦ True) fails := by
  refine .bind (.ask nofun) fun answer _ ↦ ?_
  split <;> exact .pure trivial

protected theorem deadline? (limit : Option Number.Duration) :
    (Work.deadline? limit).Frames answers (fun _ ↦ True) fails := by
  unfold Work.deadline?
  split
  · exact .pure trivial
  · exact .bind (.ask nofun) fun _ _ ↦ .pure trivial

end Frames

/-- What is said of all ends under all answers is said of what work yields. -/
theorem Leaves.yields {work : Work α} {good : α → Prop} {fails : Failure → Prop}
    {servers : Session → α → Registry → Prop} {stops : Session → Registry → Prop}
    (h : ∀ session, work.Leaves .all session (fun value reached ↦
      servers session value reached ∧ good value) fails (stops session)) :
    work.Yields good fails := by
  refine fun session ↦ (h session).always.imp (fun _ _ ↦ trivial) fun out hout ↦ ?_
  obtain ⟨(cause | _) | value, reached⟩ := out
  · exact hout.1
  · trivial
  · exact hout.2

end Work

end Runbook.Session
