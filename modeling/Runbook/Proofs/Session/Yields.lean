import Runbook.Proofs.Machine.Always
import Runbook.Proofs.Machine.Evolution
import Runbook.Session.Run
/-!
# What work in a session can come to

Work in a session is an act that also carries the session and may stop early. `after_bind` and its
neighbours give the act that a piece of work is in a session, one lemma for each way in which work
is put together. Three views rest on them.

`Work.Yields work good fails` holds of all runs at once: every value that the work can give is
`good` and every failure that it can stop with satisfies `fails`.

`follow` is one run: the result, and the session and the state of the machine at its end.
`follow_bind` and `follow_tryCatch` take it along the text of the work.

`Evolving` is `Act.Evolves` for work in a session: every state of the world on the way is safe, and
the end goes with the session and the state that are reached. There is one rule for each construct,
so it is proved along the text of the work.
-/

set_option autoImplicit false

namespace Runbook.Session

open Block Machine

/-! ### Work as an act -/

section Acts

variable {ε α β : Type}

/-- The act that work is in a session. -/
def after (work : ExceptT ε (StateT Session Act) α) (session : Session) :
    Act (Except ε α × Session) :=
  work.run.run session

theorem after_get (session : Session) :
    after (get : ExceptT ε (StateT Session Act) Session) session = pure (.ok session, session) :=
  rfl

theorem after_bind (work : ExceptT ε (StateT Session Act) α)
    (next : α → ExceptT ε (StateT Session Act) β) (session : Session) :
    after (work >>= next) session = after work session >>= fun out ↦
      match out with
      | (.ok value, session) => after (next value) session
      | (.error cause, session) => pure (.error cause, session) := by
  change (after work session).bind _ = (after work session).bind _
  congr 1
  funext out
  obtain ⟨result, session⟩ := out
  cases result <;> rfl

/-- Work that asks the machine first. -/
theorem after_ask_bind (request : Request) (next : request.Reply → Work β) (session : Session) :
    after (Work.ask request >>= next) session =
      .ask request fun reply ↦ after (next reply) session :=
  rfl

theorem after_tryCatch (work : ExceptT ε (StateT Session Act) α)
    (handle : ε → ExceptT ε (StateT Session Act) α) (session : Session) :
    after (tryCatch work handle) session = after work session >>= fun out ↦
      match out with
      | (.ok value, session) => pure (.ok value, session)
      | (.error cause, session) => after (handle cause) session := by
  change (after work session).bind _ = (after work session).bind _
  congr 1
  funext out
  obtain ⟨result, session⟩ := out
  cases result <;> rfl

end Acts

/-! ### One run -/

section Runs

variable {ε α β σ : Type} {answer : σ → (r : Request) → r.Reply × σ} {session last : Session}
  {state final : σ}

/-- One run of work, from a session and a state of the machine: the result, and the session and the
state at its end. -/
def follow (answer : σ → (r : Request) → r.Reply × σ) (work : ExceptT ε (StateT Session Act) α)
    (session : Session) (state : σ) : (Except ε α × Session) × σ :=
  (after work session).run answer state

theorem follow_bind (work : ExceptT ε (StateT Session Act) α)
    (next : α → ExceptT ε (StateT Session Act) β) (session : Session) (state : σ) :
    follow answer (work >>= next) session state =
      match follow answer work session state with
      | ((.ok value, session), state) => follow answer (next value) session state
      | ((.error cause, session), state) => ((.error cause, session), state) := by
  unfold follow
  rw [after_bind]
  refine (Act.run_bind answer _ _ state).trans ?_
  obtain ⟨⟨result, session⟩, state⟩ := (after work session).run answer state
  cases result <;> rfl

theorem follow_tryCatch (work : ExceptT ε (StateT Session Act) α)
    (handle : ε → ExceptT ε (StateT Session Act) α) (session : Session) (state : σ) :
    follow answer (tryCatch work handle) session state =
      match follow answer work session state with
      | ((.ok value, session), state) => ((.ok value, session), state)
      | ((.error cause, session), state) => follow answer (handle cause) session state := by
  unfold follow
  rw [after_tryCatch]
  refine (Act.run_bind answer _ _ state).trans ?_
  obtain ⟨⟨result, session⟩, state⟩ := (after work session).run answer state
  cases result <;> rfl

/-- A run of one piece of work after another gives a value when both give one. -/
theorem follow_bind_ok {work : ExceptT ε (StateT Session Act) α}
    {next : α → ExceptT ε (StateT Session Act) β} {value : β}
    (h : follow answer (work >>= next) session state = ((.ok value, last), final)) :
    ∃ middle between reached, follow answer work session state = ((.ok middle, between), reached) ∧
      follow answer (next middle) between reached = ((.ok value, last), final) := by
  rw [follow_bind] at h
  split at h
  · next middle between reached hwork => exact ⟨middle, between, reached, hwork, h⟩
  · cases h

/-- A run of work whose stops are handled gives a value when the work gives it or the handler
does. -/
theorem follow_tryCatch_ok {work : ExceptT ε (StateT Session Act) α}
    {handle : ε → ExceptT ε (StateT Session Act) α} {value : α}
    (h : follow answer (tryCatch work handle) session state = ((.ok value, last), final)) :
    follow answer work session state = ((.ok value, last), final) ∨
      ∃ cause between reached,
        follow answer (handle cause) between reached = ((.ok value, last), final) := by
  rw [follow_tryCatch] at h
  split at h
  · next hwork => exact .inl (hwork.trans h)
  · next cause between reached hwork => exact .inr ⟨cause, between, reached, h⟩

end Runs

/-! ### All runs -/

namespace Work

variable {α : Type} {good : α → Prop} {fails : Failure → Prop}

/-- What the result of work has to be: a good value, or a stop whose failure is allowed. -/
def Fits (good : α → Prop) (fails : Failure → Prop) : Except Stop α → Prop
  | .ok value => good value
  | .error (.failed cause) => fails cause
  | .error .abandoned => True

/-- Whatever the answers of the machine and the session are, work gives a good value or stops with a
failure that is allowed. -/
def Yields (work : Work α) (good : α → Prop) (fails : Failure → Prop) : Prop :=
  ∀ session, (after work session).Always (fun _ ↦ True) fun out ↦ Fits good fails out.1

theorem Yields.imp {work : Work α} {better : α → Prop} (h : work.Yields better fails)
    (himp : ∀ value, better value → good value) : work.Yields good fails := by
  intro session
  refine (h session).imp (fun _ hask ↦ hask) fun out hout ↦ ?_
  cases hresult : out.1 with
  | ok value =>
    rw [hresult] at hout
    exact himp value hout
  | error stop =>
    rw [hresult] at hout
    cases stop with
    | failed cause => exact hout
    | abandoned => trivial

end Work

/-! ### What work does to the world -/

open Work

variable {ε α β ω : Type} {step : Steps ω} {safe : ω → Prop} {session : Session} {world : ω}

/-- Work in a session and a state of the world: every state that the world comes to is safe, and
every end goes with the session and the state that are reached. -/
def Evolving (step : Steps ω) (safe : ω → Prop) (work : ExceptT ε (StateT Session Act) α)
    (session : Session) (world : ω) (ends : Except ε α → Session → ω → Prop) : Prop :=
  (after work session).Evolves step safe (fun out reached ↦ ends out.1 out.2 reached) world

namespace Evolving

variable {ends : Except ε α → Session → ω → Prop}

theorem imp {work : ExceptT ε (StateT Session Act) α} {weaker : Except ε α → Session → ω → Prop}
    (h : Evolving step safe work session world ends)
    (himp : ∀ result reached world, ends result reached world → weaker result reached world) :
    Evolving step safe work session world weaker :=
  Act.Evolves.imp h fun out reached hout ↦ himp out.1 out.2 reached hout

protected theorem pure {value : α} (h : ends (.ok value) session world) :
    Evolving step safe (pure value) session world ends :=
  h

protected theorem throw {cause : ε} (h : ends (.error cause) session world) :
    Evolving step safe (throw cause) session world ends :=
  h

protected theorem bind {work : ExceptT ε (StateT Session Act) α}
    {next : α → ExceptT ε (StateT Session Act) β} {between : Except ε α → Session → ω → Prop}
    {ends : Except ε β → Session → ω → Prop}
    (h : Evolving step safe work session world between)
    (hok : ∀ value session world, between (.ok value) session world →
      Evolving step safe (next value) session world ends)
    (herror : ∀ cause session world, between (.error cause) session world →
      ends (.error cause) session world) :
    Evolving step safe (work >>= next) session world ends := by
  unfold Evolving
  rw [after_bind, Act.evolves_bind]
  refine Act.Evolves.imp h fun out reached hout ↦ ?_
  obtain ⟨cause | value, session⟩ := out
  · exact herror cause session reached hout
  · exact hok value session reached hout

protected theorem tryCatch {work : ExceptT ε (StateT Session Act) α}
    {handle : ε → ExceptT ε (StateT Session Act) α} {between : Except ε α → Session → ω → Prop}
    (h : Evolving step safe work session world between)
    (hok : ∀ value session world, between (.ok value) session world →
      ends (.ok value) session world)
    (herror : ∀ cause session world, between (.error cause) session world →
      Evolving step safe (handle cause) session world ends) :
    Evolving step safe (tryCatch work handle) session world ends := by
  unfold Evolving
  rw [after_tryCatch, Act.evolves_bind]
  refine Act.Evolves.imp h fun out reached hout ↦ ?_
  obtain ⟨cause | value, session⟩ := out
  · exact herror cause session reached hout
  · exact hok value session reached hout

/-- What every end has, it has whatever state it goes with. -/
theorem and {work : ExceptT ε (StateT Session Act) α} {asks : Request → Prop}
    {good : Except ε α × Session → Prop} (h : Evolving step safe work session world ends)
    (hgood : (after work session).Always asks good) :
    Evolving step safe work session world fun result reached world ↦
      ends result reached world ∧ good (result, reached) :=
  Act.Evolves.and h hgood

/-- Work that looks at the session first. -/
protected theorem get {next : Session → ExceptT ε (StateT Session Act) β}
    {ends : Except ε β → Session → ω → Prop}
    (h : Evolving step safe (next session) session world ends) :
    Evolving step safe (MonadState.get >>= next) session world ends := by
  unfold Evolving
  rw [after_bind, after_get, pure_bind]
  exact h

/-- Work that changes the session first. -/
protected theorem modify {change : Session → Session}
    {next : PUnit → ExceptT ε (StateT Session Act) β} {ends : Except ε β → Session → ω → Prop}
    (h : Evolving step safe (next ⟨⟩) (change session) world ends) :
    Evolving step safe (modify change >>= next) session world ends := by
  unfold Evolving
  rw [after_bind]
  exact h

/-- Work that asks the machine first. -/
protected theorem ask {request : Request} {next : request.Reply → Work β}
    {ends : Except Stop β → Session → ω → Prop}
    (h : ∀ reply reached, step world request reply reached →
      safe reached ∧ Evolving step safe (next reply) session reached ends) :
    Evolving step safe (Work.ask request >>= next) session world ends :=
  h

/-- Work whose failures get a place. -/
protected theorem located {place : Failure → RunError} {work : Work α} {ends : Session → ω → Prop}
    (h : Evolving step safe work session world fun _ ↦ ends) :
    Evolving step safe (located place work) session world fun _ ↦ ends := by
  refine (Act.evolves_bind (after work session) _ _ _).2 ?_
  refine Act.Evolves.imp h fun out reached hout ↦ ?_
  obtain ⟨(cause | _) | value, session⟩ := out <;> exact hout

end Evolving

end Runbook.Session
