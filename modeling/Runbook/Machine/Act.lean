import Runbook.Machine.Request
/-!
# Acts and hosts

An act is what a program does on a machine before it has a result: it asks one request after the
other, and what it asks next depends on the answers. An act says nothing about the answers, so it
can be followed for every machine and every failure; `Act.run` follows it on one machine, given as a
state and a function that answers.

A host is a machine that acts are followed on. It answers requests one at a time. When several acts
are under way, several steps can be taken: each act can have its next request answered, and those
who look after the acts can take steps that ask nothing. The host chooses which step is taken first,
so every order in which the acts can go on is the choice of some host.
-/

set_option autoImplicit false

namespace Runbook.Machine

/-- What is done on a machine before there is a result. -/
inductive Act (α : Type) where
  | done (result : α)
  | ask (request : Request) (next : request.Reply → Act α)

namespace Act

variable {α β γ σ : Type}

/-- One act after another, which depends on the result of the first. -/
def bind (act : Act α) (next : α → Act β) : Act β :=
  match act with
  | done result => next result
  | ask request rest => ask request fun reply => bind (rest reply) next

instance : Monad Act where
  pure := done
  bind := bind

/-- Asks one request. -/
def request (r : Request) : Act r.Reply := ask r done

/-- Follows an act on a machine. -/
def run (answer : σ → (r : Request) → r.Reply × σ) : Act α → σ → α × σ
  | done result, state => (result, state)
  | ask request next, state =>
    let (reply, state) := answer state request
    run answer (next reply) state

theorem bind_done (act : Act α) : act.bind done = act := by
  induction act with
  | done result => rfl
  | ask request next ih => simp only [bind]; congr; funext reply; exact ih reply

theorem bind_bind (act : Act α) (f : α → Act β) (g : β → Act γ) :
    (act.bind f).bind g = act.bind fun a => (f a).bind g := by
  induction act with
  | done result => rfl
  | ask request next ih => simp only [bind]; congr; funext reply; exact ih reply

instance : LawfulMonad Act :=
  LawfulMonad.mk' Act (fun act => bind_done act) (fun _ _ => rfl)
    (fun act f g => bind_bind act f g)

/-- Following one act after another is following the first and then the second. -/
theorem run_bind (answer : σ → (r : Request) → r.Reply × σ) (act : Act α) (next : α → Act β)
    (state : σ) :
    (act.bind next).run answer state =
      (next (act.run answer state).1).run answer (act.run answer state).2 := by
  induction act generalizing state with
  | done result => rfl
  | ask request rest ih => exact ih _ _

/-- The act that is left of another once its next request is answered. -/
def IsRest (rest act : Act α) : Prop :=
  ∃ (request : Request) (next : request.Reply → Act α) (reply : request.Reply),
    act = ask request next ∧ rest = next reply

/-- Every act comes to an end, whatever the answers are. -/
theorem isRest_wellFounded : WellFounded (IsRest (α := α)) := by
  refine ⟨fun act => ?_⟩
  induction act with
  | done result =>
    refine ⟨_, ?_⟩
    rintro rest ⟨request, next, reply, h, -⟩
    exact nomatch h
  | ask request next ih =>
    refine ⟨_, ?_⟩
    rintro rest ⟨request, next, reply, h, rfl⟩
    cases h
    exact ih reply

end Act

/-! ### Hosts -/

/-- A step that can be taken: the answer to a request, or something that asks nothing. -/
abbrev PossibleStep := Option Request

/-- A machine with a state. -/
structure Host (σ : Type) where
  /-- The place, among the steps that can be taken, of the one that is taken first. -/
  choose : σ → List PossibleStep → Nat × σ
  answer : σ → (request : Request) → request.Reply × σ

/-- Follows one act on a host. -/
def Act.on {α σ : Type} (act : Act α) (host : Host σ) (state : σ) : α × σ :=
  act.run host.answer state

/-- The answer that a waiting request gets when its run is given up. -/
def Request.givenUp? : (request : Request) → Option request.Reply
  | .collect _ _ _ => some .abandoned
  | .readOutput _ _ => some .abandoned
  | .awaitExit _ _ => some .abandoned
  | _ => none

end Runbook.Machine
