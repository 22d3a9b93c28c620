import Runbook.Proofs.Machine.Always
/-!
# What an act does to the world

A property of all runs of an act often speaks of something that its requests change: a disk, or a
record of what has been asked. Such a world is given by its steps: from a state, by a request and
its reply, to another state. There may be several replies and several states for one request, so
operations can fail and can be left half done.

`Act.Evolves step safe ends` says of an act in a state of the world that every state on the way is
safe and that every result goes with the state at the end. It composes along `bind`
(`Act.evolves_bind`).

`Act.exchanges` is the record of one run: the requests with their replies. A record grows by one
exchange at each step (`Recording`), and what an act does to records holds of its runs
(`Evolves.exchanges`).
-/

set_option autoImplicit false

namespace Runbook.Machine

/-- The steps of a world: what a request can change, with the reply that it gets. -/
abbrev Steps (ω : Type) := ω → (request : Request) → request.Reply → ω → Prop

/-- A request with its reply. -/
abbrev Exchange := (request : Request) × request.Reply

/-- A record has one more exchange. -/
def Recording : Steps (List Exchange) := fun record request reply reached ↦
  reached = record ++ [⟨request, reply⟩]

namespace Act

variable {α β ω σ : Type} {step : Steps ω} {safe : ω → Prop}

/-- Whatever the replies are and whatever their requests change, every state that the world comes to
is safe, and every result goes with the state at the end. -/
def Evolves (step : Steps ω) (safe : ω → Prop) (ends : α → ω → Prop) : Act α → ω → Prop
  | done result, world => ends result world
  | ask request next, world => ∀ reply reached, step world request reply reached →
    safe reached ∧ Evolves step safe ends (next reply) reached

theorem evolves_bind (act : Act α) (next : α → Act β) (ends : β → ω → Prop) (world : ω) :
    (act >>= next).Evolves step safe ends world ↔
      act.Evolves step safe (fun result ↦ (next result).Evolves step safe ends) world := by
  change (act.bind next).Evolves step safe ends world ↔ _
  induction act generalizing world with
  | done result => exact Iff.rfl
  | ask request rest ih =>
    exact forall_congr' fun reply ↦ forall_congr' fun reached ↦ imp_congr_right fun _ ↦
      and_congr_right fun _ ↦ ih reply reached

theorem Evolves.imp {act : Act α} {ends weaker : α → ω → Prop} {world : ω}
    (h : act.Evolves step safe ends world)
    (hends : ∀ result reached, ends result reached → weaker result reached) :
    act.Evolves step safe weaker world := by
  induction act generalizing world with
  | done result => exact hends result world h
  | ask request next ih =>
    exact fun reply reached hstep ↦ ⟨(h reply reached hstep).1, ih reply (h reply reached hstep).2⟩

theorem Evolves.safer {act : Act α} {ends : α → ω → Prop} {world : ω} {looser : ω → Prop}
    (h : act.Evolves step safe ends world) (hsafe : ∀ reached, safe reached → looser reached) :
    act.Evolves step looser ends world := by
  induction act generalizing world with
  | done result => exact h
  | ask request next ih =>
    intro reply reached hstep
    obtain ⟨hreached, hnext⟩ := h reply reached hstep
    exact ⟨hsafe reached hreached, ih reply hnext⟩

/-- What every result has, it has whatever state it goes with. -/
theorem Evolves.and {act : Act α} {asks : Request → Prop} {ends : α → ω → Prop} {good : α → Prop}
    {world : ω} (h : act.Evolves step safe ends world) (hgood : act.Always asks good) :
    act.Evolves step safe (fun result reached ↦ ends result reached ∧ good result) world := by
  induction act generalizing world with
  | done result => exact ⟨h, hgood⟩
  | ask request next ih =>
    intro reply reached hstep
    obtain ⟨hsafe, hnext⟩ := h reply reached hstep
    exact ⟨hsafe, ih reply hnext (hgood.2 reply)⟩

/-- What the requests of an act keep, the act keeps. -/
theorem Always.evolves {act : Act α} {asks : Request → Prop} {ends : α → Prop}
    (h : act.Always asks ends) {keeps : ω → Prop}
    (hstep : ∀ world request reply reached, asks request → keeps world →
      step world request reply reached → safe reached ∧ keeps reached) {world : ω}
    (hworld : keeps world) :
    act.Evolves step safe (fun _ reached ↦ keeps reached) world := by
  induction act generalizing world with
  | done result => exact hworld
  | ask request next ih =>
    intro reply reached hreached
    obtain ⟨hsafe, hkept⟩ := hstep world request reply reached h.1 hworld hreached
    exact ⟨hsafe, ih reply (h.2 reply) hkept⟩

/-! ### Records of runs -/

/-- The requests that an act asks of a machine with the replies that it gets, in order. -/
def exchanges (answer : σ → (request : Request) → request.Reply × σ) : Act α → σ → List Exchange
  | done _, _ => []
  | ask request next, state =>
    ⟨request, (answer state request).1⟩ ::
      exchanges answer (next (answer state request).1) (answer state request).2

/-- The requests that an act asks of a host are those of the record. -/
theorem asked_eq_map_exchanges (host : Host σ) (act : Act α) (state : σ) :
    act.asked host state = (act.exchanges host.answer state).map Sigma.fst := by
  induction act generalizing state with
  | done result => rfl
  | ask request next ih => exact congrArg (request :: ·) (ih _ _)

/-- A record only grows. -/
theorem evolves_recording (act : Act α) (record : List Exchange) :
    act.Evolves Recording (fun _ ↦ True) (fun _ reached ↦ record <+: reached) record := by
  refine Always.evolves (always_true act) (fun record' request reply reached _ hkeeps hstep ↦ ?_)
    (List.prefix_refl record)
  exact ⟨trivial, hkeeps.trans (hstep ▸ List.prefix_append _ _)⟩

/-- What goes with all records holds of the record of a run. -/
theorem Evolves.exchanges {act : Act α} {ends : α → List Exchange → Prop}
    {record : List Exchange} (h : act.Evolves Recording (fun _ ↦ True) ends record)
    (answer : σ → (request : Request) → request.Reply × σ) (state : σ) :
    ends (act.run answer state).1 (record ++ act.exchanges answer state) := by
  induction act generalizing record state with
  | done result =>
    rw [Act.exchanges, List.append_nil]
    exact h
  | ask request next ih =>
    rw [Act.exchanges, List.append_cons]
    exact ih _ (h _ _ rfl).2 _

end Act

end Runbook.Machine
