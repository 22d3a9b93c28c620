import Runbook.Machine.Act
import Runbook.Path.Basic
/-!
# What holds whatever the answers are

An act is a tree of requests, so a property of all its runs is a property of the tree.
`Act.Always asks ends` says that every request that the act can ask has the property `asks` and
every result that it can come to has the property `ends`. It composes along `bind`
(`Act.always_bind`), and it holds of every run: `Act.Always.run` for the result,
`Act.Always.on_logging` for the requests.

`Host.logging` is a host that behaves like another one and keeps the requests that it has answered,
in order. It makes "nothing was asked but this" a statement about a run, and keeping the requests
changes neither the result nor the state of the host. `Act.asked` is what it keeps of one act
(`Act.on_logging_asked`).

`Act.Looks` is the case of `Act.Always` in which all requests only look at files. A run that asked
for nothing else has left on the machine what looks leave (`Act.on_of_looks`). While the answers to
looks stay the same, its result is what `Act.under` computes from them (`Act.on_eq_under`).

Two hosts are for runs on fixed inputs: `Host.answering` answers each request in one way, and
`Request.easyReply` is the answer of a machine on which all goes well.

Some machines never give a certain answer; one that never gives up a run is the case that matters
here. `Act.AlwaysUnder` is `Act.Always` for the answers that a machine may give: every request that
can be asked under these answers has one property, and every result that can be reached under them
has another. It composes along `bind` in the same way. When every answer may be given it is
`Act.Always` (`AlwaysUnder.always`), and it holds of every run on a machine that keeps to the
answers (`AlwaysUnder.run`).

`GivesUp` says of a set of answers that a waiting request may be answered by giving the run up.
-/

set_option autoImplicit false

namespace Runbook.Machine

/-! ### Hosts -/

/-- A host that behaves like another one and keeps the requests that it has answered. -/
def Host.logging {σ : Type} (host : Host σ) : Host (σ × List Request) where
  choose := fun (state, log) steps ↦
    let (place, state) := host.choose state steps
    (place, (state, log))
  answer := fun (state, log) request ↦
    let (reply, state) := host.answer state request
    (reply, (state, log ++ [request]))

/-- A host that answers each request in one way. -/
def Host.answering {σ : Type} (choose : σ → List PossibleStep → Nat × σ)
    (reply : (request : Request) → request.Reply) : Host σ where
  choose := choose
  answer := fun state request ↦ (reply request, state)

/-- Whether a request only looks at files. -/
def Request.isLook : Request → Bool
  | .entryKind _ _ => true
  | .mode _ => true
  | .entries _ => true
  | .canonical _ => true
  | .readText _ => true
  | .readBytes _ => true
  | .readLink _ => true
  | _ => false

/-- The answer of a machine on which every operation succeeds and changes nothing: every path leads
to an empty directory, every file is empty, and every process ends well without printing. -/
def Request.easyReply : (request : Request) → request.Reply
  | .entryKind _ _ => Except.ok EntryKind.directory
  | .mode _ => Except.ok 0o644
  | .entries _ => Except.ok []
  | .canonical path => Except.ok path
  | .readText _ => Except.ok ""
  | .readBytes _ => Except.ok []
  | .readLink path => Except.ok path
  | .makeDirectories _ => Except.ok ()
  | .makeTempFile directory ending => Except.ok (Path.join directory ending)
  | .makeTempDirectory parent => Except.ok (Path.join parent "new")
  | .writeTemp _ _ => Except.ok ()
  | .flush _ => Except.ok ()
  | .sync _ => Except.ok ()
  | .setMode _ _ => Except.ok ()
  | .rename _ _ => Except.ok ()
  | .discardFile _ => ()
  | .discardTree _ => ()
  | .removeTree _ => Except.ok ()
  | .copyFile _ _ => Except.ok ()
  | .makeLink _ _ => Except.ok ()
  | .writeFile _ _ => Except.ok ()
  | .clock => (0 : Instant)
  | .spawn _ => Except.ok (0 : ProcessId)
  | .collect _ _ _ => Awaited.arrived (Collected.ended (.exited 0) [] [] none)
  | .readOutput _ _ => Awaited.arrived Chunk.closed
  | .drainOutput _ => ()
  | .poll _ => some (ExitStatus.exited 0)
  | .awaitExit _ _ => Awaited.arrived (Ended.status (.exited 0))
  | .signalGroup _ _ => ()
  | .release _ => ()
  | .log _ _ => ()

/-! ### Answers -/

/-- Answers that a machine may give. -/
abbrev Answers := (request : Request) → request.Reply → Prop

/-- All answers. -/
def Answers.all : Answers := fun _ _ ↦ True

/-- The answers by which no run is given up. -/
def Answers.lasting : Answers := fun request reply ↦ request.givenUp? ≠ some reply

/-- Among the answers is one by which a run is given up. -/
def Answers.GivesUp (answers : Answers) : Prop :=
  ∃ request reply, answers request reply ∧ request.givenUp? = some reply

theorem Answers.not_givesUp_lasting : ¬ lasting.GivesUp := by
  rintro ⟨request, reply, hreply, hgivenUp⟩
  exact hreply hgivenUp

/-- A machine gives only some answers. -/
def Keeps {σ : Type} (answer : σ → (request : Request) → request.Reply × σ) (answers : Answers) :
    Prop :=
  ∀ state request, answers request (answer state request).1

theorem keeps_all {σ : Type} (answer : σ → (request : Request) → request.Reply × σ) :
    Keeps answer .all :=
  fun _ _ ↦ trivial

namespace Act

/-! ### What always holds of an act -/

variable {α β σ : Type} {asks : Request → Prop}

/-- Every request that an act can ask has one property and every result that it can come to has
another, whatever the answers are. -/
def Always (asks : Request → Prop) (ends : α → Prop) : Act α → Prop
  | done result => ends result
  | ask request next => asks request ∧ ∀ reply, Always asks ends (next reply)

theorem always_bind (act : Act α) (next : α → Act β) (ends : β → Prop) :
    (act >>= next).Always asks ends ↔ act.Always asks fun a ↦ (next a).Always asks ends := by
  change (act.bind next).Always asks ends ↔ _
  induction act with
  | done result => exact Iff.rfl
  | ask request rest ih => exact and_congr_right fun _ ↦ forall_congr' ih

theorem Always.imp {act : Act α} {wider : Request → Prop} {ends weaker : α → Prop}
    (h : act.Always asks ends) (hasks : ∀ request, asks request → wider request)
    (hends : ∀ result, ends result → weaker result) : act.Always wider weaker := by
  induction act with
  | done result => exact hends result h
  | ask request next ih => exact ⟨hasks request h.1, fun reply ↦ ih reply (h.2 reply)⟩

/-- Two acts that go on in the same way from every result that the first part can come to. -/
theorem Always.bind_congr {act : Act α} {ends : α → Prop} (h : act.Always asks ends)
    {next other : α → Act β} (hnext : ∀ result, ends result → next result = other result) :
    act >>= next = act >>= other := by
  change act.bind next = act.bind other
  induction act with
  | done result => exact hnext result h
  | ask request rest ih => exact congrArg (ask request) (funext fun reply ↦ ih reply (h.2 reply))

/-- What holds whatever the answers are holds of the result of a run. -/
theorem Always.run {act : Act α} {ends : α → Prop} (h : act.Always asks ends)
    (answer : σ → (r : Request) → r.Reply × σ) (state : σ) : ends (act.run answer state).1 := by
  induction act generalizing state with
  | done result => exact h
  | ask request next ih => exact ih _ (h.2 _) _

/-! ### Keeping the requests -/

/-- Keeping the requests changes neither the result nor the state. Those that are kept come after
those that were kept before, and all have a property that holds of every request that the act can
ask. -/
theorem Always.on_logging {act : Act α} {ends : α → Prop} (h : act.Always asks ends)
    (host : Host σ) (state : σ) (log : List Request) :
    ∃ asked, act.on host.logging (state, log) =
        ((act.on host state).1, (act.on host state).2, log ++ asked) ∧
      ∀ request ∈ asked, asks request := by
  unfold Act.on
  induction act generalizing state log with
  | done result => exact ⟨[], by rw [List.append_nil]; rfl, nofun⟩
  | ask request next ih =>
    obtain ⟨asked, hrun, hasked⟩ :=
      ih (host.answer state request).1 (h.2 _) (host.answer state request).2 (log ++ [request])
    refine ⟨request :: asked, ?_, ?_⟩
    · rw [List.append_assoc, List.singleton_append] at hrun
      exact hrun
    · intro later hlater
      rcases List.mem_cons.1 hlater with rfl | hlater
      · exact h.1
      · exact hasked later hlater

theorem always_true (act : Act α) : act.Always (fun _ ↦ True) fun _ ↦ True := by
  induction act with
  | done result => trivial
  | ask request next ih => exact ⟨trivial, ih⟩

/-- Following an act on a host that keeps the requests. -/
theorem on_logging (act : Act α) (host : Host σ) (state : σ) (log : List Request) :
    ∃ asked, act.on host.logging (state, log) =
      ((act.on host state).1, (act.on host state).2, log ++ asked) := by
  obtain ⟨asked, hrun, -⟩ := (always_true act).on_logging host state log
  exact ⟨asked, hrun⟩

/-- The request that an act asks first is kept first. -/
theorem on_logging_ask (request : Request) (next : request.Reply → Act α) (host : Host σ)
    (state : σ) (log : List Request) :
    ∃ asked, (ask request next).on host.logging (state, log) =
      (((ask request next).on host state).1, ((ask request next).on host state).2,
        log ++ request :: asked) := by
  obtain ⟨asked, hrun⟩ := (next (host.answer state request).1).on_logging host
    (host.answer state request).2 (log ++ [request])
  refine ⟨asked, ?_⟩
  rw [List.append_assoc, List.singleton_append] at hrun
  exact hrun

/-- Following an act on a host begins with the answer to its first request. -/
theorem on_ask (request : Request) (next : request.Reply → Act α) (host : Host σ) (state : σ) :
    (ask request next).on host state =
      (next (host.answer state request).1).on host (host.answer state request).2 :=
  rfl

/-- Following one act after another on a host. -/
theorem on_bind (act : Act α) (next : α → Act β) (host : Host σ) (state : σ) :
    (act >>= next).on host state =
      (next (act.on host state).1).on host (act.on host state).2 :=
  run_bind host.answer act next state

/-! ### The requests of an act -/

/-- The requests that an act asks of a host, in order. -/
def asked (host : Host σ) : Act α → σ → List Request
  | done _, _ => []
  | ask request next, state =>
    request :: asked host (next (host.answer state request).1) (host.answer state request).2

theorem on_logging_asked (act : Act α) (host : Host σ) (state : σ) (log : List Request) :
    act.on host.logging (state, log) =
      ((act.on host state).1, (act.on host state).2, log ++ act.asked host state) := by
  unfold on
  induction act generalizing state log with
  | done result =>
    rw [asked, List.append_nil]
    rfl
  | ask request next ih =>
    rw [asked, List.append_cons]
    exact ih _ _ _

theorem asked_bind (act : Act α) (next : α → Act β) (host : Host σ) (state : σ) :
    (act >>= next).asked host state = act.asked host state ++
      (next (act.on host state).1).asked host (act.on host state).2 := by
  change (act.bind next).asked host state = _
  unfold on
  induction act generalizing state with
  | done result => rfl
  | ask request rest ih => exact congrArg (request :: ·) (ih _ _)

/-- What holds of all requests that an act can ask holds of those that it asks. -/
theorem Always.of_mem_asked {asks : Request → Prop} {ends : α → Prop} {act : Act α}
    (h : act.Always asks ends) (host : Host σ) (state : σ) :
    ∀ request ∈ act.asked host state, asks request := by
  induction act generalizing state with
  | done result => nofun
  | ask request next ih =>
    intro other hother
    rcases List.mem_cons.1 hother with rfl | hother
    · exact h.1
    · exact ih _ (h.2 _) _ other hother

/-- A machine that no answer changes is left as it was. -/
theorem on_of_still {host : Host σ} (h : ∀ state request, (host.answer state request).2 = state)
    (act : Act α) (state : σ) : (act.on host state).2 = state := by
  unfold on
  induction act generalizing state with
  | done result => rfl
  | ask request next ih => exact (ih _ _).trans (h state request)

/-! ### Looking -/

/-- An act that only looks at files. -/
def Looks (act : Act α) : Prop :=
  act.Always (fun request ↦ request.isLook = true) fun _ ↦ True

theorem looks_pure (result : α) : (pure result : Act α).Looks := trivial

theorem looks_request {r : Request} (h : r.isLook = true) : (Act.request r).Looks :=
  ⟨h, fun _ ↦ trivial⟩

theorem Looks.bind {act : Act α} {next : α → Act β} (h : act.Looks)
    (hnext : ∀ a, (next a).Looks) : (act >>= next).Looks :=
  (always_bind act next _).2 (h.imp (fun _ hask ↦ hask) fun a _ ↦ hnext a)

/-- An act that has asked only for looks leaves on the machine what looks leave. -/
theorem on_of_looks {σ φ : Type} {host : Host σ} {view : σ → φ}
    (hlook : ∀ state request, request.isLook = true →
      view (host.answer state request).2 = view state)
    (act : Act α) (state : σ) (h : ∀ request ∈ act.asked host state, request.isLook = true) :
    view (act.on host state).2 = view state := by
  unfold on
  induction act generalizing state with
  | done result => rfl
  | ask request next ih =>
    obtain ⟨hfirst, hrest⟩ := List.forall_mem_cons.1 h
    exact (ih _ _ hrest).trans (hlook state request hfirst)

/-- The result of an act when each request has one answer. -/
def under (reply : (request : Request) → request.Reply) : Act α → α
  | done result => result
  | ask request next => under reply (next (reply request))

theorem under_bind (reply : (request : Request) → request.Reply) (act : Act α) (next : α → Act β) :
    (act >>= next).under reply = (next (act.under reply)).under reply := by
  change (act.bind next).under reply = _
  induction act with
  | done result => rfl
  | ask request rest ih => exact ih _

theorem under_request (reply : (request : Request) → request.Reply) (r : Request) :
    (Act.request r).under reply = reply r :=
  rfl

/-- An act that only looks at files has the result that the answers to looks give. -/
theorem on_eq_under {σ : Type} {act : Act α} (h : act.Looks) {host : Host σ}
    {reply : (request : Request) → request.Reply}
    (hreply : ∀ state request, request.isLook = true →
      (host.answer state request).1 = reply request)
    (state : σ) : (act.on host state).1 = act.under reply := by
  unfold on
  induction act generalizing state with
  | done result => rfl
  | ask request next ih =>
    rw [under, ← hreply state request h.1]
    exact ih _ (h.2 _) _

/-! ### Machines that give some answers only -/

variable {answers : Answers}

/-- Every request that an act can ask under some answers has one property and every result that it
can come to under them has another. -/
def AlwaysUnder (answers : Answers) (asks : Request → Prop) (ends : α → Prop) : Act α → Prop
  | done result => ends result
  | ask request next =>
    asks request ∧ ∀ reply, answers request reply → AlwaysUnder answers asks ends (next reply)

theorem alwaysUnder_bind (act : Act α) (next : α → Act β) (ends : β → Prop) :
    (act >>= next).AlwaysUnder answers asks ends ↔
      act.AlwaysUnder answers asks fun a ↦ (next a).AlwaysUnder answers asks ends := by
  change (act.bind next).AlwaysUnder answers asks ends ↔ _
  induction act with
  | done result => exact Iff.rfl
  | ask request rest ih =>
    exact and_congr_right fun _ ↦ forall_congr' fun reply ↦ forall_congr' fun _ ↦ ih reply

theorem AlwaysUnder.imp {act : Act α} {ends weaker : α → Prop}
    (h : act.AlwaysUnder answers asks ends) (hends : ∀ result, ends result → weaker result) :
    act.AlwaysUnder answers asks weaker := by
  induction act with
  | done result => exact hends result h
  | ask request next ih => exact ⟨h.1, fun reply hreply ↦ ih reply (h.2 reply hreply)⟩

/-- What can be asked stays so when more can be. -/
theorem AlwaysUnder.widen {act : Act α} {ends : α → Prop} {wider : Request → Prop}
    (h : act.AlwaysUnder answers asks ends) (hasks : ∀ request, asks request → wider request) :
    act.AlwaysUnder answers wider ends := by
  induction act with
  | done result => exact h
  | ask request next ih =>
    exact ⟨hasks request h.1, fun reply hreply ↦ ih reply (h.2 reply hreply)⟩

/-- What holds under all answers holds always. -/
theorem AlwaysUnder.always {act : Act α} {ends : α → Prop}
    (h : act.AlwaysUnder .all asks ends) : act.Always asks ends := by
  induction act with
  | done result => exact h
  | ask request next ih => exact ⟨h.1, fun reply ↦ ih reply (h.2 reply trivial)⟩

/-- What holds under some answers holds of the result of a run on a machine that gives no others. -/
theorem AlwaysUnder.run {act : Act α} {ends : α → Prop} (h : act.AlwaysUnder answers asks ends)
    {answer : σ → (r : Request) → r.Reply × σ} (hanswer : Keeps answer answers) (state : σ) :
    ends (act.run answer state).1 := by
  induction act generalizing state with
  | done result => exact h
  | ask request next ih => exact ih _ (h.2 _ (hanswer state request)) _

end Act

end Runbook.Machine
