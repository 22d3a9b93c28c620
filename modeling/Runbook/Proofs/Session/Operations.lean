import Mathlib.Data.Finset.Sort
import Runbook.Proofs.Session.Handlers
/-!
# Operations on the servers of a session

A session has six operations on its servers: the blocks that start and stop one, the check that a
name is free, taking a server out, and the two ways to end the session. `perform` does any list of
them on a host, in one session, and keeps for each of them what it came to, what it asked of the
host and which servers were running afterwards.

The reference is a machine that keeps a set of names and nothing else. A start that succeeds adds a
name, stopping and taking remove one, the two ends empty the set (`Turn.effect`), and the set
decides what an operation may come to (`Turn.Agrees`). `Represents` relates a registry to a set; one
operation keeps it (`turn_agrees`), and from there `Refines` holds of every list of operations
(`perform_refines`).

That a server is registered under a name that is taken cannot happen to a block: whatever is done
then (`startOr`), a block that starts a server is the same act (`after_startOr`).
-/

set_option autoImplicit false

namespace Runbook.Session

open Block Document Machine Work

/-! ### Operations -/

/-- An operation on the servers of a session. -/
inductive Operation where
  | start (block : StartServer)
  | stop (block : StopServer)
  | requireVacant (name : String)
  | take (name : String)
  | finish
  | abort

/-- What an operation does. -/
def Operation.work : Operation → Work Unit
  | start block => do let _ ← runStartServer block
  | stop block => do let _ ← runStopServer block
  | requireVacant name => Session.requireVacant name
  | take name => do let _ ← takeServer name
  | finish => Session.finish
  | abort => Session.abort

/-- An operation that has been done in a session. -/
structure Turn where
  operation : Operation
  result : Except Stop Unit
  /-- What was asked of the host. -/
  requests : List Request
  /-- The names of the servers that are running afterwards. -/
  names : List String

section Perform

variable {σ : Type}

/-- Operations one after the other on a host. -/
def perform (host : Host σ) : List Operation → Session → σ → List Turn
  | [], _, _ => []
  | operation :: rest, session, state =>
    let ((result, reached), next) := (after operation.work session).on host state
    let requests := (after operation.work session).asked host state
    ⟨operation, result, requests, reached.servers.names⟩ :: perform host rest reached next

end Perform

/-! ### The reference -/

namespace Turn

/-- The names that are registered after a turn, given those before it. -/
def effect (turn : Turn) (registered : Finset String) : Finset String :=
  match turn.operation, turn.result with
  | .start block, .ok _ => insert block.name registered
  | .start _, .error _ => registered
  | .stop block, _ => registered.erase block.name
  | .requireVacant _, _ => registered
  | .take name, _ => registered.erase name
  | .finish, _ => ∅
  | .abort, _ => ∅

/-- A turn came to something without asking the host. -/
def Gives (turn : Turn) (result : Except Stop Unit) : Prop :=
  turn.result = result ∧ turn.requests = []

/-- A turn failed with the name of a server that must not or must be running. -/
def FailsWith (turn : Turn) (cause : Unmet) : Prop := turn.result = .error (.failed (.unmet cause))

/-- A turn came to what it may come to when some names are registered. A start fails because a
server is running exactly when its name is registered, and a stop because none is exactly when its
name is not; neither asks anything then. The check and the taking are decided by the set alone. The
end of a session fails exactly when the set is not empty and names it in order, unless it is given
up while servers are being stopped; ending it after a failure never fails. -/
def Agrees (turn : Turn) (registered : Finset String) : Prop :=
  match turn.operation with
  | .start block =>
    (∀ name, turn.FailsWith (.serverRunning name) ↔
      name = block.name ∧ block.name ∈ registered) ∧
    (block.name ∈ registered → turn.requests = [])
  | .stop block =>
    (∀ name, turn.FailsWith (.noServer name) ↔ name = block.name ∧ block.name ∉ registered) ∧
    (block.name ∉ registered → turn.requests = [])
  | .requireVacant name =>
    turn.Gives (if name ∈ registered then .error (.failed (.unmet (.serverRunning name)))
      else .ok ())
  | .take name =>
    turn.Gives (if name ∈ registered then .ok () else .error (.failed (.unmet (.noServer name))))
  | .finish =>
    if registered = ∅ then turn.Gives (.ok ())
    else turn.result = .error (.failed (.leaked registered.sort)) ∨
      turn.result = .error .abandoned
  | .abort => turn.result = .ok () ∨ turn.result = .error .abandoned

end Turn

/-- Turns, one after the other, agree with the set of names that the turns before them have left,
and each of them leaves the servers with the names of that set, in order. -/
inductive Refines : Finset String → List Turn → Prop where
  | nil (registered : Finset String) : Refines registered []
  | cons {registered : Finset String} {turn : Turn} {later : List Turn}
      (hagrees : turn.Agrees registered) (hnames : turn.names = (turn.effect registered).sort)
      (hlater : Refines (turn.effect registered) later) : Refines registered (turn :: later)

/-- What turns that agree have left is what later turns start from. -/
theorem Refines.of_append {registered : Finset String} {earlier later : List Turn}
    (h : Refines registered (earlier ++ later)) :
    Refines (earlier.foldl (fun names turn ↦ turn.effect names) registered) later := by
  induction earlier generalizing registered with
  | nil => exact h
  | cons turn earlier ih =>
    obtain _ | ⟨-, -, hlater⟩ := h
    exact ih hlater

/-- After the end of a session it can be ended once more, without failing. -/
theorem Refines.finish_finish {registered : Finset String} {earlier later : List Turn}
    {first second : Turn} (h : Refines registered (earlier ++ first :: second :: later))
    (hfirst : first.operation = .finish) (hsecond : second.operation = .finish) :
    second.Gives (.ok ()) := by
  obtain _ | ⟨-, -, hlater⟩ := h.of_append
  have hempty : ∀ names, first.effect names = ∅ := fun names ↦ by rw [Turn.effect, hfirst]
  rw [hempty] at hlater
  obtain _ | ⟨hagrees, -, -⟩ := hlater
  rw [Turn.Agrees, hsecond] at hagrees
  exact hagrees

/-! ### Registries and sets of names -/

/-- The servers of a registry have the names of a set. -/
structure Represents (servers : Registry) (registered : Finset String) : Prop where
  ordered : servers.Ordered
  mem_names : ∀ name, name ∈ servers.names ↔ name ∈ registered

namespace Represents

variable {servers : Registry} {registered : Finset String}

theorem nil : Represents [] ∅ := ⟨Registry.ordered_nil, fun _ ↦ by simp [Registry.names]⟩

/-- The names of a registry are those of the set, in order. -/
theorem names_eq (h : Represents servers registered) : servers.names = registered.sort := by
  have hset : registered = servers.names.toFinset := by
    ext name
    rw [List.mem_toFinset, h.mem_names]
  rw [hset]
  exact ((List.toFinset_sort _ (h.ordered.imp ne_of_lt)).2 (h.ordered.imp le_of_lt)).symm

theorem eq_empty (h : Represents servers registered) : servers = [] ↔ registered = ∅ := by
  rw [Finset.eq_empty_iff_forall_notMem]
  simp_rw [← h.mem_names]
  rw [← List.eq_nil_iff_forall_not_mem, Registry.names, List.map_eq_nil_iff]

theorem contains_eq (h : Represents servers registered) (name : String) :
    servers.contains name = decide (name ∈ registered) := by
  rw [Bool.eq_iff_iff, Registry.contains_eq_true, decide_eq_true_iff, h.mem_names]

/-- A server is found exactly when its name is in the set. -/
theorem find?_isSome (h : Represents servers registered) (name : String) :
    (servers.find? name).isSome = decide (name ∈ registered) := by
  rw [← h.contains_eq, Registry.find?, List.isSome_find?]
  rfl

theorem find?_eq_none (h : Represents servers registered) {name : String}
    (hfree : name ∉ registered) : servers.find? name = none := by
  rw [← Option.isNone_iff_eq_none, ← Option.not_isSome, h.find?_isSome, decide_eq_false hfree]
  rfl

theorem insert {server : Server} {name : String} (h : Represents servers registered)
    (hname : server.name = name) (hfree : name ∉ registered) :
    Represents (servers.insert server) (Insert.insert name registered) := by
  subst hname
  refine ⟨h.ordered.insert ((h.mem_names _).not.2 hfree), fun name ↦ ?_⟩
  rw [Registry.mem_names_insert, Finset.mem_insert, h.mem_names]

theorem erase (h : Represents servers registered) (name : String) :
    Represents (servers.erase name) (registered.erase name) where
  ordered := h.ordered.erase name
  mem_names other := by rw [Registry.mem_names_erase, Finset.mem_erase, h.mem_names]

/-- Taking a name out that is not in the set changes nothing. -/
theorem erase_of_notMem (h : Represents servers registered) {name : String}
    (hfree : name ∉ registered) : Represents servers (registered.erase name) := by
  rwa [Finset.erase_eq_of_notMem hfree]

end Represents

/-! ### Operations that ask nothing -/

section Immediate

variable {session : Session} {name : String}

/-- A start of a server whose name is taken is over at once. -/
theorem after_start_of_contains {block : StartServer}
    (h : session.servers.contains block.name = true) : after (Operation.start block).work session =
      pure (.error (.failed (.unmet (.serverRunning block.name))), session) := by
  rw [Operation.work, after_bind, runStartServer, after_bind, after_requireVacant, if_pos h]
  rfl

theorem after_takeServer_of_find? (h : session.servers.find? name = none) :
    after (takeServer name) session =
      pure (.error (.failed (.unmet (.noServer name))), session) := by
  rw [takeServer, after_bind, after_get, pure_bind]
  simp only [h]
  rfl

/-- Taking a server that is not running is over at once. -/
theorem after_take_of_find?_none (h : session.servers.find? name = none) :
    after (Operation.take name).work session =
      pure (.error (.failed (.unmet (.noServer name))), session) := by
  rw [Operation.work, after_bind, after_takeServer_of_find? h]
  rfl

/-- A stop of a server that is not running is over at once. -/
theorem after_stop_of_find?_none {block : StopServer}
    (h : session.servers.find? block.name = none) : after (Operation.stop block).work session =
      pure (.error (.failed (.unmet (.noServer block.name))), session) := by
  rw [Operation.work, after_bind, runStopServer, after_bind, after_takeServer_of_find? h]
  rfl

theorem after_take_of_find? {server : Server} (h : session.servers.find? name = some server) :
    after (Operation.take name).work session =
      pure (.ok (), { session with servers := session.servers.erase name }) := by
  rw [Operation.work, after_bind, takeServer, after_bind, after_get, pure_bind]
  simp only [h]
  rfl

theorem after_finish_of_nil (h : session.servers = []) :
    after Operation.finish.work session = pure (.ok (), session) := by
  rw [Operation.work, finish, after_bind, after_get, pure_bind]
  simp only [h]
  rfl

end Immediate

/-! ### One operation -/

section Settles

variable {σ : Type} {host : Host σ} {operation : Operation} {session reached : Session}
  {registered : Finset String} {result : Except Stop Unit}

/-- An operation that came to a result agrees with a set of names, and the servers that it left have
the names of the set afterwards. -/
def Operation.Settles (operation : Operation) (registered : Finset String)
    (result : Except Stop Unit) (requests : List Request) (servers : Registry) : Prop :=
  let turn : Turn := ⟨operation, result, requests, servers.names⟩
  turn.Agrees registered ∧ Represents servers (turn.effect registered)

/-- An operation settles on a host, from a session and a state of the host. -/
def SettlesOn (host : Host σ) (operation : Operation) (registered : Finset String)
    (session : Session) (state : σ) : Prop :=
  let ((result, reached), _) := (after operation.work session).on host state
  operation.Settles registered result ((after operation.work session).asked host state)
    reached.servers

/-- An operation that is over at once asks nothing of the host. -/
theorem SettlesOn.of_after (h : after operation.work session = pure (result, reached))
    (hsettles : operation.Settles registered result [] reached.servers) (state : σ) :
    SettlesOn host operation registered session state := by
  unfold SettlesOn
  rw [h]
  exact hsettles

/-- An operation settles on every host when it settles whatever it comes to. -/
theorem SettlesOn.of_leaves {good : Unit → Registry → Prop} {fails : Failure → Prop}
    {stops : Registry → Prop} (h : operation.work.Leaves .all session good fails stops)
    (hok : ∀ requests servers, good () servers →
      operation.Settles registered (.ok ()) requests servers)
    (hfailed : ∀ cause requests servers, fails cause → stops servers →
      operation.Settles registered (.error (.failed cause)) requests servers)
    (habandoned : ∀ requests servers, stops servers →
      operation.Settles registered (.error .abandoned) requests servers) (state : σ) :
    SettlesOn host operation registered session state := by
  unfold SettlesOn
  have hends := h.follow (keeps_all host.answer) state
  change Outcome .all good fails stops ((after operation.work session).on host state).1 at hends
  generalize (after operation.work session).on host state = out at hends ⊢
  obtain ⟨⟨(cause | _) | _, reached⟩, final⟩ := out
  · exact hfailed cause _ _ hends.1 hends.2
  · exact habandoned _ _ hends.2
  · exact hok _ _ hends

/-- A start of a server whose name is free agrees when it does not fail because a server is
running. -/
theorem agrees_start_of_notMem {block : StartServer} {requests : List Request}
    {names : List String} (hfree : block.name ∉ registered)
    (hresult : ∀ name, result ≠ .error (.failed (.unmet (.serverRunning name)))) :
    Turn.Agrees ⟨.start block, result, requests, names⟩ registered :=
  ⟨fun name ↦ iff_of_false (hresult name) fun h ↦ hfree h.2, fun h ↦ absurd h hfree⟩

/-- A stop of a server that is running agrees when it does not fail because none is. -/
theorem agrees_stop_of_mem {block : StopServer} {requests : List Request} {names : List String}
    (hfound : block.name ∈ registered)
    (hresult : ∀ name, result ≠ .error (.failed (.unmet (.noServer name)))) :
    Turn.Agrees ⟨.stop block, result, requests, names⟩ registered :=
  ⟨fun name ↦ iff_of_false (hresult name) fun h ↦ h.2 hfound, fun h ↦ absurd hfound h⟩

theorem settles_start (block : StartServer) (h : Represents session.servers registered)
    (state : σ) : SettlesOn host (.start block) registered session state := by
  by_cases htaken : block.name ∈ registered
  · refine .of_after (after_start_of_contains ((h.contains_eq _).trans (decide_eq_true htaken)))
      ⟨⟨fun name ↦ ⟨?_, ?_⟩, fun _ ↦ rfl⟩, h⟩ state
    · rintro ⟨⟩
      exact ⟨rfl, htaken⟩
    · rintro ⟨rfl, -⟩
      rfl
  · refine .of_leaves ((leaves_runStartServer block).void fun _ _ hgood ↦ hgood.1) ?_ ?_ ?_ state
    · rintro requests servers ⟨-, server, hname, rfl⟩
      exact ⟨agrees_start_of_notMem htaken nofun, h.insert hname htaken⟩
    · rintro cause requests servers (⟨-, hmem⟩ | ⟨hexternal, -⟩) rfl
      · exact absurd ((h.mem_names _).1 hmem) htaken
      · refine ⟨agrees_start_of_notMem htaken ?_, h⟩
        rintro name ⟨⟩
        cases hexternal
    · rintro requests servers rfl
      exact ⟨agrees_start_of_notMem htaken nofun, h⟩

theorem settles_stop (block : StopServer) (h : Represents session.servers registered)
    (state : σ) : SettlesOn host (.stop block) registered session state := by
  by_cases hfound : block.name ∈ registered
  · refine .of_leaves ((leaves_runStopServer block).void fun _ _ hgood ↦ hgood.1) ?_ ?_ ?_ state
    · rintro requests servers ⟨-, rfl⟩
      exact ⟨agrees_stop_of_mem hfound nofun, h.erase _⟩
    · rintro cause requests servers (⟨-, hmem⟩ | ⟨hexternal, -⟩) rfl
      · exact absurd ((h.mem_names _).2 hfound) hmem
      · refine ⟨agrees_stop_of_mem hfound ?_, h.erase _⟩
        rintro name ⟨⟩
        cases hexternal
    · rintro requests servers rfl
      exact ⟨agrees_stop_of_mem hfound nofun, h.erase _⟩
  · refine .of_after (after_stop_of_find?_none (h.find?_eq_none hfound))
      ⟨⟨fun name ↦ ⟨?_, ?_⟩, fun _ ↦ rfl⟩, ?_⟩ state
    · rintro ⟨⟩
      exact ⟨rfl, hfound⟩
    · rintro ⟨rfl, -⟩
      rfl
    · exact h.erase_of_notMem hfound

theorem settles_requireVacant (name : String) (h : Represents session.servers registered)
    (state : σ) : SettlesOn host (.requireVacant name) registered session state := by
  have hafter : after (Operation.requireVacant name).work session = _ :=
    after_requireVacant name session
  refine .of_after hafter ⟨⟨?_, rfl⟩, h⟩ state
  rw [h.contains_eq]
  simp only [decide_eq_true_eq]

theorem settles_take (name : String) (h : Represents session.servers registered) (state : σ) :
    SettlesOn host (.take name) registered session state := by
  have hfind := h.find?_isSome name
  by_cases hfound : name ∈ registered
  · obtain ⟨server, hserver⟩ := Option.isSome_iff_exists.1 (hfind.trans (decide_eq_true hfound))
    exact .of_after (after_take_of_find? hserver) ⟨⟨(if_pos hfound).symm, rfl⟩, h.erase name⟩ state
  · refine .of_after (after_take_of_find?_none (h.find?_eq_none hfound))
      ⟨⟨(if_neg hfound).symm, rfl⟩, ?_⟩ state
    exact h.erase_of_notMem hfound

theorem settles_finish (h : Represents session.servers registered) (state : σ) :
    SettlesOn host .finish registered session state := by
  by_cases hempty : registered = ∅
  · have hservers := h.eq_empty.2 hempty
    refine .of_after (after_finish_of_nil hservers) ⟨?_, hservers ▸ .nil⟩ state
    rw [Turn.Agrees, if_pos hempty]
    exact ⟨rfl, rfl⟩
  · have hagrees : ∀ result requests names, result = .error (.failed (.leaked registered.sort)) ∨
        result = .error .abandoned → Turn.Agrees ⟨.finish, result, requests, names⟩ registered :=
      fun _ _ _ hresult ↦ by rwa [Turn.Agrees, if_neg hempty]
    refine .of_leaves leaves_finish ?_ ?_ ?_ state
    · rintro requests servers ⟨hnil, -⟩
      exact absurd (h.eq_empty.1 hnil) hempty
    · rintro cause requests servers ⟨-, rfl⟩ rfl
      exact ⟨hagrees _ _ _ (.inl (by rw [h.names_eq])), .nil⟩
    · rintro requests servers rfl
      exact ⟨hagrees _ _ _ (.inr rfl), .nil⟩

theorem settles_abort (state : σ) : SettlesOn host .abort registered session state := by
  refine .of_leaves leaves_abort ?_ nofun ?_ state
  · rintro requests servers rfl
    exact ⟨.inl rfl, .nil⟩
  · rintro requests servers rfl
    exact ⟨.inr rfl, .nil⟩

/-- Every operation agrees with the set of names that the servers have, and leaves them with the
names of the set afterwards. -/
theorem settles (operation : Operation) (h : Represents session.servers registered) (state : σ) :
    SettlesOn host operation registered session state := by
  cases operation with
  | start block => exact settles_start block h state
  | stop block => exact settles_stop block h state
  | requireVacant name => exact settles_requireVacant name h state
  | take name => exact settles_take name h state
  | finish => exact settles_finish h state
  | abort => exact settles_abort state

end Settles

/-! ### Starts under a name that is taken -/

/-- Adds a server to those that are running, or does something else when its name is taken. -/
def registerOr (taken : Server → Work Unit) (server : Server) : Work Unit := do
  if (← get).servers.contains server.name then taken server
  else modify fun session ↦ { session with servers := session.servers.insert server }

/-- A block that starts a server, with something else to be done when the name of the server that it
has started is taken. -/
def startOr (taken : Server → Work Unit) (block : StartServer) : Work (Option Node) := do
  requireVacant block.name
  let directory ← blockDirectory block.cwd
  registerOr taken (← startServer block directory)
  return if block.hidden then none else some (.code "console" ("$ " ++ block.command ++ "\n"))

section Unreachable

variable {session : Session} {server : Server}

theorem after_registerOr_of_notMem (taken : Server → Work Unit)
    (h : server.name ∉ session.servers.names) : after (registerOr taken server) session =
      pure (.ok (), { session with servers := session.servers.insert server }) := by
  rw [registerOr, after_bind, after_get, pure_bind]
  simp only [Registry.contains_eq_false.2 h]
  rfl

/-- A server that a block has started is never registered under a name that is taken: what would be
done then makes no difference. -/
theorem after_startOr (taken : Server → Work Unit) (block : StartServer) (session : Session) :
    after (startOr taken block) session = after (runStartServer block) session := by
  refine (leaves_requireVacant block.name).after_bind_congr ?_
  rintro _ vacant ⟨hvacant, hfree⟩
  refine (meets_blockDirectory block.cwd vacant).after_bind_congr ?_
  rintro directory found ⟨hfound, -⟩
  refine (frames_startServer block directory found).after_bind_congr ?_
  rintro server started ⟨hstarted, hname⟩
  have hnew : server.name ∉ started.servers.names := by
    rwa [hname, hstarted, hfound, hvacant]
  rw [after_bind, after_bind, after_register hnew, after_registerOr_of_notMem taken hnew]

end Unreachable

/-! ### Runs -/

section Runs

variable {σ : Type} {host : Host σ} {session : Session} {registered : Finset String}

theorem map_operation_perform (host : Host σ) (operations : List Operation) (session : Session)
    (state : σ) : (perform host operations session state).map Turn.operation = operations := by
  induction operations generalizing session state with
  | nil => rfl
  | cons operation rest ih => exact congrArg (operation :: ·) (ih _ _)

/-- Operations one after the other agree with the set of names that the servers have at first and
with what they make of it. -/
theorem refines_perform (operations : List Operation) (h : Represents session.servers registered)
    (state : σ) : Refines registered (perform host operations session state) := by
  induction operations generalizing session registered state with
  | nil => exact .nil registered
  | cons operation rest ih =>
    have hsettles : SettlesOn host operation registered session state := settles operation h state
    unfold SettlesOn at hsettles
    rw [perform]
    generalize (after operation.work session).on host state = out at hsettles ⊢
    obtain ⟨⟨result, reached⟩, next⟩ := out
    obtain ⟨hagrees, hreached⟩ := hsettles
    exact .cons hagrees hreached.names_eq (ih hreached next)

/-- Every operation writes no file in place, and it is given up only when the answers give it up. -/
theorem exists_leaves_work (answers : Answers) (operation : Operation) (session : Session) :
    ∃ good fails stops, operation.work.Leaves answers session good fails stops := by
  cases operation with
  | start block => exact ⟨_, _, _, (leaves_runStartServer block).void fun _ _ h ↦ h.1⟩
  | stop block => exact ⟨_, _, _, (leaves_runStopServer block).void fun _ _ h ↦ h.1⟩
  | requireVacant name => exact ⟨_, _, _, leaves_requireVacant name⟩
  | take name => exact ⟨_, _, _, (leaves_takeServer name).void fun _ _ h ↦ h⟩
  | finish => exact ⟨_, _, _, leaves_finish⟩
  | abort => exact ⟨_, _, _, leaves_abort⟩

/-- No operation is given up. Assumes: the host never gives a run up. -/
theorem result_ne_abandoned (hanswer : Keeps host.answer .lasting) (operations : List Operation)
    (session : Session) (state : σ) :
    ∀ turn ∈ perform host operations session state, turn.result ≠ .error .abandoned := by
  induction operations generalizing session state with
  | nil => exact List.forall_mem_nil _
  | cons operation rest ih =>
    obtain ⟨good, fails, stops, hleaves⟩ := exists_leaves_work .lasting operation session
    have hends := hleaves.follow hanswer state
    change Outcome _ good fails stops ((after operation.work session).on host state).1 at hends
    rw [perform]
    generalize (after operation.work session).on host state = out at hends ⊢
    obtain ⟨⟨result, reached⟩, next⟩ := out
    intro turn hturn
    rcases List.mem_cons.1 hturn with rfl | hturn
    · rintro rfl
      exact Answers.not_givesUp_lasting hends.1
    · exact ih reached next turn hturn

/-- The servers of a session are those of the reference, whatever operations are done and whatever
the host answers. From a fresh session, each operation finds the names that the operations before it
have registered, comes to what they let it come to, and leaves the servers with the names of the
reference, in order. A session that has been ended can be ended once more. On a host that never
gives a run up, no operation is given up, so the end of a session fails exactly when a server is
left. A block that starts a server never registers one under a name that is taken. -/
theorem perform_refines (host : Host σ) (operations : List Operation) (options : Options)
    (state : σ) :
    let turns := perform host operations (.new options) state
    turns.map Turn.operation = operations ∧
    Refines ∅ turns ∧
    (∀ earlier first second later, turns = earlier ++ first :: second :: later →
      first.operation = .finish → second.operation = .finish → second.Gives (.ok ())) ∧
    (Keeps host.answer .lasting → ∀ turn ∈ turns, turn.result ≠ .error .abandoned) ∧
    ∀ taken block session, after (startOr taken block) session =
      after (runStartServer block) session := by
  intro turns
  have hrefines : Refines ∅ turns := refines_perform operations .nil state
  refine ⟨map_operation_perform host operations _ state, hrefines, ?_, ?_, after_startOr⟩
  · intro earlier first second later hturns
    exact (hturns ▸ hrefines).finish_finish
  · exact fun hanswer ↦ result_ne_abandoned hanswer operations _ state

/-- A server is started twice and another one is stopped that was never started, on a machine on
which all goes well; then the session is ended twice. -/
theorem perform_refines_twice :
    let options : Options := ⟨"work", "assets", none, "x", "sh", "/", .default⟩
    let host : Host Unit := ⟨fun _ _ ↦ (0, ()), fun _ request ↦ (request.easyReply, ())⟩
    let web : StartServer := ⟨"web", "serve", none, .ofWholeSeconds 30, none, false⟩
    let operations :=
      [.start web, .start web, .stop ⟨"db", StopServer.defaultGrace⟩, .finish, .finish]
    let turns := perform host operations (.new options) ()
    turns.map (·.names) = [["web"], ["web"], ["web"], [], []] ∧
      turns.map (·.result) = [.ok (), .error (.failed (.unmet (.serverRunning "web"))),
        .error (.failed (.unmet (.noServer "db"))), .error (.failed (.leaked ["web"])), .ok ()] ∧
      Refines ∅ turns ∧ ∀ turn ∈ turns, turn.result ≠ .error .abandoned := by
  intro options host web operations turns
  have hanswer : Keeps host.answer .lasting := fun _ request ↦ by cases request <;> nofun
  have hrefines := perform_refines host operations options ()
  refine ⟨?_, ?_, hrefines.2.1, hrefines.2.2.2.1 hanswer⟩
  · decide +kernel
  · decide +kernel

end Runs

end Runbook.Session
