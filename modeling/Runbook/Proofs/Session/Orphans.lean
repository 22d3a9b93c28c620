import Mathlib.Data.List.Nodup
import Runbook.Proofs.Session.Yields
import Runbook.Proofs.Session.Handlers
import Runbook.Proofs.Session.Serverless
/-!
# No server is left behind

Every server that is started while a document is run is settled before the run is over: a wait for
its end has come back, or its process group has been ended by force (`Settled`). This holds on every
machine, so also when the run is given up at any request that waits: while a server is started,
while one is stopped, while another block runs, and while the servers are shut down
(`runDocument_settles`).

A server that is not settled is held by somebody: by the work that starts or stops it, or by the
registry of the session. `Accounted` says of a record of exchanges that every server in it is
settled or held; each exchange keeps it, when those who hold servers change accordingly
(`Accounted.concat`). `Work.Accounts` says of work how what is held at its end follows from what
was held before, and is proved along the text of starting and stopping. In between blocks the
registry holds the servers (`Balanced`), and at the end of a run nobody holds any. This last part
needs to know only what starting, stopping and dropping a server do to an account, so it is proved
of every `Ledger` (`Ledger.evolving_runPlan`), of which `Accounted` is one.
-/

set_option autoImplicit false

namespace Runbook.Session

open Block Document Machine Work

/-! ### Accounts of servers -/

/-- The process that an exchange starts and that leads a process group. -/
def leader? : Exchange → Option ProcessId
  | ⟨.spawn invocation, .ok process⟩ => if invocation.leadsGroup then some process else none
  | _ => none

example (shell command directory : String) (process : ProcessId) :
    leader? ⟨.spawn (serverInvocation shell command directory), Except.ok process⟩ = some process :=
  rfl

/-- What becomes of a process that leads a process group, according to later exchanges. -/
inductive Settled (process : ProcessId) (later : List Exchange) : Prop where
  /-- A wait for its end has come back, with its status or with an error. -/
  | waited {deadline : Option Instant} {ended : Ended}
    (h : ⟨.awaitExit process deadline, Awaited.arrived ended⟩ ∈ later) (hended : ended ≠ .elapsed)
  /-- Its process group has been ended by force. -/
  | killed (h : ⟨.signalGroup process .kill, ()⟩ ∈ later)

/-- Every process in a record that leads a group is held or has been settled after its start. -/
def Accounted (held : List ProcessId) (record : List Exchange) : Prop :=
  ∀ before exchange later process, record = before ++ exchange :: later →
    leader? exchange = some process → process ∈ held ∨ Settled process later

theorem Settled.mono {process : ProcessId} {earlier later : List Exchange}
    (h : Settled process earlier) (hsub : earlier ⊆ later) : Settled process later := by
  cases h with
  | waited h hended => exact .waited (hsub h) hended
  | killed h => exact .killed (hsub h)

section Accounted

variable {held kept : List ProcessId} {record : List Exchange} {process : ProcessId}

/-- A place in a list with one more element is the last one or a place in the list. -/
theorem concat_eq_append_cons {α : Type} {list before later : List α} {last element : α}
    (h : list ++ [last] = before ++ element :: later) :
    (later = [] ∧ list = before ∧ last = element) ∨
      ∃ rest, later = rest ++ [last] ∧ list = before ++ element :: rest := by
  rcases List.eq_nil_or_concat' later with rfl | ⟨rest, other, rfl⟩
  · obtain ⟨hlist, hlast⟩ := List.append_inj' h rfl
    exact .inl ⟨rfl, hlist, (List.cons.inj hlast).1⟩
  · rw [← List.cons_append, ← List.append_assoc] at h
    obtain ⟨hlist, hlast⟩ := List.append_inj' h rfl
    obtain rfl : last = other := (List.cons.inj hlast).1
    exact .inr ⟨rest, rfl, hlist⟩

theorem accounted_nil (held : List ProcessId) : Accounted held [] :=
  fun _ _ _ _ h ↦ nomatch List.append_eq_nil_iff.1 h.symm

theorem Accounted.mono (h : Accounted held record) (hsub : held ⊆ kept) : Accounted kept record :=
  fun before exchange later process hrecord hleader ↦
    (h before exchange later process hrecord hleader).imp_left fun hheld ↦ hsub hheld

/-- One more exchange: a process that it starts is held from now on, and one that was held still is
unless the exchange settles it. -/
theorem Accounted.concat {exchange : Exchange} (h : Accounted held record)
    (hstart : ∀ process, leader? exchange = some process → process ∈ kept)
    (hkeep : ∀ process ∈ held, process ∈ kept ∨ Settled process [exchange]) :
    Accounted kept (record ++ [exchange]) := by
  intro before started later process hrecord hleader
  rcases concat_eq_append_cons hrecord with ⟨-, -, rfl⟩ | ⟨later, rfl, hbefore⟩
  · exact .inl (hstart process hleader)
  · rcases h before started later process hbefore hleader with hheld | hsettled
    · rcases hkeep process hheld with hkept | hsettled
      · exact .inl hkept
      · exact .inr (hsettled.mono (List.subset_append_right _ _))
    · exact .inr (hsettled.mono (List.subset_append_left _ _))

/-- An exchange that starts no process that leads a group changes nothing. -/
theorem Accounted.quiet {exchange : Exchange} (h : Accounted held record)
    (hquiet : leader? exchange = none) : Accounted held (record ++ [exchange]) :=
  h.concat (fun _ hleader ↦ nomatch hquiet.symm.trans hleader) fun _ hheld ↦ .inl hheld

/-- A process need not be held any more once an exchange settles it. -/
theorem Accounted.settle {exchange : Exchange} (h : Accounted (process :: held) record)
    (hquiet : leader? exchange = none) (hsettled : Settled process [exchange]) :
    Accounted held (record ++ [exchange]) := by
  refine h.concat (fun _ hleader ↦ nomatch hquiet.symm.trans hleader) fun other hother ↦ ?_
  rcases List.mem_cons.1 hother with rfl | hother
  · exact .inr hsettled
  · exact .inl hother

/-- What is held after a process has been started or could not be. -/
def heldAfterSpawn (held : List ProcessId) : Except IoError ProcessId → List ProcessId
  | .ok process => process :: held
  | .error _ => held

/-- A process that leads a group is held once it is started. -/
theorem Accounted.start (h : Accounted held record) (invocation : Invocation)
    (reply : Except IoError ProcessId) :
    Accounted (heldAfterSpawn held reply) (record ++ [⟨.spawn invocation, reply⟩]) := by
  cases reply with
  | ok process =>
    refine h.concat (fun other hother ↦ ?_) fun other hother ↦ .inl (List.mem_cons_of_mem _ hother)
    change (if invocation.leadsGroup then some process else none) = some other at hother
    split at hother
    · cases hother
      exact List.mem_cons_self
    · cases hother
  | error error => exact h.quiet rfl

end Accounted

/-! ### Work and records -/

/-- Work that is begun after some record ends after another one, with which its result goes. -/
def Work.Turns {α : Type} (work : Work α) (before : List Exchange → Prop)
    (ends : Except Stop α → List Exchange → Prop) : Prop :=
  ∀ session record, before record →
    Evolving Recording (fun _ ↦ True) work session record fun result _ record ↦ ends result record

namespace Work.Turns

variable {α β : Type} {session : Session} {record : List Exchange}
  {before : List Exchange → Prop} {ends : Except Stop α → List Exchange → Prop}

protected theorem pure {value : α} (h : ∀ record, before record → ends (.ok value) record) :
    (Pure.pure value : Work α).Turns before ends :=
  fun _ record hrecord ↦ h record hrecord

protected theorem throw {stop : Stop} (h : ∀ record, before record → ends (.error stop) record) :
    (throw stop : Work α).Turns before ends :=
  fun _ record hrecord ↦ h record hrecord

protected theorem fail {cause : Failure}
    (h : ∀ record, before record → ends (.error (.failed cause)) record) :
    (Work.fail cause : Work α).Turns before ends :=
  .throw h

protected theorem get : (MonadState.get : Work Session).Turns before fun _ ↦ before :=
  fun _ _ hrecord ↦ hrecord

/-- A request, and the work that goes on after it. -/
protected theorem ask {request : Request} {next : request.Reply → Work α}
    (between : request.Reply → List Exchange → Prop)
    (h : ∀ reply record, before record → between reply (record ++ [⟨request, reply⟩]))
    (hnext : ∀ reply, (next reply).Turns (between reply) ends) :
    (Work.ask request >>= next).Turns before ends := by
  refine fun session record hrecord ↦ Evolving.ask ?_
  rintro reply _ rfl
  exact ⟨trivial, hnext reply session _ (h reply record hrecord)⟩

protected theorem bind {work : Work α} {next : α → Work β}
    {done : Except Stop β → List Exchange → Prop} (h : work.Turns before ends)
    (hnext : ∀ value, (next value).Turns (ends (.ok value)) done)
    (hstop : ∀ stop record, ends (.error stop) record → done (.error stop) record) :
    (work >>= next).Turns before done :=
  fun session record hrecord ↦ (h session record hrecord).bind
    (fun value session record hvalue ↦ hnext value session record hvalue)
    fun stop _ record hends ↦ hstop stop record hends

protected theorem tryCatch {work : Work α} {handle : Stop → Work α}
    {done : Except Stop α → List Exchange → Prop} (h : work.Turns before ends)
    (hok : ∀ value record, ends (.ok value) record → done (.ok value) record)
    (hstop : ∀ stop, (handle stop).Turns (ends (.error stop)) done) :
    (tryCatch work handle).Turns before done :=
  fun session record hrecord ↦ (h session record hrecord).tryCatch
    (fun value _ record hends ↦ hok value record hends)
    fun stop session record hends ↦ hstop stop session record hends

/-- What work can come to, together with what is recorded after it. -/
theorem and {work : Work α} {good : α → Registry → Prop} {fails : Failure → Prop}
    {stops : Registry → Prop} (h : work.Turns before ends)
    (hleaves : work.Leaves .all session good fails stops) (hrecord : before record) :
    Evolving Recording (fun _ ↦ True) work session record fun result reached record ↦
      ends result record ∧
        match result with
        | .ok value => good value reached.servers
        | .error _ => stops reached.servers := by
  refine ((h session record hrecord).and hleaves.always).imp fun result reached record hout ↦ ?_
  obtain ⟨hends, hout⟩ := hout
  obtain (cause | _) | value := result
  · exact ⟨hends, hout.2⟩
  · exact ⟨hends, hout.2⟩
  · exact ⟨hends, hout⟩

end Work.Turns

/-! ### Work that keeps account -/

/-- Work that is begun while some processes are held ends with others held, which depend on its
result. -/
def Work.Accounts {α : Type} (work : Work α) (held : List ProcessId)
    (left : Except Stop α → List ProcessId) : Prop :=
  ∀ session record, Accounted held record →
    Evolving Recording (fun _ ↦ True) work session record fun result _ record ↦
      Accounted (left result) record

namespace Work.Accounts

variable {α β : Type} {held : List ProcessId} {left : Except Stop α → List ProcessId}

protected theorem pure {value : α} (h : held ⊆ left (.ok value)) :
    (Pure.pure value : Work α).Accounts held left :=
  fun _ _ hheld ↦ hheld.mono h

protected theorem throw {stop : Stop} (h : held ⊆ left (.error stop)) :
    (throw stop : Work α).Accounts held left :=
  fun _ _ hheld ↦ hheld.mono h

protected theorem fail {cause : Failure} (h : held ⊆ left (.error (.failed cause))) :
    (Work.fail cause : Work α).Accounts held left :=
  .throw h

protected theorem get : (MonadState.get : Work Session).Accounts held fun _ ↦ held :=
  fun _ _ hheld ↦ hheld

/-- A request, and the work that goes on after it. -/
protected theorem ask {request : Request} {next : request.Reply → Work α}
    (mid : request.Reply → List ProcessId)
    (h : ∀ reply record, Accounted held record →
      Accounted (mid reply) (record ++ [⟨request, reply⟩]))
    (hnext : ∀ reply, (next reply).Accounts (mid reply) left) :
    (Work.ask request >>= next).Accounts held left := by
  refine fun session record hheld ↦ Evolving.ask ?_
  rintro reply _ rfl
  exact ⟨trivial, hnext reply session _ (h reply record hheld)⟩

/-- A request that starts no process, and the work that goes on after it. -/
protected theorem askQuiet {request : Request} {next : request.Reply → Work α}
    (h : ∀ reply, leader? ⟨request, reply⟩ = none)
    (hnext : ∀ reply, (next reply).Accounts held left) :
    (Work.ask request >>= next).Accounts held left :=
  .ask (fun _ ↦ held) (fun reply _ hheld ↦ hheld.quiet (h reply)) hnext

theorem imp {work : Work α} {more : List ProcessId} {fewer : Except Stop α → List ProcessId}
    (h : work.Accounts more fewer) (hheld : held ⊆ more)
    (hleft : ∀ result, fewer result ⊆ left result) : work.Accounts held left :=
  fun session record haccounted ↦ (h session record (haccounted.mono hheld)).imp
    fun result _ _ hresult ↦ hresult.mono (hleft result)

protected theorem bind {work : Work α} {next : α → Work β} {done : Except Stop β → List ProcessId}
    (h : work.Accounts held left) (hnext : ∀ value, (next value).Accounts (left (.ok value)) done)
    (hstop : ∀ stop, left (.error stop) ⊆ done (.error stop)) :
    (work >>= next).Accounts held done :=
  fun session record hheld ↦ (h session record hheld).bind
    (fun value session record hvalue ↦ hnext value session record hvalue)
    fun stop _ _ hleft ↦ hleft.mono (hstop stop)

protected theorem tryCatch {work : Work α} {handle : Stop → Work α}
    {done : Except Stop α → List ProcessId} (h : work.Accounts held left)
    (hok : ∀ value, left (.ok value) ⊆ done (.ok value))
    (hstop : ∀ stop, (handle stop).Accounts (left (.error stop)) done) :
    (tryCatch work handle).Accounts held done :=
  fun session record hheld ↦ (h session record hheld).tryCatch
    (fun value _ _ hvalue ↦ hvalue.mono (hok value))
    fun stop session record hleft ↦ hstop stop session record hleft

end Work.Accounts

/-! ### Starting and stopping -/

section Servers

variable {held owed : List ProcessId}

/-- A server that is dropped is ended by force, and not held by the work that goes on after that. -/
theorem turns_dropServer (process : ProcessId) (held : List ProcessId) :
    (dropServer process).Turns (Accounted (process :: held))
      fun result record ↦ result = .ok () ∧ Accounted held record := by
  rintro session record hheld signaled _ rfl
  refine ⟨trivial, ?_⟩
  rintro released _ rfl
  have hkilled : Accounted held (record ++ [⟨.signalGroup process .kill, signaled⟩]) :=
    hheld.settle rfl (.killed List.mem_cons_self)
  exact ⟨trivial, rfl, hkilled.quiet rfl⟩

theorem accounts_dropServer {α : Type} {left : Except Stop α → List ProcessId}
    {process : ProcessId} {next : Unit → Work α} (h : (next ()).Accounts held left) :
    (dropServer process >>= next).Accounts (process :: held) left :=
  Turns.bind (turns_dropServer process held)
    (fun _ session record hdropped ↦ h session record hdropped.2)
    fun _ _ hdropped ↦ nomatch hdropped.1

theorem accounts_readUntil (block : StartServer) (process : ProcessId) (needle : Bytes)
    (deadline : Instant) (pieces : Nat) (seen : Bytes) :
    (readUntil block process needle deadline pieces seen).Accounts held fun _ ↦ held := by
  induction pieces generalizing seen with
  | zero => exact .fail (List.Subset.refl _)
  | succ pieces ih =>
    refine .askQuiet (fun _ ↦ rfl) fun answer ↦ ?_
    split
    · exact .throw (List.Subset.refl _)
    · exact .fail (List.Subset.refl _)
    · exact .askQuiet (fun _ ↦ rfl) fun _ ↦ .fail (List.Subset.refl _)
    · split
      · exact .pure (List.Subset.refl _)
      · exact ih _

theorem accounts_awaitReady (block : StartServer) (process : ProcessId) :
    (awaitReady block process).Accounts held fun _ ↦ held := by
  unfold awaitReady
  split
  · exact .pure (List.Subset.refl _)
  · refine .askQuiet (fun _ ↦ rfl) fun now ↦ ?_
    simp only
    split
    · exact .pure (List.Subset.refl _)
    · exact accounts_readUntil _ _ _ _ _ _

/-- What is held after a server has been started or could not be. -/
def heldAfterStart (held : List ProcessId) : Except Stop Server → List ProcessId
  | .ok server => server.process :: held
  | .error _ => held

/-- What is held after work that has to give up some of it when it stops. -/
def heldUnlessStopped {α : Type} (held more : List ProcessId) : Except Stop α → List ProcessId
  | .ok _ => more
  | .error _ => held

/-- A server is held once it is started. When it does not get ready or the run is given up before,
it is dropped. -/
theorem accounts_startServer (block : StartServer) (directory : String) :
    (startServer block directory).Accounts held (heldAfterStart held) := by
  refine .bind .get (fun session ↦ ?_) fun _ ↦ List.Subset.refl _
  refine .ask (heldAfterSpawn held) (fun reply record hheld ↦ hheld.start _ reply) fun reply ↦ ?_
  cases reply with
  | error error => exact .fail (List.Subset.refl _)
  | ok process =>
    have hready : (onStop (dropServer process) (awaitReady block process)).Accounts
        (process :: held) (heldUnlessStopped held (process :: held)) :=
      .tryCatch (accounts_awaitReady block process) (fun _ ↦ List.Subset.refl _) fun _ ↦
        accounts_dropServer (.throw (List.Subset.refl _))
    rw [orFail, pure_bind]
    exact .bind hready (fun _ ↦ .askQuiet (fun _ ↦ rfl) fun _ ↦ .pure (List.Subset.refl _)) fun _ ↦
      List.Subset.refl _

/-- What is held after a wait for the end of a process has come back. -/
def heldAfterWait (held owed : List ProcessId) : Except Stop Ended → List ProcessId
  | .ok .elapsed => owed
  | _ => held

/-- A process that is waited for is held no more once the wait has come back, and when the run is
given up before, it is dropped. It may have been settled before. -/
theorem accounts_awaitEnd (server : Server) (deadline : Option Instant)
    (howed : owed ⊆ server.process :: held) :
    (awaitEnd server deadline).Accounts owed (heldAfterWait held owed) := by
  refine .ask (fun
    | .arrived ended => heldAfterWait held owed (.ok ended)
    | .abandoned => server.process :: held) (fun reply record haccounted ↦ ?_) fun reply ↦ ?_
  · have hsettle (ended : Ended) (hended : ended ≠ .elapsed) :
        Accounted held (record ++ [⟨.awaitExit server.process deadline, .arrived ended⟩]) :=
      (haccounted.mono howed).settle rfl (.waited List.mem_cons_self hended)
    obtain ⟨_ | _ | _⟩ | _ := reply
    · exact hsettle _ nofun
    · exact haccounted.quiet rfl
    · exact hsettle _ nofun
    · exact (haccounted.mono howed).quiet rfl
  · obtain ended | _ := reply
    · exact .pure (List.Subset.refl _)
    · exact accounts_dropServer (.throw (List.Subset.refl _))

/-- A server that is stopped is settled, whatever comes of it. -/
theorem accounts_stopServer (server : Server) (grace : Number.Duration) :
    (stopServer server grace).Accounts (server.process :: held) fun _ ↦ held := by
  refine .askQuiet (fun _ ↦ rfl) fun _ ↦ .askQuiet (fun _ ↦ rfl) fun now ↦ .bind
    (accounts_awaitEnd server _ (List.Subset.refl _))
    (fun first ↦ ?_) fun _ ↦ List.Subset.refl _
  extract_lets rest
  have hrest : ∀ ended, (rest ended).Accounts held fun _ ↦ held := by
    intro ended
    cases ended with
    | status status => exact .pure (List.Subset.refl _)
    | failed error => exact .askQuiet (fun _ ↦ rfl) fun _ ↦ .fail (List.Subset.refl _)
    | elapsed => exact .askQuiet (fun _ ↦ rfl) fun _ ↦ .fail (List.Subset.refl _)
  cases first with
  | status status =>
    change (pure (Ended.status status) >>= rest).Accounts held _
    rw [pure_bind]
    exact hrest (.status status)
  | failed error =>
    change (pure (Ended.failed error) >>= rest).Accounts held _
    rw [pure_bind]
    exact hrest (.failed error)
  | elapsed =>
    refine .ask (fun _ ↦ held) (fun reply record hheld ↦ ?_) fun _ ↦ ?_
    · exact Accounted.settle hheld rfl (.killed List.mem_cons_self)
    -- The server has been ended by force, so it is not held while it is waited for again.
    · refine .bind (accounts_awaitEnd server none (List.subset_cons_self _ _)) (fun ended ↦ ?_)
        fun _ ↦ List.Subset.refl _
      refine (hrest ended).imp ?_ fun _ ↦ List.Subset.refl _
      cases ended <;> exact List.Subset.refl _

end Servers

/-! ### Ledgers -/

section Ledgers

variable {α β : Type} {holds : List ProcessId → List Exchange → Prop} {held : List ProcessId}
  {session : Session} {record : List Exchange}

/-- A way to keep account of the processes that are held: it does not depend on their order or on
requests that are about no server, and those who start, stop and drop servers keep to it. What holds
the processes between blocks, and what is held at the end of a run, follows from this alone. -/
structure Ledger (holds : List ProcessId → List Exchange → Prop) : Prop where
  perm : ∀ {held kept record}, holds held record → held.Perm kept → holds kept record
  quiet : ∀ {held record} {request : Request}, holds held record →
    request.isAboutServer = false → ∀ reply, holds held (record ++ [⟨request, reply⟩])
  start : ∀ block directory held, (startServer block directory).Turns (holds held)
    fun result ↦ holds (heldAfterStart held result)
  stop : ∀ server grace held,
    (stopServer server grace).Turns (holds (server.process :: held)) fun _ ↦ holds held
  drop : ∀ process held, (dropServer process).Turns (holds (process :: held))
    fun result record ↦ result = .ok () ∧ holds held record

/-- What a registry holds. -/
def Registry.processes (servers : Registry) : List ProcessId := servers.map Server.process

/-- Between blocks the registry holds the servers. -/
structure Balanced (holds : List ProcessId → List Exchange → Prop) (session : Session)
    (record : List Exchange) : Prop where
  ordered : session.servers.Ordered
  accounted : holds session.servers.processes record

/-- The same servers are still held. -/
theorem Balanced.same {reached : Session} {before : List Exchange}
    (h : Balanced holds session before) (hservers : reached.servers = session.servers)
    (haccounted : holds session.servers.processes record) : Balanced holds reached record :=
  ⟨hservers ▸ h.ordered, hservers ▸ haccounted⟩

theorem processes_insert_perm (server : Server) (servers : Registry) :
    (server.process :: servers.processes).Perm (servers.insert server).processes := by
  induction servers with
  | nil => exact .refl _
  | cons first rest ih =>
    rw [Registry.insert]
    split
    · exact .refl _
    · exact (List.Perm.swap _ _ _).trans (ih.cons first.process)

/-- A server that is found is held apart from those that are left when it is taken out. -/
theorem processes_erase_perm {servers : Registry} {name : String} {server : Server}
    (hordered : servers.Ordered) (h : servers.find? name = some server) :
    servers.processes.Perm (server.process :: (servers.erase name).processes) := by
  refine List.Perm.map Server.process (?_ : servers.Perm (server :: servers.erase name))
  have hname : server.name = name := (Registry.mem_names_of_find? h).1
  have hnodup : servers.names.Nodup := List.Pairwise.imp ne_of_lt hordered
  have hserver : server ∈ servers := List.mem_of_find?_eq_some h
  refine (List.perm_ext_iff_of_nodup hnodup.of_map ?_).2 fun other ↦ ?_
  · refine List.nodup_cons.2 ⟨fun hmem ↦ ?_, hnodup.of_map.filter _⟩
    exact bne_iff_ne.1 (List.mem_filter.1 hmem).2 hname
  · rw [List.mem_cons, Registry.erase, List.mem_filter, bne_iff_ne]
    constructor
    · intro hother
      by_cases hsame : other.name = name
      · exact .inl (List.inj_on_of_nodup_map hnodup hother hserver (hsame.trans hname.symm))
      · exact .inr ⟨hother, hsame⟩
    · rintro (rfl | ⟨hother, -⟩)
      · exact hserver
      · exact hother

/-- How running blocks can end: the registry holds the servers, or they have been stopped after a
failure. -/
def Kept (holds : List ProcessId → List Exchange → Prop) :
    Except Interruption α → Session → List Exchange → Prop
  | .ok _, reached, record => Balanced holds reached record
  | .error (.failed _), _, record => holds [] record
  | .error .abandoned, reached, record => holds reached.servers.processes record

theorem Kept.stop {cause : Interruption} {reached : Session}
    (h : Kept (α := α) holds (.error cause) reached record) :
    Kept (α := β) holds (.error cause) reached record := by
  cases cause <;> exact h

namespace Ledger

variable (ledger : Ledger holds)
include ledger

/-- Work that asks nothing about servers changes nothing about what is held. -/
theorem serverless {work : Work α} (h : work.Serverless) (held : List ProcessId) :
    work.Turns (holds held) fun _ ↦ holds held := by
  refine fun session record hheld ↦ Act.Always.evolves (h session) ?_ hheld
  rintro before request reply _ hrequest hbefore rfl
  exact ⟨trivial, ledger.quiet hbefore hrequest reply⟩

theorem turns_dropServers (servers : Registry) (held : List ProcessId) :
    (dropServers servers).Turns (holds (servers.processes ++ held)) fun _ ↦ holds held := by
  induction servers with
  | nil => exact .pure fun _ hheld ↦ hheld
  | cons server servers ih =>
    refine .bind (ledger.drop server.process (Registry.processes servers ++ held)) ?_
      fun _ _ hdropped ↦ nomatch hdropped.1
    exact fun _ session record hdropped ↦ ih session record hdropped.2

/-- Servers that are stopped one after the other are not held any more. When the run is given up at
one of them, the others are dropped. -/
theorem turns_stopServers (grace : Number.Duration) (servers : Registry) (held : List ProcessId) :
    (stopServers grace servers).Turns (holds (servers.processes ++ held)) fun _ ↦ holds held := by
  induction servers with
  | nil => exact .pure fun _ hheld ↦ hheld
  | cons server servers ih =>
    have hstop : (do let _ ← stopServer server grace : Work Unit).Turns
        (holds (Registry.processes (server :: servers) ++ held))
        fun _ ↦ holds (Registry.processes servers ++ held) :=
      .bind (ledger.stop server grace _) (fun _ ↦ .pure fun _ hheld ↦ hheld) fun _ _ hheld ↦ hheld
    refine Turns.bind (?_ : Turns _ _ fun result ↦
      holds (heldUnlessStopped held (Registry.processes servers ++ held) result)) (fun _ ↦ ih)
      fun _ _ hheld ↦ hheld
    refine .tryCatch hstop (fun _ _ hheld ↦ hheld) ?_
    rintro (cause | _)
    · exact .pure fun _ hheld ↦ hheld
    · exact .bind (ledger.turns_dropServers servers held) (fun _ ↦ .throw fun _ hheld ↦ hheld)
        fun _ _ hheld ↦ hheld

/-! ### Blocks -/

/-- A block that asks nothing about servers and leaves them alone. -/
theorem evolving_of_preserves {work : Work (Option Node)}
    (h : work.Preserves Quiet Session.servers) (hbalanced : Balanced holds session record) :
    Evolving Recording (fun _ ↦ True) work session record fun _ reached record ↦
      Balanced holds reached record := by
  have hheld := ledger.serverless h.serverless session.servers.processes session record
    hbalanced.accounted
  exact (Act.Evolves.and hheld (h session)).imp fun _ _ hends ↦ hbalanced.same hends.2 hends.1

/-- A server that is started and registered is held by the registry. -/
theorem evolving_runStartServer (block : StartServer) (h : Balanced holds session record) :
    Evolving Recording (fun _ ↦ True) (runStartServer block) session record
      fun _ reached record ↦ Balanced holds reached record := by
  have hquiet : (requireVacant block.name).Preserves Quiet Session.servers :=
    preserves_requireVacant block.name
  have hvacant := ledger.serverless hquiet.serverless session.servers.processes
  refine (hvacant.and (leaves_requireVacant block.name) h.accounted).bind ?_ ?_
  swap
  · exact fun _ reached _ hout ↦ h.same hout.2 hout.1
  rintro _ vacant record ⟨haccounted, hservers, hfree⟩
  have hlooks : (blockDirectory block.cwd).Preserves Quiet Session.servers :=
    preserves_blockDirectory block.cwd
  have hdirectory := ledger.serverless hlooks.serverless session.servers.processes
  refine (hdirectory.and (meets_blockDirectory block.cwd vacant) haccounted).bind ?_ ?_
  swap
  · exact fun _ reached _ hout ↦ h.same (hout.2.trans hservers) hout.1
  rintro directory found record ⟨haccounted, hfound, -⟩
  have hlooked := hfound.trans hservers
  refine ((ledger.start block directory _).and
    (frames_startServer block directory found) haccounted).bind ?_ ?_
  swap
  · exact fun _ reached _ hout ↦ h.same (hout.2.trans hlooked) hout.1
  rintro server started record ⟨haccounted, hstarted, hname⟩
  have hready := hstarted.trans hlooked
  have hvacantStill : server.name ∉ started.servers.names := by rwa [hname, hready]
  unfold Evolving
  rw [after_bind, after_register hvacantStill, pure_bind]
  refine ⟨hready ▸ h.ordered.insert (hready ▸ hvacantStill), ?_⟩
  change holds (started.servers.insert server).processes record
  rw [hready]
  exact ledger.perm haccounted (processes_insert_perm server session.servers)

/-- A server that is stopped is taken out of the registry and is settled, whatever comes of it. -/
theorem evolving_runStopServer (block : StopServer) (h : Balanced holds session record) :
    Evolving Recording (fun _ ↦ True) (runStopServer block) session record
      fun _ reached record ↦ Balanced holds reached record := by
  have htake : Evolving Recording (fun _ ↦ True) (takeServer block.name) session record
      fun result reached record ↦ match result with
        | .ok server => reached.servers = session.servers.erase block.name ∧
          holds (server.process :: reached.servers.processes) record
        | .error _ => Balanced holds reached record := by
    refine .get ?_
    split
    · exact .throw h
    · next server hfound =>
      exact .modify (.pure ⟨rfl, ledger.perm h.accounted (processes_erase_perm h.ordered hfound)⟩)
  refine htake.bind ?_ fun _ _ _ hout ↦ hout
  rintro server taken record ⟨htaken, haccounted⟩
  have hbalanced (reached : Session) (record : List Exchange)
      (hservers : reached.servers = taken.servers)
      (hheld : holds taken.servers.processes record) : Balanced holds reached record :=
    ⟨hservers ▸ htaken ▸ h.ordered.erase block.name, hservers ▸ hheld⟩
  refine ((ledger.stop server block.grace _).and
    (meets_stopServer server block.grace taken) haccounted).bind ?_ ?_
  · exact fun _ reached record hout ↦ hbalanced reached record hout.2.1 hout.1
  · exact fun _ reached record hout ↦ hbalanced reached record hout.2 hout.1

/-- After each action the registry holds the servers, whatever comes of it. -/
theorem evolving_runAction (action : Action) (h : Balanced holds session record) :
    Evolving Recording (fun _ ↦ True) (runAction action) session record
      fun _ reached record ↦ Balanced holds reached record := by
  have hquiet (hstart : ∀ block, action ≠ .startServer block)
      (hstop : ∀ block, action ≠ .stopServer block) :=
    ledger.evolving_of_preserves (preserves_runAction (fun _ _ ↦ rfl) action hstart hstop) h
  cases action with
  | command _ => exact hquiet nofun nofun
  | patchFile _ => exact hquiet nofun nofun
  | createFile _ => exact hquiet nofun nofun
  | startServer block => exact ledger.evolving_runStartServer block h
  | stopServer block => exact ledger.evolving_runStopServer block h
  | screenshot _ => exact hquiet nofun nofun
  | checkpoint _ => exact hquiet nofun nofun

/-! ### Documents -/

/-- Shutting down leaves nothing held and an empty registry, also when the run is given up on the
way. -/
theorem evolving_shutDown (grace : Number.Duration)
    (h : holds session.servers.processes record) :
    Evolving Recording (fun _ ↦ True) (shutDown grace) session record
      fun _ reached record ↦ reached.servers = [] ∧ holds [] record := by
  have hstop := ledger.turns_stopServers grace session.servers []
  rw [List.append_nil] at hstop
  have hheld : Evolving Recording (fun _ ↦ True) (shutDown grace) session record
      fun _ _ record ↦ holds [] record :=
    .get (.modify ((hstop _ _ h).bind (fun _ _ _ hout ↦ .pure hout) fun _ _ _ hout ↦ hout))
  refine (hheld.and (leaves_shutDown grace).always).imp ?_
  rintro ((cause | _) | names) reached record ⟨hout, hservers⟩
  · exact ⟨hservers.2, hout⟩
  · exact ⟨hservers.2, hout⟩
  · exact ⟨hservers.1, hout⟩

theorem evolving_abort (h : holds session.servers.processes record) :
    Evolving Recording (fun _ ↦ True) abort session record
      fun _ reached record ↦ reached.servers = [] ∧ holds [] record :=
  (ledger.evolving_shutDown _ h).bind (fun _ _ _ hout ↦ .pure hout) fun _ _ _ hout ↦ hout

theorem evolving_finish (h : holds session.servers.processes record) :
    Evolving Recording (fun _ ↦ True) finish session record
      fun _ reached record ↦ reached.servers = [] ∧ holds [] record := by
  refine .get ?_
  split
  · next hempty =>
    have hservers := List.isEmpty_iff.1 hempty
    rw [hservers] at h
    exact .pure ⟨hservers, h⟩
  · exact (ledger.evolving_shutDown _ h).bind (fun _ _ _ hout ↦ .throw hout) fun _ _ _ hout ↦ hout

theorem evolving_dropAll (h : holds session.servers.processes record) :
    Evolving Recording (fun _ ↦ True) dropAll session record fun _ _ record ↦ holds [] record := by
  have hdrop := ledger.turns_dropServers session.servers []
  rw [List.append_nil] at hdrop
  exact .get (.modify (hdrop _ _ h))

theorem evolving_runBlock (block : PlannedBlock) (h : Balanced holds session record) :
    Evolving Recording (fun _ ↦ True) (runBlock block) session record (Kept holds) := by
  have haction : Evolving Recording (fun _ ↦ True)
      (located (.block block.line (some block.action.kind)) (runAction block.action)) session record
      fun _ ↦ Balanced holds :=
    .located (ledger.evolving_runAction block.action h)
  refine haction.tryCatch (fun _ _ _ hout ↦ hout) ?_
  rintro (error | _) reached record hout
  · refine (Evolving.located (ledger.evolving_abort hout.accounted)).bind
      (fun _ _ _ hout ↦ .throw hout.2) ?_
    rintro (error | _) reached record ⟨hservers, hout⟩
    · exact hout
    · change holds reached.servers.processes record
      rw [hservers]
      exact hout
  · exact .throw hout.accounted

theorem evolving_runBlocks (plan : List PlannedBlock) (h : Balanced holds session record) :
    Evolving Recording (fun _ ↦ True) (runBlocks plan) session record (Kept holds) := by
  induction plan generalizing session record with
  | nil => exact .pure h
  | cons block plan ih =>
    refine (ledger.evolving_runBlock block h).bind (fun _ _ _ hblock ↦ ?_)
      fun _ _ _ hout ↦ hout.stop
    exact (ih hblock).bind (fun _ _ _ hout ↦ .pure hout) fun _ _ _ hout ↦ hout.stop

/-- However the run of a plan ends, nothing is held. -/
theorem evolving_runPlan (document : Document) (plan : List PlannedBlock)
    (h : Balanced holds session record) :
    Evolving Recording (fun _ ↦ True) (runPlan document plan) session record
      fun _ _ record ↦ holds [] record := by
  have hblocks : Evolving Recording (fun _ ↦ True)
      (do
        let shown ← runBlocks plan
        located .document finish
        return document.substitute shown) session record
      fun result reached record ↦
        (result = .error .abandoned → holds reached.servers.processes record) ∧
        (result ≠ .error .abandoned → holds [] record) := by
    refine (ledger.evolving_runBlocks plan h).bind (fun shown _ _ hkept ↦ ?_) ?_
    · refine (Evolving.located (ledger.evolving_finish hkept.accounted)).bind ?_ ?_
      · exact fun _ _ _ hout ↦ .pure ⟨nofun, fun _ ↦ hout.2⟩
      · rintro cause reached record ⟨hservers, hout⟩
        refine ⟨fun _ ↦ ?_, fun _ ↦ hout⟩
        rw [hservers]
        exact hout
    · rintro (error | _) reached record hout
      · exact ⟨nofun, fun _ ↦ hout⟩
      · exact ⟨fun _ ↦ hout, fun hne ↦ absurd rfl hne⟩
  refine hblocks.tryCatch (fun _ _ _ hout ↦ hout.2 nofun) ?_
  rintro (error | _) reached record hout
  · exact .throw (hout.2 nofun)
  · exact (Evolving.located (ledger.evolving_dropAll (hout.1 rfl))).bind
      (fun _ _ _ hout ↦ .throw hout) fun _ _ _ hout ↦ hout

end Ledger

end Ledgers

/-! ### Documents -/

section Documents

variable {session : Session} {record : List Exchange}

theorem leader?_eq_none {request : Request} (h : request.isAboutServer = false)
    (reply : request.Reply) : leader? ⟨request, reply⟩ = none := by
  cases request with
  | spawn invocation =>
    obtain error | process := reply
    · rfl
    · exact if_neg (Bool.eq_false_iff.1 h)
  | _ => rfl

/-- The account of the servers is a ledger. -/
theorem ledger_accounted : Ledger Accounted where
  perm h hperm := h.mono hperm.subset
  quiet h hquiet reply := h.quiet (leader?_eq_none hquiet reply)
  start block directory _ := accounts_startServer block directory
  stop server grace _ := accounts_stopServer server grace
  drop process held := turns_dropServer process held

/-- However the run of a plan ends, all servers are settled. -/
theorem evolving_runPlan (document : Document) (plan : List PlannedBlock)
    (h : Balanced Accounted session record) :
    Evolving Recording (fun _ ↦ True) (runPlan document plan) session record
      fun _ _ record ↦ Accounted [] record :=
  ledger_accounted.evolving_runPlan document plan h

/-- No server is left behind. Every process that leads a process group, and so every server, that is
started while a document is run has been settled when the run is over: after its start a wait for
its end has come back, or its process group has been ended by force. This holds whatever the machine
answers, and so also when it gives the run up at any of the requests at which it can. -/
theorem runDocument_settles {σ : Type} (answer : σ → (request : Request) → request.Reply × σ)
    (document : Document) (options : Options) (state : σ) :
    ∀ before exchange later process,
      (after (runDocument document) (.new options)).exchanges answer state =
        before ++ exchange :: later →
      leader? exchange = some process → Settled process later := by
  have hrun : Evolving Recording (fun _ ↦ True) (runDocument document) (.new options) []
      fun _ _ record ↦ Accounted [] record := by
    refine .get ?_
    split
    · exact .throw (accounted_nil [])
    · exact evolving_runPlan document _ ⟨Registry.ordered_nil, accounted_nil _⟩
  have haccounted : Accounted [] ([] ++ (after (runDocument document) (.new options)).exchanges
      answer state) := Act.Evolves.exchanges hrun answer state
  intro before exchange later process hsplit hleader
  exact (haccounted before exchange later process hsplit hleader).resolve_left List.not_mem_nil

/-- Of two servers one is running when the run is given up while the other is waited for. Both are
settled. -/
theorem runDocument_settles_given_up :
    let source := "```x:server:start name=web\nserve\n```\n" ++
      "```x:server:start name=db expect=ready\nserve\n```\n"
    let options : Options := ⟨"work", "assets", none, "x", "sh", "/", .default⟩
    let answer : ProcessId → (request : Request) → request.Reply × ProcessId := fun
      | process, .spawn _ => (.ok process, process + 1)
      | process, .readOutput _ _ => (.abandoned, process)
      | process, request => (request.easyReply, process)
    ∃ document, parse source = .ok document ∧
      (follow answer (runDocument document) (.new options) 0).1.1 = .error .abandoned ∧
      ∀ process ∈ [0, 1], ∃ before exchange later,
        (after (runDocument document) (.new options)).exchanges answer 0 =
          before ++ exchange :: later ∧
        leader? exchange = some process ∧ Settled process later := by
  intro source options answer
  have hsource : ((parse source).toOption.map fun document ↦
      ((match (follow answer (runDocument document) (.new options) 0).1.1 with
        | .error stop => some stop
        | .ok _ => none),
        ((after (runDocument document) (.new options)).exchanges answer 0).filterMap leader?)) =
      some (some .abandoned, [0, 1]) := by decide +kernel
  cases hparse : parse source with
  | error cause =>
    rw [hparse] at hsource
    cases hsource
  | ok document =>
    rw [hparse] at hsource
    simp only [Except.toOption, Option.map_some, Option.some.injEq, Prod.mk.injEq] at hsource
    obtain ⟨hgivenUp, hstarted⟩ := hsource
    refine ⟨document, rfl, ?_, fun process hprocess ↦ ?_⟩
    · split at hgivenUp
      · next hresult => exact hresult.trans (congrArg Except.error (Option.some.inj hgivenUp))
      · cases hgivenUp
    · rw [← hstarted] at hprocess
      obtain ⟨exchange, hexchange, hleader⟩ := List.mem_filterMap.1 hprocess
      obtain ⟨before, later, hsplit⟩ := List.append_of_mem hexchange
      exact ⟨before, exchange, later, hsplit, hleader,
        runDocument_settles answer document options 0 before exchange later process hsplit hleader⟩

end Documents

end Runbook.Session
