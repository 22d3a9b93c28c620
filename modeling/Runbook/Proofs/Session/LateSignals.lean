import Runbook.Proofs.Session.Orphans
/-!
# Signals that come too late

The number of a process is free for another one once the process has been waited for, so a signal
that is sent to its group after that can hit strangers. `Reaped` says of a record of exchanges that
it holds a successful wait for a process, and no later start of a server with its number. A server
that is stopped is never signaled after such a wait, whether it ends in time, has to be killed or
the run is given up. One place is different: when the output of a server ends before the text that
is expected of it, the server is polled, and a poll that reports its end is a wait like any other.
Right after it the server is dropped, which kills its group.

`runDocument_signals` says that this is the only place, and that no such report goes without the
late signal. The processes that are held, by a registry or by the work that starts or stops a
server, are in use (`InUse`) and distinct, and this account is a ledger (`ledger_holds`), so it
lasts for a whole run. Distinct they are because a machine gives a number only to one process at a
time (`GivesFreeNumbers`).
-/

set_option autoImplicit false

namespace Runbook.Session

open Block Document Machine Work

/-! ### Processes and their numbers -/

/-- The process whose end an exchange reports. -/
def reaped? : Exchange → Option ProcessId
  | ⟨.poll process, some _⟩ => some process
  | ⟨.awaitExit process _, .arrived (.status _)⟩ => some process
  | _ => none

/-- The process that an exchange puts an end to: its end is reported, waiting for it has failed, or
its group is killed. -/
def ended? : Exchange → Option ProcessId
  | ⟨.poll process, some _⟩ => some process
  | ⟨.awaitExit process _, .arrived (.status _)⟩ => some process
  | ⟨.awaitExit process _, .arrived (.failed _)⟩ => some process
  | ⟨.signalGroup process .kill, _⟩ => some process
  | _ => none

theorem ended?_of_reaped? {exchange : Exchange} {process : ProcessId}
    (h : reaped? exchange = some process) : ended? exchange = some process := by
  unfold reaped? at h
  split at h
  · exact h
  · exact h
  · cases h

theorem leader?_of_reaped? {exchange : Exchange} {process : ProcessId}
    (h : reaped? exchange = some process) : leader? exchange = none := by
  unfold reaped? at h
  split at h
  · rfl
  · rfl
  · cases h

/-- A server has been started with a number, and nothing has put an end to it since. -/
def InUse (process : ProcessId) (record : List Exchange) : Prop :=
  ∃ earlier start later, record = earlier ++ start :: later ∧ leader? start = some process ∧
    ∀ exchange ∈ later, ended? exchange ≠ some process

/-- The end of the process with a number has been reported, and no server has been started with the
number since. -/
def Reaped (process : ProcessId) (record : List Exchange) : Prop :=
  ∃ earlier report later, record = earlier ++ report :: later ∧ reaped? report = some process ∧
    ∀ exchange ∈ later, leader? exchange ≠ some process

/-- No server is started with a number that is in use. -/
def GivesFreeNumbers (record : List Exchange) : Prop :=
  ∀ before start later process, record = before ++ start :: later →
    leader? start = some process → ¬InUse process before

section Numbers

variable {process : ProcessId} {record : List Exchange} {exchange : Exchange}

theorem InUse.concat (h : InUse process record) (hexchange : ended? exchange ≠ some process) :
    InUse process (record ++ [exchange]) := by
  obtain ⟨earlier, start, later, rfl, hstart, hlater⟩ := h
  refine ⟨earlier, start, later ++ [exchange], by simp, hstart, ?_⟩
  exact List.forall_mem_append.2 ⟨hlater, by simpa using hexchange⟩

theorem inUse_start (h : leader? exchange = some process) : InUse process (record ++ [exchange]) :=
  ⟨record, exchange, [], rfl, h, nofun⟩

/-- A process that is in use has not been waited for: a wait before its start is about another
process, and one after it puts an end to its use. -/
theorem InUse.not_reaped (h : InUse process record) : ¬Reaped process record := by
  obtain ⟨earlier, start, later, rfl, hstart, hlater⟩ := h
  rintro ⟨before, report, since, hrecord, hreport, hsince⟩
  rcases List.append_eq_append_iff.1 hrecord with ⟨between, -, hsame⟩ | ⟨between, -, hsame⟩
  · cases between with
    | nil =>
      obtain ⟨rfl, -⟩ := List.cons.inj hsame
      rw [leader?_of_reaped? hreport] at hstart
      cases hstart
    | cons first between =>
      obtain ⟨-, rfl⟩ := List.cons.inj hsame
      exact hlater report (by simp) (ended?_of_reaped? hreport)
  · cases between with
    | nil =>
      obtain ⟨rfl, -⟩ := List.cons.inj hsame
      rw [leader?_of_reaped? hreport] at hstart
      cases hstart
    | cons first between =>
      obtain ⟨-, rfl⟩ := List.cons.inj hsame
      exact hsince start (by simp) hstart

theorem Reaped.of_concat (h : Reaped process (record ++ [exchange]))
    (hexchange : reaped? exchange ≠ some process) : Reaped process record := by
  obtain ⟨earlier, report, later, hrecord, hreport, hlater⟩ := h
  rcases concat_eq_append_cons hrecord with ⟨-, -, rfl⟩ | ⟨rest, rfl, rfl⟩
  · exact absurd hreport hexchange
  · exact ⟨earlier, report, rest, rfl, hreport, (List.forall_mem_append.1 hlater).1⟩

theorem GivesFreeNumbers.of_concat (h : GivesFreeNumbers (record ++ [exchange])) :
    GivesFreeNumbers record := by
  rintro before start later process rfl hstart
  exact h before start (later ++ [exchange]) process (by simp) hstart

end Numbers

/-! ### Signals in a record -/

/-- The exchange that reports the end of a process to one who polls it. -/
abbrev reportOf (process : ProcessId) (status : ExitStatus) : Exchange :=
  ⟨.poll process, some status⟩

/-- The exchange in which a process group gets a signal. -/
abbrev signalTo (process : ProcessId) (signal : Signal) : Exchange :=
  ⟨.signalGroup process signal, ()⟩

/-- A record ends with the output of a process that is over and the report of its end. -/
def EndsInReport (process : ProcessId) (record : List Exchange) : Prop :=
  ∃ earlier deadline status, record = earlier ++
    [⟨.readOutput process deadline, .arrived .closed⟩] ++ [reportOf process status]

/-- The processes that are held after a record in which no signal is late but those that are sent
right after a report, and each report is followed by one. -/
structure Guarded (held : List ProcessId) (record : List Exchange) : Prop where
  nodup : held.Nodup
  inUse : ∀ process ∈ held, InUse process record
  late : ∀ before process signal later, record = before ++ signalTo process signal :: later →
    Reaped process before → EndsInReport process before
  chased : ∀ before process status later, record = before ++ reportOf process status :: later →
    ∃ rest, later = signalTo process .kill :: rest

/-- Whether an exchange neither signals a process group nor reports an end to one who polls. -/
def isPlain : Exchange → Bool
  | ⟨.signalGroup _ _, _⟩ => false
  | ⟨.poll _, some _⟩ => false
  | _ => true

section Guarded

variable {held kept : List ProcessId} {process : ProcessId} {record : List Exchange}
  {exchange : Exchange}

theorem guarded_nil : Guarded [] [] where
  nodup := List.nodup_nil
  inUse := nofun
  late _ _ _ _ h := nomatch List.append_eq_nil_iff.1 h.symm
  chased _ _ _ _ h := nomatch List.append_eq_nil_iff.1 h.symm

/-- One more exchange, which is no report. -/
theorem Guarded.concat (h : Guarded held record) (hnodup : kept.Nodup)
    (hinUse : ∀ process ∈ kept, InUse process (record ++ [exchange]))
    (hsignal : ∀ process signal, exchange = signalTo process signal → ¬Reaped process record)
    (hreport : ∀ process status, exchange ≠ reportOf process status) :
    Guarded kept (record ++ [exchange]) where
  nodup := hnodup
  inUse := hinUse
  late before process signal later hrecord hreaped := by
    rcases concat_eq_append_cons hrecord with ⟨-, rfl, hlast⟩ | ⟨rest, -, hbefore⟩
    · exact absurd hreaped (hsignal process signal hlast)
    · exact h.late before process signal rest hbefore hreaped
  chased before process status later hrecord := by
    rcases concat_eq_append_cons hrecord with ⟨-, -, hlast⟩ | ⟨rest, rfl, hbefore⟩
    · exact absurd hlast (hreport process status)
    · obtain ⟨more, rfl⟩ := h.chased before process status rest hbefore
      exact ⟨more ++ [exchange], rfl⟩

/-- One more exchange that neither signals a group nor puts an end to one of those that stay
held. -/
theorem Guarded.plain (h : Guarded held record) (hplain : isPlain exchange = true)
    (hsub : kept.Sublist held) (hkept : ∀ process ∈ kept, ended? exchange ≠ some process) :
    Guarded kept (record ++ [exchange]) := by
  refine h.concat (h.nodup.sublist hsub) ?_ ?_ ?_
  · exact fun process hprocess ↦ (h.inUse process (hsub.subset hprocess)).concat
      (hkept process hprocess)
  · rintro process signal rfl
    cases hplain
  · rintro process status rfl
    cases hplain

/-- A server is held once it is started. -/
theorem Guarded.start (h : Guarded held record) (hplain : isPlain exchange = true)
    (hended : ended? exchange = none) (hstart : leader? exchange = some process)
    (hfree : ¬InUse process record) : Guarded (process :: held) (record ++ [exchange]) := by
  have hquiet := h.plain hplain (List.Sublist.refl _) fun _ _ ↦ by rw [hended]; nofun
  refine ⟨List.nodup_cons.2 ⟨fun hheld ↦ hfree (h.inUse process hheld), h.nodup⟩, ?_, hquiet.late,
    hquiet.chased⟩
  exact List.forall_mem_cons.2 ⟨inUse_start hstart, hquiet.inUse⟩

/-- A group is signaled whose leader has not been waited for. -/
theorem Guarded.signal (h : Guarded held record) (signal : Signal) (hfree : process ∉ held)
    (hunreaped : ¬Reaped process record) :
    Guarded held (record ++ [signalTo process signal]) := by
  refine h.concat h.nodup (fun other hother ↦ (h.inUse other hother).concat ?_) ?_ nofun
  · cases signal with
    | terminate => exact nofun
    | kill =>
      intro hended
      obtain rfl : process = other := Option.some.inj hended
      exact hfree hother
  · intro other other' hsame
    cases hsame
    exact hunreaped

/-- The group of a server is killed right after its end has been reported. -/
theorem Guarded.chase {earlier : List Exchange} {deadline : Instant} {status : ExitStatus}
    (h : Guarded held (earlier ++ [⟨.readOutput process deadline, .arrived .closed⟩]))
    (hfree : process ∉ held) :
    Guarded held (earlier ++ [⟨.readOutput process deadline, .arrived .closed⟩] ++
      [reportOf process status] ++ [signalTo process .kill]) where
  nodup := h.nodup
  inUse other hother := by
    have hne : some process ≠ some other := fun hsame ↦
      hfree (Option.some.inj hsame ▸ hother)
    have hreported : InUse other _ := (h.inUse other hother).concat
      (show ended? (reportOf process status) ≠ some other from hne)
    exact hreported.concat hne
  late before other signal later hrecord hreaped := by
    rcases concat_eq_append_cons hrecord with ⟨-, rfl, hlast⟩ | ⟨rest, -, hbefore⟩
    · cases hlast
      exact ⟨earlier, deadline, status, rfl⟩
    · rcases concat_eq_append_cons hbefore with ⟨-, -, hlast⟩ | ⟨more, -, hfirst⟩
      · cases hlast
      · exact h.late before other signal more hfirst hreaped
  chased before other ended later hrecord := by
    rcases concat_eq_append_cons hrecord with ⟨-, -, hlast⟩ | ⟨rest, rfl, hbefore⟩
    · cases hlast
    · rcases concat_eq_append_cons hbefore with ⟨rfl, -, hlast⟩ | ⟨more, rfl, hfirst⟩
      · cases hlast
        exact ⟨[], rfl⟩
      · obtain ⟨further, rfl⟩ := h.chased before other ended more hfirst
        exact ⟨further ++ [reportOf process status] ++ [signalTo process .kill], by simp⟩

end Guarded

/-! ### What is held -/

/-- The processes that are held, on a machine that gives a number to one process at a time. -/
def Holds (held : List ProcessId) (record : List Exchange) : Prop :=
  GivesFreeNumbers record → Guarded held record

/-- A process is about to end, or may have been killed, and has not been waited for. -/
def Awaits (process : ProcessId) (held : List ProcessId) (record : List Exchange) : Prop :=
  GivesFreeNumbers record → Guarded held record ∧ process ∉ held ∧ ¬Reaped process record

/-- A process can be dropped: it has not been waited for, or its end has just been reported. -/
def Droppable (process : ProcessId) (held : List ProcessId) (record : List Exchange) : Prop :=
  Awaits process held record ∨ ∃ earlier deadline status,
    record = earlier ++ [⟨.readOutput process deadline, .arrived .closed⟩] ++
      [reportOf process status] ∧
    Holds (process :: held) (earlier ++ [⟨.readOutput process deadline, .arrived .closed⟩])

section Holds

variable {held : List ProcessId} {process : ProcessId} {record : List Exchange}
  {exchange : Exchange}

theorem Holds.plain (h : Holds held record) (hplain : isPlain exchange = true)
    (hended : ended? exchange = none) : Holds held (record ++ [exchange]) :=
  fun hfree ↦ (h hfree.of_concat).plain hplain (List.Sublist.refl _)
    fun _ _ ↦ by rw [hended]; nofun

theorem Holds.start (h : Holds held record) (hplain : isPlain exchange = true)
    (hended : ended? exchange = none) (hstart : leader? exchange = some process) :
    Holds (process :: held) (record ++ [exchange]) :=
  fun hfree ↦ (h hfree.of_concat).start hplain hended hstart
    (hfree record exchange [] process rfl hstart)

/-- A process that is held has not been waited for. -/
theorem Holds.awaits (h : Holds (process :: held) record) : Awaits process held record := by
  intro hfree
  have hguarded := h hfree
  obtain ⟨hprocess, hnodup⟩ := List.nodup_cons.1 hguarded.nodup
  obtain ⟨hinUse, hheld⟩ := List.forall_mem_cons.1 hguarded.inUse
  exact ⟨⟨hnodup, hheld, hguarded.late, hguarded.chased⟩, hprocess, hinUse.not_reaped⟩

theorem Awaits.holds (h : Awaits process held record) : Holds held record :=
  fun hfree ↦ (h hfree).1

theorem Awaits.plain (h : Awaits process held record) (hplain : isPlain exchange = true)
    (hended : ended? exchange = none) : Awaits process held (record ++ [exchange]) := by
  intro hfree
  obtain ⟨hguarded, hprocess, hunreaped⟩ := h hfree.of_concat
  refine ⟨h.holds.plain hplain hended hfree, hprocess, fun hreaped ↦ hunreaped ?_⟩
  refine hreaped.of_concat fun hreport ↦ ?_
  rw [ended?_of_reaped? hreport] at hended
  cases hended

/-- A wait for the process that has come back. -/
theorem Awaits.ended (h : Awaits process held record) (hplain : isPlain exchange = true)
    (hended : ended? exchange = some process) : Holds held (record ++ [exchange]) := by
  intro hfree
  obtain ⟨hguarded, hprocess, -⟩ := h hfree.of_concat
  refine hguarded.plain hplain (List.Sublist.refl _) fun other hother hsame ↦ hprocess ?_
  rw [hended] at hsame
  exact Option.some.inj hsame ▸ hother

theorem Awaits.signal (h : Awaits process held record) (signal : Signal) :
    Awaits process held (record ++ [signalTo process signal]) := by
  intro hfree
  obtain ⟨hguarded, hprocess, hunreaped⟩ := h hfree.of_concat
  exact ⟨hguarded.signal signal hprocess hunreaped, hprocess,
    fun hreaped ↦ hunreaped (hreaped.of_concat nofun)⟩

/-- A process that is dropped is not held any more. -/
theorem Droppable.kill (h : Droppable process held record) :
    Holds held (record ++ [signalTo process .kill]) := by
  rcases h with h | ⟨earlier, deadline, status, rfl, h⟩
  · exact (h.signal .kill).holds
  · intro hfree
    obtain ⟨hguarded, hprocess, -⟩ := h.awaits hfree.of_concat.of_concat
    exact hguarded.chase hprocess

end Holds

/-! ### Starting and stopping -/

section Servers

variable {held : List ProcessId}

theorem turns_drop (process : ProcessId) (held : List ProcessId) :
    (dropServer process).Turns (Droppable process held)
      fun result record ↦ result = .ok () ∧ Holds held record := by
  rintro session record h signaled _ rfl
  refine ⟨trivial, ?_⟩
  rintro released _ rfl
  exact ⟨trivial, rfl, h.kill.plain rfl rfl⟩

/-- What can be done with a server after it has been waited for to get ready. -/
def AfterReady (process : ProcessId) (held : List ProcessId) :
    Except Stop Unit → List Exchange → Prop
  | .ok _ => Holds (process :: held)
  | .error _ => Droppable process held

theorem turns_readUntil (block : StartServer) (process : ProcessId) (needle : Bytes)
    (deadline : Instant) (pieces : Nat) (seen : Bytes) :
    (readUntil block process needle deadline pieces seen).Turns (Holds (process :: held))
      (AfterReady process held) := by
  induction pieces generalizing seen with
  | zero => exact .fail fun _ h ↦ .inl h.awaits
  | succ pieces ih =>
    refine .ask (fun reply record ↦ Holds (process :: held) record ∧
      ∃ earlier, record = earlier ++ [⟨.readOutput process deadline, reply⟩])
      (fun reply record h ↦ ⟨h.plain rfl rfl, record, rfl⟩) fun answer ↦ ?_
    split
    · exact .throw fun _ h ↦ .inl h.1.awaits
    · exact .fail fun _ h ↦ .inl h.1.awaits
    -- A poll that reports the end is a wait, and nothing is told to the one who drops the server.
    · refine .ask (fun _ ↦ Droppable process held) ?_ fun _ ↦ .fail fun _ h ↦ h
      rintro (_ | status) record ⟨h, earlier, rfl⟩
      · exact .inl (h.plain rfl rfl).awaits
      · exact .inr ⟨earlier, deadline, status, rfl, h⟩
    · split
      · exact .pure fun _ h ↦ h.1
      · exact fun session record h ↦ ih _ session record h.1

theorem turns_awaitReady (block : StartServer) (process : ProcessId) :
    (awaitReady block process).Turns (Holds (process :: held)) (AfterReady process held) := by
  unfold awaitReady
  split
  · exact .pure fun _ h ↦ h
  · refine .ask (fun _ ↦ Holds (process :: held)) (fun _ _ h ↦ h.plain rfl rfl) fun now ↦ ?_
    simp only
    split
    · exact .pure fun _ h ↦ h
    · exact turns_readUntil _ _ _ _ _ _

/-- A server is held once it is started. When it does not get ready or the run is given up before,
it is dropped. -/
theorem turns_startServer (block : StartServer) (directory : String) (held : List ProcessId) :
    (startServer block directory).Turns (Holds held)
      fun result ↦ Holds (heldAfterStart held result) := by
  refine .bind .get (fun session ↦ ?_) fun _ _ h ↦ h
  refine .ask (fun reply ↦ Holds (heldAfterSpawn held reply)) ?_ fun reply ↦ ?_
  · rintro (error | process) record h
    · exact h.plain rfl rfl
    · exact h.start rfl rfl rfl
  cases reply with
  | error error => exact .fail fun _ h ↦ h
  | ok process =>
    have hready : (onStop (dropServer process) (awaitReady block process)).Turns
        (Holds (process :: held))
        fun result ↦ Holds (heldUnlessStopped held (process :: held) result) := by
      refine .tryCatch (turns_awaitReady block process) (fun _ _ h ↦ h) fun stop ↦ ?_
      exact .bind (turns_drop process held) (fun _ ↦ .throw fun _ h ↦ h.2) fun _ _ h ↦ h.2
    rw [orFail, pure_bind]
    refine .bind hready (fun _ ↦ ?_) fun _ _ h ↦ h
    exact .ask (fun _ ↦ Holds (process :: held)) (fun _ _ h ↦ h.plain rfl rfl) fun _ ↦
      .pure fun _ h ↦ h

/-- What has become of a server after a wait for its end. -/
def AfterWait (process : ProcessId) (held : List ProcessId) :
    Except Stop Ended → List Exchange → Prop
  | .ok .elapsed => Awaits process held
  | _ => Holds held

theorem turns_awaitEnd (server : Server) (deadline : Option Instant) :
    (awaitEnd server deadline).Turns (Awaits server.process held)
      (AfterWait server.process held) := by
  refine .ask (fun
    | .arrived ended => AfterWait server.process held (.ok ended)
    | .abandoned => Awaits server.process held) (fun reply record h ↦ ?_) fun reply ↦ ?_
  · obtain ⟨_ | _ | _⟩ | _ := reply
    · exact h.ended rfl rfl
    · exact h.plain rfl rfl
    · exact h.ended rfl rfl
    · exact h.plain rfl rfl
  · obtain ended | _ := reply
    · exact .pure fun _ h ↦ h
    · have hdrop : (dropServer server.process).Turns (Awaits server.process held)
          fun result record ↦ result = .ok () ∧ Holds held record :=
        fun session record h ↦ turns_drop server.process held session record (.inl h)
      exact .bind hdrop (fun _ ↦ .throw fun _ h ↦ h.2) fun _ _ h ↦ h.2

/-- A server that is stopped is not signaled after it has been waited for. -/
theorem turns_stopServer (server : Server) (grace : Number.Duration) (held : List ProcessId) :
    (stopServer server grace).Turns (Holds (server.process :: held)) fun _ ↦ Holds held := by
  refine .ask (fun _ ↦ Awaits server.process held) (fun _ _ h ↦ h.awaits.signal _) fun _ ↦
    .ask (fun _ ↦ Awaits server.process held) (fun _ _ h ↦ h.plain rfl rfl) fun now ↦ ?_
  refine .bind (turns_awaitEnd server _) (fun first ↦ ?_) fun _ _ h ↦ h
  extract_lets rest
  have hrest : ∀ ended, (rest ended).Turns (AfterWait server.process held (.ok ended))
      fun _ ↦ Holds held := by
    intro ended
    cases ended with
    | status status => exact .pure fun _ h ↦ h
    | failed error =>
      exact .ask (fun _ ↦ Holds held) (fun _ _ h ↦ h.plain rfl rfl) fun _ ↦ .fail fun _ h ↦ h
    | elapsed =>
      exact .ask (fun _ ↦ Holds held) (fun _ _ h ↦ h.holds.plain rfl rfl) fun _ ↦
        .fail fun _ h ↦ h
  cases first with
  | status status =>
    change (pure (Ended.status status) >>= rest).Turns _ _
    rw [pure_bind]
    exact hrest (.status status)
  | failed error =>
    change (pure (Ended.failed error) >>= rest).Turns _ _
    rw [pure_bind]
    exact hrest (.failed error)
  | elapsed =>
    refine .ask (fun _ ↦ Awaits server.process held) (fun _ _ h ↦ h.signal _) fun _ ↦ ?_
    exact .bind (turns_awaitEnd server none) hrest fun _ _ h ↦ h

end Servers

/-! ### Runs of documents -/

theorem isPlain_of_serverless {request : Request} (h : request.isAboutServer = false)
    (reply : request.Reply) :
    isPlain ⟨request, reply⟩ = true ∧ ended? ⟨request, reply⟩ = none := by
  cases request
  case readOutput | drainOutput | poll | awaitExit | signalGroup => cases h
  all_goals exact ⟨rfl, rfl⟩

/-- The account of the processes in use is a ledger. -/
theorem ledger_holds : Ledger Holds where
  perm h hperm hfree :=
    have hguarded := h hfree
    ⟨hperm.nodup_iff.1 hguarded.nodup,
      fun process hprocess ↦ hguarded.inUse process (hperm.mem_iff.2 hprocess),
      hguarded.late, hguarded.chased⟩
  quiet h hquiet reply :=
    h.plain (isPlain_of_serverless hquiet reply).1 (isPlain_of_serverless hquiet reply).2
  start := turns_startServer
  stop := turns_stopServer
  drop process held session record h := turns_drop process held session record (.inl h.awaits)

/-- A machine that never gives a number twice gives free numbers. -/
theorem givesFreeNumbers_of_nodup {record : List Exchange}
    (h : (record.filterMap leader?).Nodup) : GivesFreeNumbers record := by
  rintro before start later process rfl hstart ⟨earlier, first, since, rfl, hfirst, -⟩
  rw [List.filterMap_append, List.filterMap_cons_some hstart] at h
  refine List.disjoint_of_nodup_append h (a := process) ?_ List.mem_cons_self
  exact List.mem_filterMap.2 ⟨first, by simp, hfirst⟩

/-- The process whose group an exchange signals, and the signal. -/
def signaled? : Exchange → Option (ProcessId × Signal)
  | ⟨.signalGroup process signal, _⟩ => some (process, signal)
  | _ => none

theorem eq_signalTo_of_signaled? {exchange : Exchange} {process : ProcessId} {signal : Signal}
    (h : signaled? exchange = some (process, signal)) : exchange = signalTo process signal := by
  unfold signaled? at h
  split at h
  · cases h
    rfl
  · cases h

section Documents

variable {σ : Type}

/-- Signals that come too late. While a document is run, a process group is signaled after its
leader has been waited for exactly when the output of a server has ended before the text that is
expected of it and a poll right after that has reported the end of the server; the signal then kills
the group. And a server whose end is reported so always gets this signal. So none comes too late in
a run in which no poll reports an end, whether servers get ready, run out of time, stop within their
grace or after it, or are dropped because the run is given up. This holds whatever the machine
answers. Assumes: the machine gives no number to a server while another one that has it can still be
waited for. -/
theorem runDocument_signals (answer : σ → (request : Request) → request.Reply × σ)
    (document : Document) (options : Options) (state : σ)
    (hfree : GivesFreeNumbers
      ((after (runDocument document) (.new options)).exchanges answer state)) :
    (∀ before process signal later,
      (after (runDocument document) (.new options)).exchanges answer state =
        before ++ signalTo process signal :: later →
      (Reaped process before ↔ signal = .kill ∧ EndsInReport process before)) ∧
    ∀ before process status later,
      (after (runDocument document) (.new options)).exchanges answer state =
        before ++ reportOf process status :: later →
      ∃ rest, later = signalTo process .kill :: rest := by
  have hnil : Holds [] [] := fun _ ↦ guarded_nil
  have hrun : Evolving Recording (fun _ ↦ True) (runDocument document) (.new options) []
      fun _ _ record ↦ Holds [] record := by
    refine .get ?_
    split
    · exact .throw hnil
    · exact ledger_holds.evolving_runPlan document _ ⟨Registry.ordered_nil, hnil⟩
  have hholds : Holds [] ([] ++ (after (runDocument document) (.new options)).exchanges
      answer state) := Act.Evolves.exchanges hrun answer state
  have hguarded := hholds hfree
  refine ⟨fun before process signal later hrecord ↦ ⟨fun hreaped ↦ ?_, ?_⟩, hguarded.chased⟩
  · have hends := hguarded.late before process signal later hrecord hreaped
    refine ⟨?_, hends⟩
    obtain ⟨earlier, deadline, status, rfl⟩ := hends
    rw [List.append_assoc, List.singleton_append] at hrecord
    obtain ⟨rest, hkill⟩ := hguarded.chased _ process status _ hrecord
    cases (List.cons.inj hkill).1
    rfl
  · rintro ⟨-, earlier, deadline, status, rfl⟩
    exact ⟨_, reportOf process status, [], rfl, rfl, nofun⟩

/-- Two servers, one of which ends before it prints what is expected of it. It is killed too late,
and the other one is not signaled after its end. -/
theorem runDocument_signals_two :
    let source := "```x:server:start name=web\nserve\n```\n" ++
      "```x:server:start name=db expect=ready\nexit 3\n```\n"
    let options : Options := ⟨"work", "assets", none, "x", "sh", "/", .default⟩
    let answer : ProcessId → (request : Request) → request.Reply × ProcessId := fun
      | process, .spawn _ => (.ok process, process + 1)
      | process, .poll _ => (some (.exited 3), process)
      | process, request => (request.easyReply, process)
    ∃ document, parse source = .ok document ∧
      let record := (after (runDocument document) (.new options)).exchanges answer 0
      record.filterMap signaled? = [(1, .kill), (0, .terminate)] ∧
        ∀ before signal later, record = before ++ signalTo 0 signal :: later →
          ¬Reaped 0 before := by
  intro source options answer
  have hsource : ((parse source).toOption.map fun document ↦
      let record := (after (runDocument document) (.new options)).exchanges answer 0
      (record.filterMap leader?, record.filterMap signaled?)) =
        some ([0, 1], [(1, .kill), (0, .terminate)]) := by decide +kernel
  cases hparse : parse source with
  | error cause =>
    rw [hparse] at hsource
    cases hsource
  | ok document =>
    rw [hparse] at hsource
    obtain ⟨hstarted, hsignaled⟩ := Prod.mk.inj (Option.some.inj hsource)
    refine ⟨document, rfl, hsignaled, fun before signal later hrecord hreaped ↦ ?_⟩
    have hfree : GivesFreeNumbers
        ((after (runDocument document) (.new options)).exchanges answer 0) :=
      givesFreeNumbers_of_nodup (by rw [hstarted]; decide)
    obtain ⟨rfl, -⟩ := ((runDocument_signals answer document options 0 hfree).1 before 0 signal
      later hrecord).1 hreaped
    have hkill : (0, .kill) ∈ [((1 : ProcessId), Signal.kill), (0, .terminate)] := by
      rw [← hsignaled, hrecord]
      exact List.mem_filterMap.2 ⟨signalTo 0 .kill, by simp, rfl⟩
    exact absurd hkill (by decide)

/-- A server that ends before it prints what is expected of it is waited for by the poll, and its
group is killed after that. -/
theorem runDocument_killsReaped :
    let source := "```x:server:start name=web expect=ready\nexit 3\n```\n"
    let options : Options := ⟨"work", "assets", none, "x", "sh", "/", .default⟩
    let answer : Unit → (request : Request) → request.Reply × Unit := fun
      | _, .spawn _ => (.ok 7, ())
      | _, .poll _ => (some (.exited 3), ())
      | _, request => (request.easyReply, ())
    ∃ document before later, parse source = .ok document ∧
      (after (runDocument document) (.new options)).exchanges answer () =
        before ++ signalTo 7 .kill :: later ∧
      Reaped 7 before ∧ GivesFreeNumbers (before ++ signalTo 7 .kill :: later) := by
  intro source options answer
  have hsource : ((parse source).toOption.map fun document ↦
      let record := (after (runDocument document) (.new options)).exchanges answer ()
      (record.filterMap leader?,
        record.map fun exchange ↦ (reaped? exchange, signaled? exchange))) =
        some ([7], List.replicate 4 (none, none) ++ [(some 7, none)] ++
          (none, some (7, .kill)) :: [(none, none)]) := by decide +kernel
  cases hparse : parse source with
  | error cause =>
    rw [hparse] at hsource
    cases hsource
  | ok document =>
    rw [hparse] at hsource
    obtain ⟨hstarted, hrecord⟩ := Prod.mk.inj (Option.some.inj hsource)
    obtain ⟨before, rest, hsplit, hbefore, hrest⟩ := List.map_eq_append_iff.1 hrecord
    obtain ⟨earlier, report, rfl, -, hreport⟩ := List.map_eq_append_iff.1 hbefore
    obtain ⟨reported, hnil, rfl, hreaped, hlater⟩ := List.map_eq_cons_iff.1 hreport
    obtain rfl := List.map_eq_nil_iff.1 hlater
    obtain ⟨kill, later, rfl, hkill, -⟩ := List.map_eq_cons_iff.1 hrest
    obtain rfl := eq_signalTo_of_signaled? (Prod.mk.inj hkill).2
    refine ⟨document, earlier ++ [reported], later, rfl, hsplit, ?_, ?_⟩
    · exact ⟨earlier, reported, [], rfl, (Prod.mk.inj hreaped).1, nofun⟩
    · rw [← hsplit]
      exact givesFreeNumbers_of_nodup (by rw [hstarted]; decide)

end Documents

end Runbook.Session
