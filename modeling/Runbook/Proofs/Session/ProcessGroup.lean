import Mathlib.Data.Fintype.EquivFin
import Mathlib.Logic.Relation
import Runbook.Proofs.Session.Yields
/-!
# The process group of a server

A server leads a process group, and stopping it sends a signal to the whole group. `ServerGroup` is
such a group: the processes that run in it, those of them that go on running when they are asked to
end, and the signals that it has been sent. Between two requests the processes do as they like
(`Happens`): they end, they start others, and they change how they take the signal. No process
leaves the group, none joins it from outside, and once the leader has ended no other process takes
its number. A wait for the leader reports its end only when it has ended (`Reports`).

Stopping a server waits for the leader alone. When the leader ends in time no other process is ended
by force, so a process that goes on running when it is asked to end can outlive the server.
`stopServer_empties_iff` says what is known after a server has been stopped, and that its group is
then empty in all runs exactly when each process ends when it is asked to.
-/

set_option autoImplicit false

namespace Runbook.Session

open Block Machine Work

/-! ### Groups -/

/-- The process group of a server. -/
structure ServerGroup where
  /-- The processes that run. -/
  running : Finset ProcessId
  /-- The processes that go on running when they are asked to end. -/
  outliving : Finset ProcessId
  /-- The signals that the group has been sent, in order. -/
  signals : List Signal

namespace ServerGroup

variable {leader : ProcessId} {group middle reached : ServerGroup}

/-- The group after a signal. Nothing goes on running when it is ended by force. -/
def signaled (group : ServerGroup) (signal : Signal) : ServerGroup where
  running := match signal with
    | .terminate => group.running ∩ group.outliving
    | .kill => ∅
  outliving := group.outliving
  signals := group.signals ++ [signal]

/-- What happens in a group when no signal is sent to it. -/
inductive Happens (leader : ProcessId) : ServerGroup → ServerGroup → Prop where
  /-- Only some processes go on running. -/
  | ends {group : ServerGroup} {kept : Finset ProcessId} (hkept : kept ⊆ group.running) :
      Happens leader group { group with running := kept }
  /-- A process starts another one. -/
  | starts {group : ServerGroup} {parent child : ProcessId} (hparent : parent ∈ group.running)
      (hnew : child ∉ group.running) (hleader : child ≠ leader) :
      Happens leader group { group with running := insert child group.running }
  /-- Processes change how they take the signal that asks them to end. -/
  | reacts {group : ServerGroup} (outliving : Finset ProcessId) :
      Happens leader group { group with outliving }

/-- What happens in a group for some time. -/
abbrev Passes (leader : ProcessId) : ServerGroup → ServerGroup → Prop :=
  Relation.ReflTransGen (Happens leader)

/-- The group when a request is answered. -/
def asked (leader : ProcessId) (group : ServerGroup) : Request → ServerGroup
  | .signalGroup process signal => if process = leader then group.signaled signal else group
  | _ => group

/-- The end of the leader is reported only when it has ended. -/
def Reports (leader : ProcessId) (reached : ServerGroup) :
    (request : Request) → request.Reply → Prop
  | .awaitExit process _, .arrived (.status _) => process = leader → leader ∉ reached.running
  | _, _ => True

/-- The steps of a group: a request reaches it, and then some time passes. -/
def Moves (leader : ProcessId) : Steps ServerGroup := fun group request reply reached ↦
  Passes leader (group.asked leader request) reached ∧ Reports leader reached request reply

/-! ### What stays as time passes -/

/-- What stays as it is in a group to which no signal is sent. -/
structure Keeps (leader : ProcessId) (group reached : ServerGroup) : Prop where
  signals_eq : reached.signals = group.signals
  leader_notMem : leader ∉ group.running → leader ∉ reached.running
  running_eq_empty : group.running = ∅ → reached.running = ∅

theorem Keeps.refl (leader : ProcessId) (group : ServerGroup) : Keeps leader group group :=
  ⟨rfl, id, id⟩

theorem Keeps.trans (h : Keeps leader group middle) (hlater : Keeps leader middle reached) :
    Keeps leader group reached :=
  ⟨hlater.signals_eq.trans h.signals_eq, hlater.leader_notMem ∘ h.leader_notMem,
    hlater.running_eq_empty ∘ h.running_eq_empty⟩

theorem Happens.keeps (h : Happens leader group reached) : Keeps leader group reached := by
  cases h with
  | ends hkept =>
    refine ⟨rfl, fun hleader hmem ↦ hleader (hkept hmem), fun hempty ↦ ?_⟩
    exact Finset.subset_empty.1 (hempty ▸ hkept)
  | starts hparent _ hchild =>
    refine ⟨rfl, fun hleader hmem ↦ ?_, fun hempty ↦ ?_⟩
    · rcases Finset.mem_insert.1 hmem with heq | hmem
      · exact hchild heq.symm
      · exact hleader hmem
    · rw [hempty] at hparent
      exact absurd hparent (Finset.notMem_empty _)
  | reacts => exact ⟨rfl, id, id⟩

theorem Passes.keeps (h : Passes leader group reached) : Keeps leader group reached := by
  induction h with
  | refl => exact Keeps.refl leader group
  | tail _ hlast ih => exact ih.trans hlast.keeps

/-- As long as a process runs, it can come to that the leader has ended and another process runs. -/
theorem exists_passes_leaderless (h : group.running.Nonempty) :
    ∃ reached, Passes leader group reached ∧ leader ∉ reached.running ∧
      reached.running.Nonempty := by
  obtain ⟨parent, hparent⟩ := h
  obtain ⟨child, hchild⟩ := Infinite.exists_notMem_finset (insert leader group.running)
  obtain ⟨hne, hnew⟩ : child ≠ leader ∧ child ∉ group.running :=
    not_or.1 (mt Finset.mem_insert.2 hchild)
  have hstarts := Happens.starts hparent hnew hne
  have hends : Happens leader { group with running := insert child group.running }
      { group with running := {child} } :=
    .ends (Finset.singleton_subset_iff.2 (Finset.mem_insert_self _ _))
  exact ⟨_, .tail (.single hstarts) hends, mt Finset.mem_singleton.1 hne.symm,
    Finset.singleton_nonempty child⟩

/-! ### What is known of a group -/

/-- What is known of a group in between: the signals that it has been sent, and when it is empty. -/
structure IsSent (signals : List Signal) (emptied : Prop) (group : ServerGroup) : Prop where
  signals_eq : group.signals = signals
  running_eq_empty : emptied → group.running = ∅

theorem IsSent.of_keeps {signals : List Signal} {emptied : Prop} (h : IsSent signals emptied group)
    (hkeeps : Keeps leader group reached) : IsSent signals emptied reached :=
  ⟨hkeeps.signals_eq.trans h.signals_eq, hkeeps.running_eq_empty ∘ h.running_eq_empty⟩

theorem isSent_terminate (group : ServerGroup) :
    IsSent (group.signals ++ [.terminate]) (Disjoint group.running group.outliving)
      (group.signaled .terminate) :=
  ⟨rfl, Finset.disjoint_iff_inter_eq_empty.1⟩

theorem IsSent.kill {signals : List Signal} {emptied : Prop} (h : IsSent signals emptied group) :
    IsSent (signals ++ [.kill]) True (group.signaled .kill) :=
  ⟨congrArg (· ++ [Signal.kill]) h.signals_eq, fun _ ↦ rfl⟩

/-- What is known of the group of a server that has been stopped: its leader has ended, and all
others have if it was ended by force, or if each process of it ends when it is asked to. -/
structure IsStopped (leader : ProcessId) (group reached : ServerGroup) : Prop where
  leader_notMem : leader ∉ reached.running
  signals : reached.signals = group.signals ++ [.terminate] ∨
    reached.signals = group.signals ++ [.terminate, .kill] ∧ reached.running = ∅
  running_eq_empty : Disjoint group.running group.outliving → reached.running = ∅

end ServerGroup

/-! ### Stopping -/

open ServerGroup

variable {server : Server} {grace : Number.Duration} {session : Session} {group : ServerGroup}

/-- In every run in which a server is stopped its group has some property at the end. -/
def StopsWith (ends : ServerGroup → Prop) (server : Server) (grace : Number.Duration)
    (session : Session) (group : ServerGroup) : Prop :=
  Evolving (Moves server.process) (fun _ ↦ True) (stopServer server grace) session group
    fun result _ reached ↦ ∀ status, result = .ok status → ends reached

/-- A wait for the end of the leader that comes back leaves what is known of the group, and when it
comes back with a status the leader has ended. -/
theorem evolving_awaitEnd {deadline : Option Instant} {signals : List Signal} {emptied : Prop}
    (h : IsSent signals emptied group) :
    Evolving (Moves server.process) (fun _ ↦ True) (awaitEnd server deadline) session group
      fun result _ reached ↦ ∀ ended, result = .ok ended → IsSent signals emptied reached ∧
        ∀ status, ended = .status status → server.process ∉ reached.running := by
  refine Evolving.ask fun reply reached ⟨hpasses, hreports⟩ ↦ ⟨trivial, ?_⟩
  have hreached : IsSent signals emptied reached := h.of_keeps hpasses.keeps
  obtain ended | _ := reply
  · rintro _ ⟨⟩
    refine ⟨hreached, ?_⟩
    rintro status rfl
    exact hreports rfl
  · -- A run that is given up has no result.
    exact fun _ _ _ ↦ ⟨trivial, fun _ _ _ ↦ ⟨trivial, nofun⟩⟩

theorem stopsWith_isStopped (server : Server) (grace : Number.Duration) (session : Session)
    (group : ServerGroup) :
    StopsWith (IsStopped server.process group) server grace session group := by
  refine Evolving.ask fun _ asked ⟨hasked, _⟩ ↦ ⟨trivial, ?_⟩
  refine Evolving.ask fun _ started ⟨hstarted, _⟩ ↦ ⟨trivial, ?_⟩
  have hterminated : IsSent (group.signals ++ [.terminate])
      (Disjoint group.running group.outliving) started := by
    rw [ServerGroup.asked, if_pos rfl] at hasked
    exact ((isSent_terminate group).of_keeps hasked.keeps).of_keeps hstarted.keeps
  refine Evolving.bind (evolving_awaitEnd hterminated) (fun first session waited hfirst ↦ ?_)
    fun _ _ _ _ ↦ nofun
  obtain ⟨hwaited, hended⟩ := hfirst first rfl
  extract_lets rest
  have hrest (ended : Ended) (session : Session) (reached : ServerGroup)
      (hstopped : ∀ status, ended = .status status → IsStopped server.process group reached) :
      Evolving (Moves server.process) (fun _ ↦ True) (rest ended) session reached
        fun result _ reached ↦ ∀ status, result = .ok status →
          IsStopped server.process group reached := by
    cases ended with
    | status status => exact fun _ _ ↦ hstopped status rfl
    | failed error => exact fun _ _ _ ↦ ⟨trivial, nofun⟩
    | elapsed => exact fun _ _ _ ↦ ⟨trivial, nofun⟩
  cases first with
  | status status =>
    refine hrest (.status status) session waited fun _ _ ↦ ⟨hended status rfl, ?_, ?_⟩
    · exact .inl hwaited.signals_eq
    · exact hwaited.running_eq_empty
  | failed error => exact hrest (.failed error) session waited nofun
  | elapsed =>
    refine Evolving.ask fun _ killed ⟨hkilled, _⟩ ↦ ⟨trivial, ?_⟩
    rw [ServerGroup.asked, if_pos rfl] at hkilled
    refine Evolving.bind (evolving_awaitEnd (hwaited.kill.of_keeps hkilled.keeps))
      (fun ended session reached hended ↦ ?_) fun _ _ _ _ ↦ nofun
    obtain ⟨hreached, hgone⟩ := hended ended rfl
    have hempty : reached.running = ∅ := hreached.running_eq_empty trivial
    refine hrest ended session reached fun status hstatus ↦ ⟨hgone status hstatus, ?_, ?_⟩
    · refine .inr ⟨hreached.signals_eq.trans ?_, hempty⟩
      rw [List.append_assoc, List.singleton_append]
    · exact fun _ ↦ hempty

/-- A process that goes on running when it is asked to end can outlive a server that is stopped. -/
theorem disjoint_of_stopsWith (h : StopsWith (·.running = ∅) server grace session group) :
    Disjoint group.running group.outliving := by
  by_contra hmeet
  have hleft : (group.signaled .terminate).running.Nonempty :=
    Finset.not_disjoint_iff_nonempty_inter.1 hmeet
  obtain ⟨reached, hpasses, hleader, hsurvives⟩ :=
    @exists_passes_leaderless server.process _ hleft
  have hasked : Moves server.process group (.signalGroup server.process .terminate) ()
      (group.signaled .terminate) := by
    refine ⟨?_, trivial⟩
    rw [ServerGroup.asked, if_pos rfl]
  -- The run in which the leader ends in time: the signal, the clock, and the end of the leader.
  have hclock := (h () _ hasked).2 (0 : Instant) _ ⟨.refl, trivial⟩
  have hended := hclock.2 (.arrived (.status (.exited 0))) reached ⟨hpasses, fun _ ↦ hleader⟩
  exact hsurvives.ne_empty (hended.2 (.exited 0) rfl)

/-- Whatever the processes of a server do and whatever time it is given, once the server has been
stopped its leader has ended, and its group has been asked to end and then, unless the leader did so
in time, ended by force; in the latter case nothing of the group runs any more. So nothing of the
group runs any more in all runs exactly when every process ends when it is asked to. -/
theorem stopServer_empties_iff (server : Server) (grace : Number.Duration) (session : Session)
    (group : ServerGroup) :
    StopsWith (IsStopped server.process group) server grace session group ∧
    (StopsWith (·.running = ∅) server grace session group ↔
      Disjoint group.running group.outliving) := by
  have hstop := stopsWith_isStopped server grace session group
  refine ⟨hstop, disjoint_of_stopsWith, fun hdisjoint ↦ ?_⟩
  exact hstop.imp fun _ _ _ hend status hstatus ↦ (hend status hstatus).running_eq_empty hdisjoint

/-- A server whose leader ends when it is asked to, with a helper that does not: the helper can run
on after the server has been stopped. -/
theorem stopServer_helperRuns :
    ¬StopsWith (·.running = ∅) ⟨"web", "run", 1⟩ StopServer.defaultGrace
      (Session.new ⟨"work", "assets", none, "run", "sh", "/", .default⟩) ⟨{1, 2}, {2}, []⟩ := by
  intro h
  have hdisjoint : Disjoint ({1, 2} : Finset ProcessId) {2} := disjoint_of_stopsWith h
  exact absurd hdisjoint (by decide)

end Runbook.Session
