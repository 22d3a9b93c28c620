import Mathlib.Data.List.Chain
import Runbook.Proofs.Session.Refusals
import Runbook.Proofs.Session.Substitution
/-!
# How the run of a document ends

The blocks of a plan run one after the other, and the first one that stops is the last one that
runs. `Handled` says that all of them give a value, `StopsAt` that one of them is the first that
does not, and one of the two holds of every plan (`handled_or_stopsAt`). Each of them determines the
run of the blocks (`Handled.follow_runBlocks`, `StopsAt.follow_runBlocks`).

`switches name plan` lists the starts and the stops of one server in the order of the plan. Running
the plan turns the server on and off in this order, so the list alternates, and its last entry says
whether the server is running at the end (`Handled.switches_chain`).

That no server is left holds under all answers and is shown along the text of the run, with one
statement for each of its parts (`ends_runDocument`).

`runDocument_exits` puts this together for a document that is run in a fresh session. However the
run ends, no server is left. A run that is not given up is refused, or fails at the first block that
fails, or, when all blocks succeed, gives the finished document or names the servers that were
started and not stopped.
-/

set_option autoImplicit false

namespace Runbook

open Block Machine

/-! ### Plans -/

namespace Document

variable {scope : String} {index : Nat} {nodes : List Node} {plan : List PlannedBlock}

/-- The blocks of a plan stand in the order of their nodes. -/
theorem planNodes_pairwise (h : planNodes scope index nodes = .ok plan) :
    plan.Pairwise fun first second ↦ first.index < second.index := by
  induction nodes generalizing index plan with
  | nil =>
    cases h
    exact .nil
  | cons node nodes ih =>
    obtain ⟨first, blocks, hfirst, hblocks, rfl⟩ := planNodes_cons h
    cases first with
    | none => exact ih hblocks
    | some block =>
      refine List.pairwise_cons.2 ⟨fun later hlater ↦ ?_, ih hblocks⟩
      rw [(Node.isOf_of_plan hfirst).index_eq]
      exact le_index_of_mem_planNodes hblocks later hlater

/-- Each runnable node has a block in the plan. -/
theorem exists_mem_planNodes (h : planNodes scope index nodes = .ok plan) {place : Nat}
    {node : Node} (hnode : nodes[place]? = some node) (hrunnable : node.IsRunnable scope) :
    ∃ block ∈ plan, block.index = index + place := by
  induction nodes generalizing index plan place with
  | nil => cases hnode
  | cons first rest ih =>
    obtain ⟨shown, blocks, hfirst, hblocks, rfl⟩ := planNodes_cons h
    cases place with
    | zero =>
      cases hnode
      cases shown with
      | none => exact (Node.not_isRunnable_of_plan hfirst hrunnable).elim
      | some block => exact ⟨block, List.mem_cons_self, (Node.isOf_of_plan hfirst).index_eq⟩
    | succ place =>
      obtain ⟨block, hblock, hindex⟩ := ih hblocks hnode
      exact ⟨block, List.mem_append_right _ hblock, by omega⟩

/-- A plan holds a block for each runnable node of a document, in the order of the nodes, and no
others; it is empty when the settings of the document turn running off. -/
structure Enumerates (plan : List PlannedBlock) (scope : String) (document : Document) : Prop where
  ordered : plan.Pairwise fun first second ↦ first.index < second.index
  sound : ∀ block ∈ plan, ∃ node, document.nodes[block.index]? = some node ∧
    block.IsOf scope block.index node
  complete : document.runs = true → ∀ index node, document.nodes[index]? = some node →
    node.IsRunnable scope → ∃ block ∈ plan, block.index = index
  idle : document.runs = false → plan = []

theorem enumerates_of_plan {document : Document} (h : document.plan scope = .ok plan) :
    Enumerates plan scope document := by
  have hcases : document.runs = true ∧ planNodes scope 0 document.nodes = .ok plan ∨
      document.runs = false ∧ plan = [] := by
    unfold Document.plan at h
    unfold Document.runs
    cases hsettings : document.frontmatter with
    | none =>
      rw [hsettings] at h
      exact .inl ⟨rfl, h⟩
    | some settings =>
      simp only [hsettings] at h
      split at h
      · next hruns => exact .inl ⟨hruns, h⟩
      · next hruns =>
        cases h
        exact .inr ⟨Bool.eq_false_of_not_eq_true hruns, rfl⟩
  rcases hcases with ⟨hruns, hnodes⟩ | ⟨hruns, rfl⟩
  · refine ⟨planNodes_pairwise hnodes, fun block hblock ↦ ?_, fun _ index node hnode hrunnable ↦ ?_,
      fun hidle ↦ nomatch hruns.symm.trans hidle⟩
    · obtain ⟨place, node, hnode, hindex, hof⟩ := planNodes_isOf hnodes block hblock
      rw [Nat.zero_add] at hindex
      exact ⟨node, hindex ▸ hnode, hof⟩
    · obtain ⟨block, hblock, hindex⟩ := exists_mem_planNodes hnodes hnode hrunnable
      exact ⟨block, hblock, hindex.trans (Nat.zero_add index)⟩
  · exact ⟨.nil, nofun, fun hbusy ↦ (nomatch hbusy.symm.trans hruns), fun _ ↦ rfl⟩

end Document

namespace Block

/-- Whether an action starts or stops the server with a name, if it does either. -/
def Action.switch? (name : String) : Action → Option Bool
  | .startServer block => if block.name = name then some true else none
  | .stopServer block => if block.name = name then some false else none
  | _ => none

end Block

namespace Session

open Document Work

/-- The starts and stops of the server with a name, in the order of a plan. -/
def switches (name : String) (plan : List PlannedBlock) : List Bool :=
  plan.filterMap fun block ↦ block.action.switch? name

/-- Starts and stops that alternate and begin with a start. -/
structure Alternates (switches : List Bool) : Prop where
  starts : switches.head? ≠ some false
  alternates : switches.IsChain (· ≠ ·)

/-! ### Servers along a plan -/

section Servers

variable {σ : Type} {answer : σ → (r : Request) → r.Reply × σ} {session last : Session}
  {state final : σ} {plan : List PlannedBlock} {results : List (Option Node)}
  {servers later : Registry} {action : Action}

/-- What an action does to the server with a name: it turns it on or off when the server was not in
that state before, or leaves it alone. -/
theorem Switches.contains (h : Switches action servers later) (name : String) :
    match action.switch? name with
    | some on => servers.contains name = !on ∧ later.contains name = on
    | none => later.contains name = servers.contains name := by
  cases action with
  | startServer block =>
    obtain ⟨hfree, server, hname, rfl⟩ := h
    by_cases hsame : block.name = name
    · subst hsame
      simp only [Action.switch?, if_true]
      exact ⟨Registry.contains_eq_false.2 hfree,
        Registry.contains_eq_true.2 ((Registry.mem_names_insert _ _ _).2 (.inl hname.symm))⟩
    · simp only [Action.switch?, if_neg hsame]
      rw [Bool.eq_iff_iff, Registry.contains_eq_true, Registry.contains_eq_true,
        Registry.mem_names_insert, hname, or_iff_right (Ne.symm hsame)]
  | stopServer block =>
    obtain ⟨hfound, rfl⟩ := h
    by_cases hsame : block.name = name
    · subst hsame
      simp only [Action.switch?, if_true]
      refine ⟨Registry.contains_eq_true.2 hfound, Registry.contains_eq_false.2 fun hmem ↦ ?_⟩
      exact ((Registry.mem_names_erase _ _ _).1 hmem).1 rfl
    · simp only [Action.switch?, if_neg hsame]
      rw [Bool.eq_iff_iff, Registry.contains_eq_true, Registry.contains_eq_true,
        Registry.mem_names_erase, and_iff_right (Ne.symm hsame)]
  | _ => exact congrArg (Registry.contains · name) h

theorem Switches.ordered (h : Switches action servers later) (hordered : servers.Ordered) :
    later.Ordered := by
  cases action with
  | startServer block =>
    obtain ⟨hfree, server, hname, rfl⟩ := h
    exact hordered.insert (hname ▸ hfree)
  | stopServer block =>
    obtain ⟨-, rfl⟩ := h
    exact hordered.erase block.name
  | _ =>
    obtain rfl : later = servers := h
    exact hordered

/-- An action that succeeds in a run switches the servers. -/
theorem switches_of_follow {shown : Option Node}
    (h : follow answer (runAction action) session state = ((.ok shown, last), final)) :
    Switches action session.servers last.servers := by
  have hends := (leaves_runAction action session).follow (keeps_all answer) state
  rw [h] at hends
  exact hends.1

/-- Along a plan whose actions succeed, the server with a name is turned on and off in turn, and at
the end it is running as it was last turned. -/
theorem Handled.switches_chain (h : Handled answer plan session state results last final)
    (name : String) :
    (session.servers.contains name :: switches name plan).IsChain (· ≠ ·) ∧
      last.servers.contains name =
        ((switches name plan).getLast?.getD (session.servers.contains name)) := by
  induction h with
  | done => exact ⟨.singleton _, rfl⟩
  | @block block plan result results session between last state reached final hblock hrest ih =>
    have hswitch := (switches_of_follow hblock).contains name
    rw [switches, List.filterMap_cons]
    cases hturn : block.action.switch? name with
    | none =>
      rw [hturn] at hswitch
      rw [hswitch] at ih
      exact ih
    | some on =>
      rw [hturn] at hswitch
      obtain ⟨hbefore, hafter⟩ := hswitch
      rw [hafter] at ih
      refine ⟨?_, ?_⟩
      · rw [hbefore]
        exact List.isChain_cons_cons.2 ⟨by simp, ih.1⟩
      · rw [ih.2, ← switches, List.getLast?_cons]
        rfl

theorem Handled.ordered (h : Handled answer plan session state results last final)
    (hordered : session.servers.Ordered) : last.servers.Ordered := by
  induction h with
  | done => exact hordered
  | block hblock hrest ih => exact ih ((switches_of_follow hblock).ordered hordered)

end Servers

/-! ### The blocks of a plan -/

section Runs

variable {σ : Type} {answer : σ → (r : Request) → r.Reply × σ} {session last : Session}
  {state final : σ} {plan : List PlannedBlock} {results : List (Option Node)}

/-- The first block of a plan whose action stops: the actions before it succeed, one after the
other, and it stops with the session and the machine in some state. -/
inductive StopsAt (answer : σ → (r : Request) → r.Reply × σ) :
    List PlannedBlock → Session → σ → PlannedBlock → Stop → Session → σ → Prop where
  | here {block : PlannedBlock} {rest : List PlannedBlock} {stop : Stop} {session broken : Session}
      {state stopped : σ}
      (hblock : follow answer (runAction block.action) session state =
        ((.error stop, broken), stopped)) :
      StopsAt answer (block :: rest) session state block stop broken stopped
  | later {first block : PlannedBlock} {rest : List PlannedBlock} {shown : Option Node}
      {stop : Stop} {session between broken : Session} {state reached stopped : σ}
      (hfirst : follow answer (runAction first.action) session state =
        ((.ok shown, between), reached))
      (hrest : StopsAt answer rest between reached block stop broken stopped) :
      StopsAt answer (first :: rest) session state block stop broken stopped

/-- The actions of a plan all succeed, or one of them is the first that stops. -/
theorem handled_or_stopsAt (answer : σ → (r : Request) → r.Reply × σ) (plan : List PlannedBlock)
    (session : Session) (state : σ) :
    (∃ results last final, Handled answer plan session state results last final) ∨
      ∃ block stop broken stopped, StopsAt answer plan session state block stop broken stopped := by
  induction plan generalizing session state with
  | nil => exact .inl ⟨[], session, state, .done session state⟩
  | cons block plan ih =>
    generalize hblock : follow answer (runAction block.action) session state = out
    obtain ⟨⟨stop | shown, between⟩, reached⟩ := out
    · exact .inr ⟨block, stop, between, reached, .here hblock⟩
    · rcases ih between reached with
        ⟨results, last, final, hrest⟩ | ⟨later, stop, broken, stopped, hrest⟩
      · exact .inl ⟨shown :: results, last, final, .block hblock hrest⟩
      · exact .inr ⟨later, stop, broken, stopped, .later hblock hrest⟩

theorem follow_runBlock_of_ok {block : PlannedBlock} {shown : Option Node}
    (h : follow answer (runAction block.action) session state = ((.ok shown, last), final)) :
    follow answer (runBlock block) session state = ((.ok shown, last), final) := by
  rw [runBlock, follow_tryCatch, follow_located, h]

/-- When all actions of a plan succeed, its blocks give what the actions show. -/
theorem Handled.follow_runBlocks (h : Handled answer plan session state results last final) :
    follow answer (runBlocks plan) session state = ((.ok (shownBy plan results), last), final) := by
  induction h with
  | done => rfl
  | block hblock _ ih =>
    rw [runBlocks, follow_bind, follow_runBlock_of_ok hblock]
    simp only [follow_bind, ih]
    rfl

/-- When an action of a plan fails, the session is shut down and nothing of the later blocks is run.
Assumes: the session can be shut down without the run being given up. -/
theorem StopsAt.follow_runBlocks {block : PlannedBlock} {cause : Failure} {broken : Session}
    {stopped : σ} (h : StopsAt answer plan session state block (.failed cause) broken stopped)
    (habort : follow answer abort broken stopped = ((.ok (), last), final)) :
    follow answer (runBlocks plan) session state =
      ((.error (.failed (.block block.line (some block.action.kind) cause)), last), final) := by
  generalize hstop : Stop.failed cause = stop at h
  induction h with
  | here hblock =>
    subst hstop
    rw [runBlocks, follow_bind, runBlock, follow_tryCatch, follow_located, hblock]
    simp only [follow_bind, follow_located, habort]
    rfl
  | later hfirst _ ih =>
    rw [runBlocks, follow_bind, follow_runBlock_of_ok hfirst]
    simp only [follow_bind, ih habort hstop]

/-! ### The end of a session -/

theorem follow_get {ε α : Type} (next : Session → ExceptT ε (StateT Session Act) α)
    (session : Session) (state : σ) :
    follow answer (MonadState.get >>= next) session state =
      follow answer (next session) session state := by
  unfold follow
  rw [after_bind, after_get, pure_bind]

/-- A session without servers ends without failing, and nothing happens then. -/
theorem follow_finish_of_nil (h : session.servers = []) (state : σ) :
    follow answer finish session state = ((.ok (), session), state) := by
  rw [finish, follow_get, if_pos (List.isEmpty_iff.2 h)]
  rfl

/-- A session with servers names them and fails.
Assumes: the machine never gives the run up. -/
theorem follow_finish_of_ne (hanswer : Keeps answer .lasting) (h : session.servers ≠ [])
    (state : σ) :
    ∃ last final, follow answer finish session state =
      ((.error (.failed (.leaked session.servers.names)), last), final) := by
  have hends := (@leaves_finish .lasting session).follow hanswer state
  generalize follow answer finish session state = out at hends
  obtain ⟨⟨(cause | _) | _, last⟩, final⟩ := out
  · obtain ⟨⟨-, rfl⟩, -⟩ := hends
    exact ⟨last, final, rfl⟩
  · exact (Answers.not_givesUp_lasting hends.1).elim
  · exact (h hends.1).elim

/-- A session can be shut down after a failure.
Assumes: the machine never gives the run up. -/
theorem follow_abort (hanswer : Keeps answer .lasting) (session : Session) (state : σ) :
    ∃ last final, follow answer abort session state = ((.ok (), last), final) := by
  have hends := (@leaves_abort .lasting session).follow hanswer state
  generalize follow answer abort session state = out at hends
  obtain ⟨⟨(_ | _) | _, last⟩, final⟩ := out
  · exact hends.1.elim
  · exact (Answers.not_givesUp_lasting hends.1).elim
  · exact ⟨last, final, rfl⟩

/-! ### Runs of a plan -/

/-- When all actions of a plan succeed and no server is left, the run gives the finished
document. -/
theorem Handled.follow_runPlan (h : Handled answer plan session state results last final)
    (hservers : last.servers = []) (document : Document) :
    follow answer (runPlan document plan) session state =
      ((.ok (document.substitute (shownBy plan results)), last), final) := by
  rw [runPlan, follow_tryCatch, follow_bind, h.follow_runBlocks]
  simp only [follow_bind, follow_located, follow_finish_of_nil hservers]
  rfl

/-- When all actions of a plan succeed and servers are left, the run fails and names them.
Assumes: the machine never gives the run up. -/
theorem Handled.follow_runPlan_leaked (h : Handled answer plan session state results last final)
    (hanswer : Keeps answer .lasting) (hservers : last.servers ≠ []) (document : Document) :
    (follow answer (runPlan document plan) session state).1.1 =
      .error (.failed (.document (.leaked last.servers.names))) := by
  obtain ⟨ended, stopped, hfinish⟩ := follow_finish_of_ne hanswer hservers final
  rw [runPlan, follow_tryCatch, follow_bind, h.follow_runBlocks]
  simp only [follow_bind, follow_located, hfinish]
  rfl

/-- When an action of a plan fails, the run fails as the blocks do. -/
theorem StopsAt.follow_runPlan {block : PlannedBlock} {cause : Failure} {broken : Session}
    {stopped : σ} (h : StopsAt answer plan session state block (.failed cause) broken stopped)
    (habort : follow answer abort broken stopped = ((.ok (), last), final)) (document : Document) :
    follow answer (runPlan document plan) session state =
      ((.error (.failed (.block block.line (some block.action.kind) cause)), last), final) := by
  rw [runPlan, follow_tryCatch, follow_bind, h.follow_runBlocks habort]
  rfl

/-- A machine that never gives a run up lets no action stop otherwise than by failing. -/
theorem StopsAt.failed {block : PlannedBlock} {stop : Stop} {broken : Session} {stopped : σ}
    (h : StopsAt answer plan session state block stop broken stopped)
    (hanswer : Keeps answer .lasting) : ∃ cause, stop = .failed cause := by
  induction h with
  | later _ _ ih => exact ih
  | @here block rest stop session broken state stopped hblock =>
    have hends := (leaves_runAction block.action session).follow hanswer state
    rw [hblock] at hends
    cases stop with
    | failed cause => exact ⟨cause, rfl⟩
    | abandoned => exact (Answers.not_givesUp_lasting hends.1).elim

end Runs

/-! ### No server is left -/

section Ends

variable {α : Type} {answers : Answers} {session : Session}

theorem Ends.located {place : Failure → RunError} {work : Work α}
    {between : Except Stop α × Session → Prop} {ends : Except Interruption α × Session → Prop}
    (h : Ends answers work session between)
    (hok : ∀ value reached, between (.ok value, reached) → ends (.ok value, reached))
    (hfailed : ∀ cause reached, between (.error (.failed cause), reached) →
      ends (.error (.failed (place cause)), reached))
    (habandoned : ∀ reached, between (.error .abandoned, reached) →
      ends (.error .abandoned, reached)) :
    Ends answers (located place work) session ends := by
  refine (Act.alwaysUnder_bind (after work session) _ _).2 (h.imp fun out hout ↦ ?_)
  obtain ⟨(cause | _) | value, reached⟩ := out
  · exact hfailed cause reached hout
  · exact habandoned reached hout
  · exact hok value reached hout

/-- An end of a run of blocks: after a failure no server is left, and the run is given up only when
the answers give it up. -/
def Drained (answers : Answers) : Except Interruption α × Session → Prop
  | (.ok _, _) => True
  | (.error (.failed _), reached) => reached.servers = []
  | (.error .abandoned, _) => answers.GivesUp

/-- An end of a run: no server is left, and the run is given up only when the answers give it up. -/
def Emptied (answers : Answers) (out : Except Interruption α × Session) : Prop :=
  out.2.servers = [] ∧ (out.1 = .error .abandoned → answers.GivesUp)

theorem Emptied.drained {out : Except Interruption α × Session} (h : Emptied answers out) :
    Drained answers out := by
  obtain ⟨(_ | _) | _, reached⟩ := out
  · exact h.1
  · exact h.2 rfl
  · trivial

theorem Drained.stop {β : Type} {cause : Interruption} {reached : Session}
    (h : Drained (α := α) answers (.error cause, reached)) :
    Drained (α := β) answers (.error cause, reached) := by
  cases cause <;> exact h

theorem Emptied.stop {β : Type} {cause : Interruption} {reached : Session}
    (h : Emptied (α := α) answers (.error cause, reached)) :
    Emptied (α := β) answers (.error cause, reached) := by
  refine ⟨h.1, ?_⟩
  rintro ⟨⟩
  exact h.2 rfl

/-- Work that always leaves no server still leaves none when its failures get a place. -/
theorem Leaves.emptied {work : Work α} {place : Failure → RunError} {good : α → Registry → Prop}
    {fails : Failure → Prop} (h : work.Leaves answers session good fails fun servers ↦ servers = [])
    (hgood : ∀ value servers, good value servers → servers = []) :
    Ends answers (located place work) session (Emptied answers) :=
  Ends.located h (fun value reached hvalue ↦ ⟨hgood value reached.servers hvalue, nofun⟩)
    (fun _ _ hcause ↦ ⟨hcause.2, nofun⟩) fun _ hgivesUp ↦ ⟨hgivesUp.2, fun _ ↦ hgivesUp.1⟩

theorem ends_runBlock (block : PlannedBlock) (session : Session) :
    Ends answers (runBlock block) session (Drained answers) := by
  have haction : Ends answers
      (located (.block block.line (some block.action.kind)) (runAction block.action)) session
      fun out ↦ out.1 = .error .abandoned → answers.GivesUp :=
    Ends.located (leaves_runAction block.action session) (fun _ _ _ ↦ nofun) (fun _ _ _ ↦ nofun)
      fun _ hout _ ↦ hout.1
  refine haction.tryCatch (fun _ _ _ ↦ trivial) ?_
  rintro (error | _) reached hgivesUp
  · exact (Leaves.emptied leaves_abort fun _ _ h ↦ h).bind (fun _ _ hout ↦ hout.1)
      fun _ _ hout ↦ hout.drained.stop
  · exact hgivesUp rfl

theorem ends_runBlocks (plan : List PlannedBlock) (session : Session) :
    Ends answers (runBlocks plan) session (Drained answers) := by
  induction plan generalizing session with
  | nil => exact trivial
  | cons block plan ih =>
    refine (ends_runBlock block session).bind (fun _ between _ ↦ ?_) fun _ _ hout ↦ hout.stop
    exact (ih between).bind (fun _ _ _ ↦ trivial) fun _ _ hout ↦ hout.stop

/-- Whatever the answers are and however the run of a plan ends, no server is left. -/
theorem ends_runPlan (document : Document) (plan : List PlannedBlock) (session : Session) :
    Ends answers (runPlan document plan) session (Emptied answers) := by
  have hblocks : Ends answers
      (do
        let shown ← runBlocks plan
        located .document finish
        return document.substitute shown) session
      fun out ↦ Drained answers out ∧ ∀ finished, out.1 = .ok finished → out.2.servers = [] := by
    refine (ends_runBlocks plan session).bind (fun shown between _ ↦ ?_) ?_
    · exact (Leaves.emptied leaves_finish fun _ _ h ↦ h.2).bind
        (fun _ _ hout ↦ ⟨trivial, fun _ _ ↦ hout.1⟩) fun _ _ hout ↦ ⟨hout.drained.stop, nofun⟩
    · exact fun _ _ hout ↦ ⟨hout.stop, nofun⟩
  refine hblocks.tryCatch (fun finished _ hout ↦ ⟨hout.2 finished rfl, nofun⟩) ?_
  rintro (error | _) reached ⟨hout, -⟩
  · exact ⟨hout, nofun⟩
  · exact (Leaves.emptied leaves_dropAll fun _ _ h ↦ h).bind
      (fun _ _ hdropped ↦ ⟨hdropped.1, fun _ ↦ hout⟩) fun _ _ hdropped ↦ hdropped.stop

/-- Whatever the answers are and however the run of a document ends, no server is left. Assumes:
there is none at the start. -/
theorem ends_runDocument (document : Document) (hservers : session.servers = []) :
    Ends answers (runDocument document) session (Emptied answers) := by
  refine ends_get ?_
  split
  · exact ⟨hservers, nofun⟩
  · exact ends_runPlan document _ session

end Ends

/-! ### Runs of a document -/

section Discipline

variable {σ : Type} {answer : σ → (r : Request) → r.Reply × σ} {document : Document}
  {plan : List PlannedBlock} {session : Session} {state : σ}

/-- The ends of a run of a document that has a plan, on a machine that never gives the run up. -/
structure Disciplined (answer : σ → (r : Request) → r.Reply × σ) (document : Document)
    (plan : List PlannedBlock) (session : Session) (state : σ) : Prop where
  /-- All actions succeed or there is a first one that fails. -/
  handled_or_failed : (∃ results last final, Handled answer plan session state results last final) ∨
    ∃ block cause broken stopped,
      StopsAt answer plan session state block (.failed cause) broken stopped
  /-- After the first action that fails nothing is done but to shut the session down. The failure
  has the line of the node of that block and the kind of the runnable block that it is. -/
  failed : ∀ block cause broken stopped,
    StopsAt answer plan session state block (.failed cause) broken stopped →
      ∃ node code runnable last final, document.nodes[block.index]? = some node ∧
        node.codeBlock? = some code ∧
        code.runnable? session.options.scope = .ok (some runnable) ∧
        follow answer abort broken stopped = ((.ok (), last), final) ∧
        follow answer (runDocument document) session state =
          ((.error (.failed (.block node.line (some runnable.kind) cause)), last), final)
  /-- When all actions succeed, the starts and stops of each server alternate. -/
  alternates : ∀ results last final, Handled answer plan session state results last final →
    ∀ name, Alternates (switches name plan)
  /-- When all actions succeed and each server that was started was stopped, the run gives the
  finished document. -/
  finished : ∀ results last final, Handled answer plan session state results last final →
    (∀ name, (switches name plan).getLast? ≠ some true) →
      follow answer (runDocument document) session state =
        ((.ok (document.substitute (shownBy plan results)), last), final)
  /-- When all actions succeed and a server was started and not stopped since, the run names all
  such servers, each once and in order. -/
  leaked : ∀ results last final, Handled answer plan session state results last final →
    (∃ name, (switches name plan).getLast? = some true) →
      ∃ names : List String, names.Pairwise (· < ·) ∧
        (∀ name, name ∈ names ↔ (switches name plan).getLast? = some true) ∧
        (follow answer (runDocument document) session state).1.1 =
          .error (.failed (.document (.leaked names)))

theorem follow_runDocument_of_plan (h : document.plan session.options.scope = .ok plan)
    (state : σ) :
    follow answer (runDocument document) session state =
      follow answer (runPlan document plan) session state :=
  congrArg (·.run answer state) (after_runDocument_of_plan h)

theorem StopsAt.mem {block : PlannedBlock} {stop : Stop} {broken : Session} {stopped : σ}
    (h : StopsAt answer plan session state block stop broken stopped) : block ∈ plan := by
  induction h with
  | here _ => exact List.mem_cons_self
  | later _ _ ih => exact List.mem_cons_of_mem _ ih

/-- Along a plan whose actions succeed, starting without servers. -/
theorem Handled.alternates {results : List (Option Node)} {last : Session} {final : σ}
    (h : Handled answer plan session state results last final) (hservers : session.servers = [])
    (name : String) : Alternates (switches name plan) := by
  have hchain := (h.switches_chain name).1
  rw [hservers] at hchain
  refine ⟨fun hhead ↦ ?_, hchain.tail⟩
  obtain ⟨rest, hrest⟩ := List.head?_eq_some_iff.1 hhead
  rw [hrest] at hchain
  exact (List.isChain_cons_cons.1 hchain).1 rfl

/-- Along a plan whose actions succeed, starting without servers, those are left that were started
and not stopped since. -/
theorem Handled.mem_names {results : List (Option Node)} {last : Session} {final : σ}
    (h : Handled answer plan session state results last final) (hservers : session.servers = [])
    (name : String) : name ∈ last.servers.names ↔ (switches name plan).getLast? = some true := by
  rw [← Registry.contains_eq_true, (h.switches_chain name).2, hservers]
  cases (switches name plan).getLast? with
  | none => exact iff_of_false nofun nofun
  | some on => exact Option.some_inj.symm

theorem disciplined_of_plan (hplan : document.plan session.options.scope = .ok plan)
    (hservers : session.servers = []) (hanswer : Keeps answer .lasting) (state : σ) :
    Disciplined answer document plan session state where
  handled_or_failed := by
    refine (handled_or_stopsAt answer plan session state).imp_right ?_
    rintro ⟨block, stop, broken, stopped, hstops⟩
    obtain ⟨cause, rfl⟩ := hstops.failed hanswer
    exact ⟨block, cause, broken, stopped, hstops⟩
  failed block cause broken stopped hstops := by
    obtain ⟨node, hnode, hof⟩ := (enumerates_of_plan hplan).sound block hstops.mem
    obtain ⟨code, runnable, hcode, hrunnable, haction⟩ := hof.action_eq
    obtain ⟨last, final, habort⟩ := follow_abort hanswer broken stopped
    refine ⟨node, code, runnable, last, final, hnode, hcode, hrunnable, habort, ?_⟩
    rw [follow_runDocument_of_plan hplan, hstops.follow_runPlan habort, hof.line_eq,
      Action.kind_of_parse haction]
  alternates _ _ _ hhandled := hhandled.alternates hservers
  finished results last final hhandled hstopped := by
    rw [follow_runDocument_of_plan hplan]
    refine hhandled.follow_runPlan ?_ document
    -- A server that is left would have been started and not stopped.
    refine List.eq_nil_iff_forall_not_mem.2 fun server hserver ↦ hstopped server.name ?_
    exact (hhandled.mem_names hservers _).1 (List.mem_map_of_mem hserver)
  leaked results last final hhandled := by
    rintro ⟨started, hstarted⟩
    have hleft := (hhandled.mem_names hservers started).2 hstarted
    have hne : last.servers ≠ [] := by
      rintro hnil
      rw [hnil] at hleft
      cases hleft
    refine ⟨last.servers.names, hhandled.ordered (hservers ▸ Registry.ordered_nil),
      hhandled.mem_names hservers, ?_⟩
    rw [follow_runDocument_of_plan hplan]
    exact hhandled.follow_runPlan_leaked hanswer hne document

/-- How the run of a document in a fresh session ends. Whatever the machine answers, no server is
left. A document without a plan is refused before anything is done. One with a plan, which holds its
runnable blocks in order, gives a finished document only when the starts and stops of each server
alternate and end with a stop; and on a machine that never gives the run up, its run goes through
the blocks one after the other to the first that fails, and ends as `Disciplined` says. -/
theorem runDocument_exits (answer : σ → (r : Request) → r.Reply × σ) (document : Document)
    (options : Options) (state : σ) :
    (follow answer (runDocument document) (.new options) state).1.2.servers = [] ∧
    (∀ refused, document.plan options.scope = .error refused →
      follow answer (runDocument document) (.new options) state =
        ((.error (.failed (.ofRefused refused)), .new options), state)) ∧
    ∀ plan, document.plan options.scope = .ok plan → Enumerates plan options.scope document ∧
      (∀ finished, (follow answer (runDocument document) (.new options) state).1.1 = .ok finished →
        ∀ name, Alternates (switches name plan) ∧ (switches name plan).getLast? ≠ some true) ∧
      (Keeps answer .lasting → Disciplined answer document plan (.new options) state) := by
  refine ⟨?_, fun refused hrefused ↦ ?_, fun plan hplan ↦ ⟨enumerates_of_plan hplan, ?_, ?_⟩⟩
  · exact ((ends_runDocument document rfl).follow (keeps_all answer) state).1
  · exact congrArg (·.run answer state)
      (@after_runDocument_of_refused document (.new options) refused hrefused)
  · intro finished hfinished name
    generalize hrun : follow answer (runDocument document) (.new options) state = out at hfinished
    obtain ⟨⟨result, last⟩, final⟩ := out
    cases hfinished
    rw [follow_runDocument_of_plan hplan] at hrun
    obtain ⟨results, -, -, hhandled, hservers⟩ := follow_runPlan_ok hrun
    refine ⟨hhandled.alternates rfl name, fun hstarted ↦ ?_⟩
    have hleft := (hhandled.mem_names rfl name).2 hstarted
    rw [hservers] at hleft
    cases hleft
  · exact fun hanswer ↦ disciplined_of_plan hplan rfl hanswer state

/-- Of three servers one is stopped, on a machine on which all goes well. The other two are named in
their order and not in that of their starts. -/
theorem runDocument_exits_leaked :
    let source :=
      "```x:server:start name=web\nserve\n```\n```x:server:start name=db\nserve\n```\n" ++
      "```x:server:start name=mail\nserve\n```\n```x:server:stop\nmail\n```\n"
    let options : Options := ⟨"work", "assets", none, "x", "sh", "/", .default⟩
    let answer := fun (_ : Unit) (request : Request) ↦ (request.easyReply, ())
    ∃ document plan, parse source = .ok document ∧ document.plan options.scope = .ok plan ∧
      plan.map (·.line) = [1, 4, 7, 10] ∧ switches "mail" plan = [true, false] ∧
      (follow answer (runDocument document) (.new options) ()).1.1 =
        .error (.failed (.document (.leaked ["db", "web"]))) ∧
      Disciplined answer document plan (.new options) () := by
  intro source options answer
  have hsource : ((parse source).toOption.bind fun document ↦
      (document.plan options.scope).toOption.map fun plan ↦
        (plan.map (·.line), switches "mail" plan,
          match (follow answer (runDocument document) (.new options) ()).1.1 with
          | .error stop => some stop
          | .ok _ => none)) = some ([1, 4, 7, 10], [true, false],
            some (.failed (.document (.leaked ["db", "web"])))) := by decide +kernel
  have hanswer : Keeps answer .lasting := fun _ request ↦ by cases request <;> nofun
  cases hparse : parse source with
  | error cause =>
    rw [hparse] at hsource
    cases hsource
  | ok document =>
    cases hplan : document.plan options.scope with
    | error refused =>
      rw [hparse] at hsource
      simp only [Except.toOption, Option.bind_some, hplan] at hsource
      cases hsource
    | ok plan =>
      rw [hparse] at hsource
      simp only [Except.toOption, Option.bind_some, hplan, Option.map_some, Option.some.injEq,
        Prod.mk.injEq] at hsource
      obtain ⟨hlines, hmail, hleaked⟩ := hsource
      refine ⟨document, plan, rfl, hplan, hlines, hmail, ?_,
        ((runDocument_exits answer document options ()).2.2 plan hplan).2.2 hanswer⟩
      split at hleaked
      · next stop hstop => exact hstop.trans (congrArg _ (Option.some.inj hleaked))
      · cases hleaked

end Discipline

end Session

end Runbook
