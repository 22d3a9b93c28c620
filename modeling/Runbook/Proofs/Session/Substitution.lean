import Runbook.Proofs.Document.Tiling
import Runbook.Proofs.Session.Handlers
/-!
# Running a document is substitution

A run of a document that succeeds puts what each block shows in the place of that block and changes
nothing else. `runDocument_substitutes` says so for the nodes, by the relation `Replaced`, and for
the text, by the relation `Spliced`: the finished document is the source in which some slices, the
source texts of the planned blocks, are exchanged for other texts.

The two relations are independent of the functions that run a document. `Replaced` goes along the
nodes of a document and its plan; `Spliced` goes along the edits of a text and counts bytes. That
`Document.substitute` makes the first is shown along the nodes (`substitute_replaced`), and the
second follows from it, since a document that was read knows where its blocks stand
(`Replaced.spliced`). Both hold whatever the blocks show, as long as the facts of each node that is
shown have distinct names.

`Handled` ties what the blocks show to a run: it is what the actions of the plan give, one after the
other, from the session and the state in which the one before has left them.
-/

set_option autoImplicit false

namespace Runbook

open Block Machine

namespace Document

/-! ### Facts of two nodes -/

theorem Data.lookup_cons_of_ne {name key : String} (h : name ≠ key) (value : String)
    (data : Data) : List.lookup name ((key, value) :: data) = data.lookup name := by
  rw [List.lookup_cons, beq_false_of_ne h]

theorem Data.lookup_set (data : Data) (key value name : String) :
    (data.set key value).lookup name = if name = key then some value else data.lookup name := by
  unfold Data.set
  induction data with
  | nil =>
    by_cases hname : name = key
    · simp [hname]
    · rw [if_neg hname]
      exact lookup_cons_of_ne hname value []
  | cons entry data ih =>
    obtain ⟨first, fact⟩ := entry
    by_cases hfirst : first = key
    · -- The old entry with this name is left out.
      subst hfirst
      rw [List.filter_cons_of_neg (by simp), ih]
      by_cases hname : name = first
      · rw [if_pos hname, if_pos hname]
      · rw [if_neg hname, if_neg hname, lookup_cons_of_ne hname]
    · rw [List.filter_cons_of_pos (by simpa using hfirst), List.cons_append]
      by_cases hname : name = first
      · subst hname
        rw [if_neg hfirst, List.lookup_cons_self, List.lookup_cons_self]
      · rw [lookup_cons_of_ne hname, lookup_cons_of_ne hname, ih]

/-- In the facts of both, those of the second win. -/
theorem Data.lookup_union (first : Data) {second : Data} (h : second.Distinct) (name : String) :
    (first.union second).lookup name = (second.lookup name).or (first.lookup name) := by
  induction second generalizing first with
  | nil => rfl
  | cons entry second ih =>
    obtain ⟨key, value⟩ := entry
    obtain ⟨hnew, hrest⟩ := List.nodup_cons.1 h
    have hstep : first.union ((key, value) :: second) = (first.set key value).union second := rfl
    rw [hstep, ih _ hrest, lookup_set]
    by_cases hname : name = key
    · subst hname
      have hnone : second.lookup name = none := by
        rw [List.lookup_eq_none_iff]
        intro entry hentry
        exact bne_iff_ne.2 fun heq ↦ hnew (List.mem_map.2 ⟨entry, hentry, heq.symm⟩)
      rw [hnone, if_pos rfl, List.lookup_cons_self]
      rfl
    · rw [if_neg hname, lookup_cons_of_ne hname]

/-! ### What a finished document is -/

/-- Whether the blocks of a document are run: unless its settings turn that off. -/
def runs (document : Document) : Bool := document.frontmatter.all Frontmatter.run

/-- A node is a runnable block under a namespace. -/
def Node.IsRunnable (scope : String) (node : Node) : Prop :=
  ∃ block runnable, node.codeBlock? = some block ∧ block.runnable? scope = .ok (some runnable)

/-- A block of a plan is that of a node: it does what the node asks for and has its place. -/
structure PlannedBlock.IsOf (planned : PlannedBlock) (scope : String) (index : Nat) (node : Node) :
    Prop where
  index_eq : planned.index = index
  line_eq : planned.line = node.line
  action_eq : ∃ block runnable, node.codeBlock? = some block ∧
    block.runnable? scope = .ok (some runnable) ∧ Action.ofRunnable runnable = .ok planned.action

/-- A node shows what a block shows, in the place of the node of that block. -/
structure Node.StandsFor (node result original : Node) : Prop where
  content_eq : node.content = result.content
  position_eq : node.position = original.position
  indent_eq : node.indent = original.indent
  /-- Its facts are those of both; what the block shows wins. -/
  data_eq : ∀ name, node.data.lookup name = (result.data.lookup name).or (original.data.lookup name)

/-- The nodes of a finished document, given the nodes of the document, the first of which has an
index, its plan, and what each block of the plan shows. -/
inductive Replaced (running : Bool) (scope : String) :
    Nat → List Node → List PlannedBlock → List (Option Node) → List Node → Prop where
  | done (index : Nat) : Replaced running scope index [] [] [] []
  /-- A node that is not to be run is there as it was. -/
  | kept {index : Nat} {node : Node} {nodes finished : List Node} {plan : List PlannedBlock}
      {results : List (Option Node)} (hnode : ¬(running = true ∧ node.IsRunnable scope))
      (hrest : Replaced running scope (index + 1) nodes plan results finished) :
      Replaced running scope index (node :: nodes) plan results (node :: finished)
  /-- A block that shows nothing is left out. -/
  | removed {index : Nat} {node : Node} {block : PlannedBlock} {nodes finished : List Node}
      {plan : List PlannedBlock} {results : List (Option Node)} (hrunning : running = true)
      (hblock : block.IsOf scope index node)
      (hrest : Replaced running scope (index + 1) nodes plan results finished) :
      Replaced running scope index (node :: nodes) (block :: plan) (none :: results) finished
  /-- What a block shows stands for its node. -/
  | shown {index : Nat} {node result stand : Node} {block : PlannedBlock}
      {nodes finished : List Node} {plan : List PlannedBlock} {results : List (Option Node)}
      (hrunning : running = true) (hblock : block.IsOf scope index node)
      (hstand : stand.StandsFor result node)
      (hrest : Replaced running scope (index + 1) nodes plan results finished) :
      Replaced running scope index (node :: nodes) (block :: plan) (some result :: results)
        (stand :: finished)

/-- A change of a text: at a byte offset, one text is exchanged for another. -/
structure Edit where
  offset : Nat
  removed : String
  inserted : String
deriving DecidableEq, Repr

/-- A text is another one with its edits made. Both start at a byte offset, and the edits are made
in order, none inside another; what is not removed stays. -/
inductive Spliced : Nat → List Edit → String → String → Prop where
  | done (start : Nat) (text : String) : Spliced start [] text text
  | edit {start : Nat} {edit : Edit} {edits : List Edit} {before rest finished : String}
      (hoffset : edit.offset = start + before.utf8ByteSize)
      (hrest : Spliced (edit.offset + edit.removed.utf8ByteSize) edits rest finished) :
      Spliced start (edit :: edits) (before ++ edit.removed ++ rest)
        (before ++ edit.inserted ++ finished)

/-- What is written for what a block shows: nothing, or the node that is shown, with the indent of
the node of the block. -/
def Node.writtenFor (original : Node) : Option Node → String
  | none => ""
  | some result => Node.render { result with indent := original.indent }

/-- The edit of a block of a plan and what it shows: the source text of its node, where that
stands, is exchanged. There is none for a node that does not come from a source. -/
def editOf? (nodes : List Node) (planned : PlannedBlock) (result : Option Node) : Option Edit := do
  let node ← nodes[planned.index]?
  let block ← node.codeBlock?
  let raw ← block.raw
  let position ← node.position
  return ⟨position.offset, raw, node.writtenFor result⟩

/-- A finished document, given the source, the document that was read, its plan and what each block
of the plan shows. -/
structure Substituted (source scope : String) (document : Document) (plan : List PlannedBlock)
    (results : List (Option Node)) (finished : Document) : Prop where
  frontmatter_eq : finished.frontmatter = document.frontmatter
  nodes_replaced : Replaced document.runs scope 0 document.nodes plan results finished.nodes
  /-- Each block of the plan has an edit, and the finished text is the source with these edits. -/
  text_spliced : ∃ edits, List.zipWith (editOf? document.nodes) plan results = edits.map some ∧
    Spliced 0 edits source finished.render

/-! ### Plans and nodes -/

section Plans

variable {scope : String} {index : Nat} {node : Node} {nodes : List Node}
  {plan : List PlannedBlock} {results : List (Option Node)}

theorem Node.not_isRunnable_of_plan (h : node.plan scope index = .ok none) :
    ¬node.IsRunnable scope := by
  rintro ⟨block, runnable, hblock, hrunnable⟩
  simp only [Node.plan, hblock, hrunnable] at h
  split at h <;> cases h

theorem Node.isOf_of_plan {block : PlannedBlock} (h : node.plan scope index = .ok (some block)) :
    block.IsOf scope index node := by
  unfold Node.plan at h
  split at h
  · cases h
  next code hcode =>
    split at h
    · cases h
    · cases h
    next runnable hrunnable =>
      split at h
      · cases h
      next action haction =>
        cases h
        exact ⟨rfl, rfl, code, runnable, hcode, hrunnable, haction⟩

/-- The plan of nodes is that of the first and those of the others. -/
theorem planNodes_cons (h : planNodes scope index (node :: nodes) = .ok plan) :
    ∃ block blocks, node.plan scope index = .ok block ∧
      planNodes scope (index + 1) nodes = .ok blocks ∧ plan = block.toList ++ blocks := by
  rw [planNodes] at h
  split at h
  · cases h
  next block hblock =>
    split at h
    · cases h
    next blocks hblocks =>
      cases h
      exact ⟨block, blocks, hblock, hblocks, rfl⟩

/-- Each block of a plan is that of a node. -/
theorem planNodes_isOf (h : planNodes scope index nodes = .ok plan) :
    ∀ block ∈ plan, ∃ place node, nodes[place]? = some node ∧ block.index = index + place ∧
      block.IsOf scope block.index node := by
  induction nodes generalizing index plan with
  | nil =>
    cases h
    nofun
  | cons node nodes ih =>
    obtain ⟨first, blocks, hfirst, hblocks, rfl⟩ := planNodes_cons h
    intro block hblock
    rcases List.mem_append.1 hblock with hblock | hblock
    · rw [Option.mem_toList.1 hblock] at hfirst
      have hof := Node.isOf_of_plan hfirst
      exact ⟨0, node, rfl, hof.index_eq, hof.index_eq ▸ hof⟩
    · obtain ⟨place, found, hfound, hindex, hof⟩ := ih hblocks block hblock
      exact ⟨place + 1, found, hfound, by omega, hof⟩

theorem le_index_of_mem_planNodes (h : planNodes scope index nodes = .ok plan) :
    ∀ block ∈ plan, index ≤ block.index := by
  intro block hblock
  obtain ⟨place, node, -, hindex, -⟩ := planNodes_isOf h block hblock
  omega

/-- What the blocks of a plan show, by the index of their nodes. -/
def shownBy (plan : List PlannedBlock) (results : List (Option Node)) : Shown :=
  List.zipWith (fun block result ↦ (block.index, result)) plan results

theorem lookup_shownBy (h : ∀ block ∈ plan, index < block.index) :
    (shownBy plan results).lookup index = none := by
  rw [List.lookup_eq_none_iff]
  intro entry hentry
  obtain ⟨place, hplace, hget⟩ := List.getElem_of_mem hentry
  rw [shownBy, List.length_zipWith] at hplace
  simp only [shownBy, List.getElem_zipWith] at hget
  have hlt := h _ (List.getElem_mem (show place < plan.length by omega))
  rw [← hget]
  exact bne_iff_ne.2 (Nat.ne_of_lt hlt)

theorem substitute_shown_skip {skipped : Nat} (h : skipped < index) (result : Option Node)
    (shown : Shown) (nodes : List Node) :
    substituteNodes ((skipped, result) :: shown) index nodes =
      substituteNodes shown index nodes := by
  induction nodes generalizing index with
  | nil => rfl
  | cons node nodes ih =>
    have hne : (index == skipped) = false := beq_false_of_ne (Nat.ne_of_gt h)
    rw [substituteNodes, substituteNodes, ih (Nat.lt_succ_of_lt h), Node.substituted,
      Node.substituted, List.lookup_cons, hne]

theorem Node.standsFor_replacing {result original : Node} (h : result.data.Distinct) :
    (result.replacing original).StandsFor result original :=
  ⟨rfl, rfl, rfl, Data.lookup_union _ h⟩

/-- Nodes are replaced as their plan says. -/
theorem planNodes_replaced (h : planNodes scope index nodes = .ok plan)
    (hlength : results.length = plan.length) (hresults : ∀ result ∈ results, Presentable result) :
    Replaced true scope index nodes plan results
      (substituteNodes (shownBy plan results) index nodes) := by
  induction nodes generalizing index plan results with
  | nil =>
    cases h
    rw [List.eq_nil_of_length_eq_zero hlength]
    exact .done index
  | cons node nodes ih =>
    obtain ⟨first, blocks, hfirst, hblocks, rfl⟩ := planNodes_cons h
    cases first with
    | none =>
      have hlookup : (shownBy blocks results).lookup index = none :=
        lookup_shownBy (le_index_of_mem_planNodes hblocks)
      have hkept : node.substituted (shownBy blocks results) index = [node] := by
        rw [Node.substituted, hlookup]
      show Replaced _ _ _ _ blocks _ _
      rw [substituteNodes, Option.toList_none, List.nil_append, hkept]
      exact .kept (fun hrunnable ↦ Node.not_isRunnable_of_plan hfirst hrunnable.2)
        (ih hblocks hlength hresults)
    | some block =>
      obtain _ | ⟨result, results⟩ := results
      · cases hlength
      have hblock := Node.isOf_of_plan hfirst
      have hrest := ih hblocks (Nat.succ.inj hlength) fun result hresult ↦
        hresults result (List.mem_cons_of_mem _ hresult)
      have hshown : shownBy (block :: blocks) (result :: results) =
          (index, result) :: shownBy blocks results := by
        rw [shownBy, List.zipWith_cons_cons, hblock.index_eq]
        rfl
      show Replaced _ _ _ _ (block :: blocks) _ (substituteNodes (shownBy (block :: blocks) _) _ _)
      rw [hshown, substituteNodes, substitute_shown_skip (Nat.lt_succ_self index), Node.substituted,
        List.lookup_cons_self]
      cases result with
      | none => exact .removed rfl hblock hrest
      | some result =>
        have hdistinct : result.data.Distinct :=
          hresults (some result) List.mem_cons_self result rfl
        exact .shown rfl hblock (Node.standsFor_replacing hdistinct) hrest

/-- Nodes of which none is to be run stay. -/
theorem nodes_kept (scope : String) (index : Nat) (nodes : List Node) :
    Replaced false scope index nodes [] [] (substituteNodes [] index nodes) := by
  induction nodes generalizing index with
  | nil => exact .done index
  | cons node nodes ih => exact .kept (fun h ↦ Bool.noConfusion h.1) (ih (index + 1))

/-- The nodes of a document are replaced as its plan says. -/
theorem substitute_replaced {document : Document} (h : document.plan scope = .ok plan)
    (hlength : results.length = plan.length) (hresults : ∀ result ∈ results, Presentable result) :
    Replaced document.runs scope 0 document.nodes plan results
      (document.substitute (shownBy plan results)).nodes := by
  obtain ⟨frontmatter, nodes⟩ := document
  cases frontmatter with
  | none => exact planNodes_replaced h hlength hresults
  | some settings =>
    obtain ⟨title, basename, workdir, run⟩ := settings
    cases run with
    | true => exact planNodes_replaced h hlength hresults
    | false =>
      cases h
      rw [List.eq_nil_of_length_eq_zero hlength]
      exact nodes_kept scope 0 nodes

end Plans

/-! ### Texts -/

/-- What stands before a text that is edited stays. -/
theorem Spliced.after {start : Nat} {edits : List Edit} {text finished : String} (before : String)
    (h : Spliced (start + before.utf8ByteSize) edits text finished) :
    Spliced start edits (before ++ text) (before ++ finished) := by
  cases h with
  | done => exact .done start _
  | @edit _ edit edits more rest finished hoffset hrest =>
    have hsize : edit.offset = start + (before ++ more).utf8ByteSize := by
      rw [hoffset, String.utf8ByteSize_append, Nat.add_assoc]
    have hassoc (middle rest : String) :
        before ++ (more ++ middle ++ rest) = before ++ more ++ middle ++ rest := by
      simp only [String.append_assoc]
    rw [hassoc, hassoc]
    exact .edit hsize hrest

/-- Exchanging a text at the start. -/
theorem Spliced.here {start : Nat} {edit : Edit} {edits : List Edit} {rest finished : String}
    (hoffset : edit.offset = start)
    (h : Spliced (start + edit.removed.utf8ByteSize) edits rest finished) :
    Spliced start (edit :: edits) (edit.removed ++ rest) (edit.inserted ++ finished) := by
  have hspliced : Spliced start (edit :: edits) ("" ++ edit.removed ++ rest)
      ("" ++ edit.inserted ++ finished) :=
    .edit (by rw [hoffset]; rfl) (by rw [hoffset]; exact h)
  rw [String.empty_append, String.empty_append] at hspliced
  exact hspliced

/-- The edit of a block that was read: its text is exchanged where it stands. -/
theorem editOf?_of_placed {scope : String} {start : Nat} {all nodes : List Node} {node : Node}
    {block : PlannedBlock} (hall : all.drop block.index = node :: nodes)
    (hplaced : Placed start (node :: nodes)) (hblock : block.IsOf scope block.index node)
    (result : Option Node) :
    editOf? all block result = some ⟨start, node.render, node.writtenFor result⟩ := by
  obtain ⟨code, _, hcode, -, -⟩ := hblock.action_eq
  obtain ⟨hraw, -, line, hposition⟩ := hplaced [] node nodes code rfl hcode
  have hnode : all[block.index]? = some node := by
    rw [← List.head?_drop, hall]
    rfl
  simp only [editOf?, hnode, hcode, hraw, hposition, Option.bind_eq_bind, Option.bind_some]
  rfl

theorem Node.StandsFor.render_eq {node result original : Node}
    (h : node.StandsFor result original) : node.render = original.writtenFor (some result) := by
  unfold writtenFor Node.render
  rw [h.content_eq, h.indent_eq]

/-- The edits of a plan whose first block was read are that of the block and those of the others. -/
theorem zipWith_editOf?_cons {scope : String} {index start : Nat} {all nodes : List Node}
    {node : Node} {block : PlannedBlock} {plan : List PlannedBlock} {results : List (Option Node)}
    {edits : List Edit} (hall : all.drop index = node :: nodes)
    (hplaced : Placed start (node :: nodes)) (hblock : block.IsOf scope index node)
    (result : Option Node) (hedits : List.zipWith (editOf? all) plan results = edits.map some) :
    List.zipWith (editOf? all) (block :: plan) (result :: results) =
      ((⟨start, node.render, node.writtenFor result⟩ : Edit) :: edits).map some := by
  cases hblock.index_eq
  rw [List.zipWith_cons_cons, editOf?_of_placed hall hplaced hblock result, hedits, List.map_cons]

/-- Where nodes that were read are replaced, their text is spliced: it is changed where a block of
the plan stands and nowhere else. -/
theorem Replaced.spliced {running : Bool} {scope : String} {index start : Nat}
    {all nodes finished : List Node} {plan : List PlannedBlock} {results : List (Option Node)}
    (h : Replaced running scope index nodes plan results finished)
    (hall : all.drop index = nodes) (hplaced : Placed start nodes) :
    ∃ edits, List.zipWith (editOf? all) plan results = edits.map some ∧
      Spliced start edits (renderAll nodes) (renderAll finished) := by
  have htail {node : Node} {index : Nat} {rest : List Node}
      (h : all.drop index = node :: rest) : all.drop (index + 1) = rest := by
    rw [← List.tail_drop, h, List.tail_cons]
  induction h generalizing start with
  | done index => exact ⟨[], rfl, .done start _⟩
  | @kept index node nodes finished plan results hnode hrest ih =>
    obtain ⟨edits, hedits, hspliced⟩ := ih (htail hall) hplaced.tail
    refine ⟨edits, hedits, ?_⟩
    rw [renderAll_cons, renderAll_cons]
    exact hspliced.after node.render
  | @removed index node block nodes finished plan results hrunning hblock hrest ih =>
    obtain ⟨edits, hedits, hspliced⟩ := ih (htail hall) hplaced.tail
    refine ⟨_, zipWith_editOf?_cons hall hplaced hblock none hedits, ?_⟩
    rw [renderAll_cons, ← String.empty_append (s := renderAll finished)]
    exact .here rfl hspliced
  | @shown index node result stand block nodes finished plan results hrunning hblock hstand hrest
      ih =>
    obtain ⟨edits, hedits, hspliced⟩ := ih (htail hall) hplaced.tail
    refine ⟨_, zipWith_editOf?_cons hall hplaced hblock (some result) hedits, ?_⟩
    rw [renderAll_cons, renderAll_cons, hstand.render_eq]
    exact .here rfl hspliced

/-- Putting what blocks show in the place of the blocks of the plan of a document that was read.
Assumes: something is shown, or nothing, for each block of the plan, and the facts of what is shown
have distinct names. -/
theorem substitute_substituted {source scope : String} {document : Document}
    {plan : List PlannedBlock} {results : List (Option Node)} (hparse : parse source = .ok document)
    (hplan : document.plan scope = .ok plan) (hlength : results.length = plan.length)
    (hresults : ∀ result ∈ results, Presentable result) :
    Substituted source scope document plan results
      (document.substitute (shownBy plan results)) := by
  obtain ⟨hplaced, hrender⟩ := parse_placed hparse
  have hreplaced := substitute_replaced hplan hlength hresults
  obtain ⟨edits, hedits, hspliced⟩ := hreplaced.spliced (List.drop_zero) hplaced
  rw [hrender] at hspliced
  exact ⟨rfl, hreplaced, edits, hedits, hspliced⟩

end Document

/-! ### Runs -/

namespace Session

open Document Work

variable {α σ : Type} {answer : σ → (r : Request) → r.Reply × σ} {session last : Session}
  {state final : σ}

/-- What the blocks of a plan show in a run that succeeds: each action runs from the session and
the state that the one before has left. -/
inductive Handled (answer : σ → (r : Request) → r.Reply × σ) :
    List PlannedBlock → Session → σ → List (Option Node) → Session → σ → Prop where
  | done (session : Session) (state : σ) : Handled answer [] session state [] session state
  | block {block : PlannedBlock} {plan : List PlannedBlock} {result : Option Node}
      {results : List (Option Node)} {session between last : Session} {state reached final : σ}
      (hblock : follow answer (runAction block.action) session state =
        ((.ok result, between), reached))
      (hrest : Handled answer plan between reached results last final) :
      Handled answer (block :: plan) session state (result :: results) last final

theorem follow_located (place : Failure → RunError) (work : Work α) (session : Session)
    (state : σ) :
    follow answer (located place work) session state =
      match follow answer work session state with
      | ((.ok value, session), state) => ((.ok value, session), state)
      | ((.error (.failed cause), session), state) =>
        ((.error (.failed (place cause)), session), state)
      | ((.error .abandoned, session), state) => ((.error .abandoned, session), state) := by
  refine (Act.run_bind answer (after work session) _ state).trans ?_
  unfold follow
  obtain ⟨⟨result, session⟩, state⟩ := (after work session).run answer state
  cases result with
  | ok value => rfl
  | error stop => cases stop <;> rfl

/-- Work whose failures get a place gives the values that it gives without. -/
theorem follow_located_ok {place : Failure → RunError} {work : Work α} {value : α}
    (h : follow answer (located place work) session state = ((.ok value, last), final)) :
    follow answer work session state = ((.ok value, last), final) := by
  rw [follow_located] at h
  split at h
  · next hwork =>
    cases h
    exact hwork
  · cases h
  · cases h

theorem follow_throw_ne {ε : Type} {cause : ε} {value : α} :
    follow answer (throw cause : ExceptT ε (StateT Session Act) α) session state ≠
      ((.ok value, last), final) :=
  nofun

/-- A block that is run gives what its action gives. -/
theorem follow_runBlock_ok {block : PlannedBlock} {result : Option Node}
    (h : follow answer (runBlock block) session state = ((.ok result, last), final)) :
    follow answer (runAction block.action) session state = ((.ok result, last), final) := by
  rcases follow_tryCatch_ok h with haction | ⟨stop, between, reached, hhandle⟩
  · exact follow_located_ok haction
  · cases stop with
    | failed error =>
      obtain ⟨_, _, _, _, hthrow⟩ := follow_bind_ok hhandle
      exact (follow_throw_ne hthrow).elim
    | abandoned => exact (follow_throw_ne hhandle).elim

/-- The blocks of a plan give what their actions give. -/
theorem follow_runBlocks_ok {plan : List PlannedBlock} {shown : Shown}
    (h : follow answer (runBlocks plan) session state = ((.ok shown, last), final)) :
    ∃ results, shown = shownBy plan results ∧ results.length = plan.length ∧
      Handled answer plan session state results last final := by
  induction plan generalizing session state shown with
  | nil =>
    cases h
    exact ⟨[], rfl, rfl, .done _ _⟩
  | cons block plan ih =>
    obtain ⟨result, between, reached, hblock, hnext⟩ := follow_bind_ok h
    obtain ⟨rest, between', reached', hrest, hreturn⟩ := follow_bind_ok hnext
    cases hreturn
    obtain ⟨results, rfl, hlength, hhandled⟩ := ih hrest
    exact ⟨result :: results, rfl, congrArg Nat.succ hlength,
      .block (follow_runBlock_ok hblock) hhandled⟩

/-- What the actions of a plan show has facts with distinct names. -/
theorem Handled.presentable {plan : List PlannedBlock} {results : List (Option Node)}
    (h : Handled answer plan session state results last final) :
    ∀ result ∈ results, Presentable result := by
  induction h with
  | done => nofun
  | @block block plan result results session between last state reached final hblock hrest ih =>
    intro shown hshown
    rcases List.mem_cons.1 hshown with rfl | hshown
    · have hfits := (runAction_yields block.action session).run answer state
      rw [show (after (runAction block.action) session).run answer state = _ from hblock] at hfits
      exact hfits
    · exact ih shown hshown

/-- A session ends without failing when no server is running, and nothing happens then. -/
theorem follow_finish_ok
    (h : follow answer finish session state = ((.ok (), last), final)) :
    session.servers = [] ∧ last = session ∧ final = state := by
  obtain ⟨found, between, reached, hget, hrest⟩ := follow_bind_ok h
  cases hget
  split at hrest
  · next hempty =>
    cases hrest
    exact ⟨List.isEmpty_iff.1 hempty, rfl, rfl⟩
  · obtain ⟨_, _, _, _, hthrow⟩ := follow_bind_ok hrest
    exact (follow_throw_ne hthrow).elim

/-- A plan that is run gives the document with what its actions show. -/
theorem follow_runPlan_ok {document finished : Document} {plan : List PlannedBlock}
    (h : follow answer (runPlan document plan) session state = ((.ok finished, last), final)) :
    ∃ results, finished = document.substitute (shownBy plan results) ∧
      results.length = plan.length ∧ Handled answer plan session state results last final ∧
      last.servers = [] := by
  rcases follow_tryCatch_ok h with hplan | ⟨stop, between, reached, hhandle⟩
  · obtain ⟨shown, between, reached, hblocks, hnext⟩ := follow_bind_ok hplan
    obtain ⟨_, between', reached', hfinish, hreturn⟩ := follow_bind_ok hnext
    cases hreturn
    obtain ⟨hservers, rfl, rfl⟩ := follow_finish_ok (follow_located_ok hfinish)
    obtain ⟨results, rfl, hlength, hhandled⟩ := follow_runBlocks_ok hblocks
    exact ⟨results, rfl, hlength, hhandled, hservers⟩
  · cases stop with
    | failed error => exact (follow_throw_ne hhandle).elim
    | abandoned =>
      obtain ⟨_, _, _, _, hthrow⟩ := follow_bind_ok hhandle
      exact (follow_throw_ne hthrow).elim

/-- A document that runs to its end has a plan, and the plan was run. -/
theorem follow_runDocument_ok {document finished : Document}
    (h : follow answer (runDocument document) session state = ((.ok finished, last), final)) :
    ∃ plan, document.plan session.options.scope = .ok plan ∧
      follow answer (runPlan document plan) session state = ((.ok finished, last), final) := by
  obtain ⟨found, between, reached, hget, hrest⟩ := follow_bind_ok h
  cases hget
  split at hrest
  · exact (follow_throw_ne hrest).elim
  · next plan hplan => exact ⟨plan, hplan, hrest⟩

/-- Running a document is substitution. Whatever is shown for the blocks of its plan, the document
with that put in their place is the source with their texts exchanged; and a run that succeeds, on
any machine and from any session, has a plan whose actions have run one after the other, and gives
the document with what they have shown. -/
theorem runDocument_substitutes {source : String} {document : Document}
    (hparse : parse source = .ok document) (session : Session) :
    (∀ plan results, document.plan session.options.scope = .ok plan →
      results.length = plan.length → (∀ result ∈ results, Presentable result) →
      Substituted source session.options.scope document plan results
        (document.substitute (shownBy plan results))) ∧
    ∀ (σ : Type) (answer : σ → (r : Request) → r.Reply × σ) (state final : σ) (last : Session)
      (finished : Document),
      follow answer (runDocument document) session state = ((.ok finished, last), final) →
      ∃ plan results, document.plan session.options.scope = .ok plan ∧
        Handled answer plan session state results last final ∧ last.servers = [] ∧
        Substituted source session.options.scope document plan results finished := by
  refine ⟨fun plan results hplan hlength hresults ↦
    substitute_substituted hparse hplan hlength hresults, ?_⟩
  intro σ answer state final last finished hrun
  obtain ⟨plan, hplan, hrunPlan⟩ := follow_runDocument_ok hrun
  obtain ⟨results, rfl, hlength, hhandled, hservers⟩ := follow_runPlan_ok hrunPlan
  exact ⟨plan, results, hplan, hhandled, hservers,
    substitute_substituted hparse hplan hlength hhandled.presentable⟩

/-- Two blocks in a quotation, the second of them hidden, on a machine on which all goes well. -/
theorem runDocument_substitutes_quoted :
    let source :=
      "# Title\n> ```x:command\n> true\n> ```\n> ```x:command hidden\n> true\n> ```\nend\n"
    let session := Session.new ⟨"work", "assets", none, "x", "sh", "/", .default⟩
    let answer := fun (_ : Unit) (request : Request) ↦ (request.easyReply, ())
    ∃ document finished last plan results, parse source = .ok document ∧
      follow answer (runDocument document) session () = ((.ok finished, last), ()) ∧
      finished.render = "# Title\n> ```console\n> $ true\n> ```\n> \nend\n" ∧
      Handled answer plan session () results last () ∧
      Substituted source "x" document plan results finished := by
  intro source session answer
  have hrender : ((parse source).toOption.map fun document ↦
      (follow answer (runDocument document) session ()).1.1.toOption.map Document.render) =
        some (some "# Title\n> ```console\n> $ true\n> ```\n> \nend\n") := by decide +kernel
  cases hparse : parse source with
  | error cause =>
    rw [hparse] at hrender
    cases hrender
  | ok document =>
    rw [hparse] at hrender
    have hfinished : (follow answer (runDocument document) session ()).1.1.toOption.map
        Document.render = some "# Title\n> ```console\n> $ true\n> ```\n> \nend\n" :=
      Option.some.inj hrender
    generalize hrun : follow answer (runDocument document) session () = out at hfinished
    obtain ⟨⟨result, last⟩, final⟩ := out
    cases result with
    | error stop => cases hfinished
    | ok finished =>
      obtain ⟨plan, results, -, hhandled, -, hsubstituted⟩ :=
        (runDocument_substitutes hparse session).2 Unit answer () () last finished hrun
      exact ⟨document, finished, last, plan, results, rfl, hrun, Option.some.inj hfinished,
        hhandled, hsubstituted⟩

end Session

end Runbook
