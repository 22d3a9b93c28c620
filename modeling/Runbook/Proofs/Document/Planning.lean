import Runbook.Proofs.Document.InfoString
import Runbook.Proofs.Session.Exit
/-!
# What is planned

The first word of an info string says whether a block is to be run. `OpensWith` says of a text what
its first word is and what comes after it, counted in blanks and not through the functions that cut
it. A block is tagged with a namespace when that word is the namespace, a colon and a further word
(`CodeBlock.IsTagged`), and a node asks for an action when the further word names a kind and the
arguments and the body make an action of that kind (`Node.Asks`).

The plan of a document holds what its nodes ask for, in their order (`Plans`), and a document has
one exactly when every node that is tagged asks for something. Otherwise the first node that is
tagged and asks for nothing is blamed (`RefusedBlock.Blames`). `plan_asked` puts this together, so a
block that is tagged is never taken for an ordinary one.
-/

set_option autoImplicit false

namespace Runbook.Document

open Text Block Arguments

/-! ### The first word of a text -/

/-- A text has blanks around another one, which neither starts nor ends with a blank. -/
def Surrounds (text inner : List Char) : Prop :=
  ∃ before after, text = before ++ (inner ++ after) ∧ (∀ c ∈ before, isBlank c = true) ∧
    (∀ c ∈ after, isBlank c = true) ∧ (∀ c ∈ inner.head?, isBlank c = false) ∧
    ∀ c ∈ inner.getLast?, isBlank c = false

/-- A text has a first word, which may stand after blanks and ends at a blank or with the text, and
a rest that comes after the word. -/
def OpensWith (text word rest : List Char) : Prop :=
  ∃ before tail, text = before ++ (word ++ tail) ∧ (∀ c ∈ before, isBlank c = true) ∧ word ≠ [] ∧
    (∀ c ∈ word, isBlank c = false) ∧ EndsWord tail ∧ Surrounds tail rest

variable {text word rest before after : List Char}

theorem dropBlanks_append (h : ∀ c ∈ before, isBlank c = true) (text : List Char) :
    dropBlanks (before ++ text) = dropBlanks text :=
  List.dropWhile_append_of_pos h

theorem dropBlanks_of_head? (h : ∀ c ∈ text.head?, isBlank c = false) : dropBlanks text = text := by
  cases text with
  | nil => rfl
  | cons c text =>
    have hc : isBlank c = false := h c rfl
    rw [dropBlanks, List.dropWhile_cons_of_neg (by rw [hc]; exact Bool.false_ne_true)]

theorem dropTrailing_append (h : ∀ c ∈ after, isBlank c = true) (text : List Char) :
    dropTrailing isBlank (text ++ after) = dropTrailing isBlank text := by
  rw [dropTrailing, List.reverse_append,
    List.dropWhile_append_of_pos fun c hc ↦ h c (List.mem_reverse.1 hc), dropTrailing]

/-- What is dropped at the end of a text is dropped when the text stands after one that ends in no
blank. -/
theorem dropTrailing_append_left (h : ∀ c ∈ word.getLast?, isBlank c = false) (tail : List Char) :
    dropTrailing isBlank (word ++ tail) = word ++ dropTrailing isBlank tail := by
  have hword : word.reverse.dropWhile isBlank = word.reverse := by
    have hkept := dropTrailing_of_getLast? h
    rwa [dropTrailing, List.reverse_eq_iff] at hkept
  rw [dropTrailing, List.reverse_append, List.dropWhile_append, dropTrailing]
  split
  · next hnone =>
    rw [List.isEmpty_iff.1 hnone, hword, List.reverse_reverse, List.reverse_nil, List.append_nil]
  · rw [List.reverse_append, List.reverse_reverse]

/-- A text without blanks around is what it surrounds. -/
theorem Surrounds.eq (h : Surrounds text rest) :
    dropBlanks (dropTrailing isBlank text) = rest := by
  obtain ⟨before, after, rfl, hbefore, hafter, hfirst, hlast⟩ := h
  rw [← List.append_assoc, dropTrailing_append hafter]
  by_cases hrest : rest = []
  · subst hrest
    rw [List.append_nil, ← List.nil_append before, dropTrailing_append hbefore]
    rfl
  · have hends : ∀ c ∈ (before ++ rest).getLast?, isBlank c = false := by
      rw [List.getLast?_append_of_ne_nil _ hrest]
      exact hlast
    rw [dropTrailing_of_getLast? hends, dropBlanks_append hbefore, dropBlanks_of_head? hfirst]

theorem Surrounds.trim_eq (h : Surrounds text rest) :
    dropTrailing isBlank (dropBlanks text) = rest := by
  obtain ⟨before, after, rfl, hbefore, hafter, hfirst, hlast⟩ := h
  rw [dropBlanks_append hbefore]
  by_cases hrest : rest = []
  · subst hrest
    have hnone : dropBlanks after = [] := List.dropWhile_eq_nil_iff.2 hafter
    rw [List.nil_append, hnone]
    rfl
  · have hstart : ∀ c ∈ (rest ++ after).head?, isBlank c = false := by
      rwa [List.head?_append_of_ne_nil _ hrest]
    rw [dropBlanks_of_head? hstart, dropTrailing_append hafter, dropTrailing_of_getLast? hlast]

/-- A blank more at the end of a text makes no difference to what it surrounds. -/
theorem Surrounds.concat {c : Char} (h : Surrounds text rest) (hc : isBlank c = true) :
    Surrounds (text ++ [c]) rest := by
  obtain ⟨before, after, rfl, hbefore, hafter, hends⟩ := h
  refine ⟨before, after ++ [c], ?_, hbefore, ?_, hends⟩
  · simp only [List.append_assoc]
  · simpa [or_imp, forall_and, hc] using hafter

theorem exists_surrounds (text : List Char) : ∃ rest, Surrounds text rest := by
  refine ⟨(text.dropWhile isBlank).rdropWhile isBlank, text.takeWhile isBlank,
    (text.dropWhile isBlank).rtakeWhile isBlank, ?_, fun c hc ↦ List.mem_takeWhile_imp hc,
    fun c hc ↦ List.mem_rtakeWhile_imp hc, fun c hc ↦ ?_, fun c hc ↦ ?_⟩
  · rw [List.rdropWhile_append_rtakeWhile, List.takeWhile_append_dropWhile]
  · obtain ⟨rest, hrest⟩ := List.rdropWhile_prefix isBlank (l := text.dropWhile isBlank)
    have hhead := List.head?_dropWhile_not isBlank text
    rw [← hrest, List.head?_append, Option.mem_def.1 hc] at hhead
    exact hhead
  · have hne := List.ne_nil_of_mem (List.mem_of_getLast? hc)
    rw [List.getLast?_eq_some_getLast hne] at hc
    rw [← Option.some.inj hc, Bool.eq_false_iff]
    exact List.rdropWhile_last_not isBlank _ hne

theorem OpensWith.ne_nil (h : OpensWith text word rest) : word ≠ [] := by
  obtain ⟨-, -, -, -, hne, -⟩ := h
  exact hne

theorem OpensWith.isBlank_eq_false (h : OpensWith text word rest) :
    ∀ c ∈ word, isBlank c = false := by
  obtain ⟨-, -, -, -, -, hplain, -⟩ := h
  exact hplain

theorem OpensWith.exists_dropBlanks_eq (h : OpensWith text word rest) :
    ∃ tail, dropBlanks text = word ++ tail ∧ EndsWord tail ∧ Surrounds tail rest := by
  obtain ⟨before, tail, rfl, hbefore, hne, hplain, htail, hrest⟩ := h
  refine ⟨tail, ?_, htail, hrest⟩
  rw [dropBlanks_append hbefore]
  refine dropBlanks_of_head? fun c hc ↦ hplain c (List.mem_of_head? ?_)
  rwa [List.head?_append_of_ne_nil _ hne] at hc

/-- A text without the blanks around it is its first word and what comes after that word, up to the
blanks at the end. -/
theorem OpensWith.exists_trim_eq (h : OpensWith text word rest) :
    ∃ tail, dropTrailing isBlank (dropBlanks text) = word ++ tail ∧ EndsWord tail ∧
      dropBlanks tail = rest := by
  obtain ⟨tail, hstart, htail, hrest⟩ := h.exists_dropBlanks_eq
  have hkept : EndsWord (dropTrailing isBlank tail) := by
    obtain ⟨after, hafter⟩ := List.rdropWhile_prefix isBlank (l := tail)
    cases hcut : dropTrailing isBlank tail with
    | nil => exact .nil
    | cons c later =>
      change tail.rdropWhile isBlank = _ at hcut
      rw [← hafter, hcut] at htail
      exact htail
  refine ⟨dropTrailing isBlank tail, ?_, hkept, hrest.eq⟩
  rw [hstart, dropTrailing_append_left fun c hc ↦ h.isBlank_eq_false c (List.mem_of_getLast? hc)]

/-- The first word of a text is the one that it opens with, and the rest is what comes after it. -/
theorem OpensWith.eq (h : OpensWith text word rest) : firstWord text = word ∧
    dropBlanks ((dropTrailing isBlank (dropBlanks text)).dropWhile fun c ↦ !isBlank c) = rest := by
  obtain ⟨tail, hstart, htail, -⟩ := h.exists_dropBlanks_eq
  obtain ⟨kept, htrim, hkept, hrest⟩ := h.exists_trim_eq
  rw [htrim, (span_isBlank h.isBlank_eq_false hkept).2, hrest, firstWord, hstart,
    (span_isBlank h.isBlank_eq_false htail).1]
  exact ⟨rfl, rfl⟩

/-- Each text that is not blank opens with a word. -/
theorem exists_opensWith (h : firstWord text ≠ []) :
    ∃ rest, OpensWith text (firstWord text) rest := by
  obtain ⟨rest, hrest⟩ := exists_surrounds ((dropBlanks text).dropWhile fun c ↦ !isBlank c)
  refine ⟨rest, text.takeWhile isBlank, (dropBlanks text).dropWhile fun c ↦ !isBlank c, ?_,
    fun c hc ↦ List.mem_takeWhile_imp hc, h, fun c hc ↦ ?_, ?_, hrest⟩
  · rw [firstWord, List.takeWhile_append_dropWhile]
    exact List.takeWhile_append_dropWhile.symm
  · simpa using List.mem_takeWhile_imp hc
  · have hhead := List.head?_dropWhile_not (fun c ↦ !isBlank c) (dropBlanks text)
    unfold EndsWord
    split at hhead
    · next c hc => rw [hc, Option.all_some, ← Bool.not_eq_false', hhead]
    · next hnone => rw [hnone, Option.all_none]

/-! ### Tags -/

/-- A code block is tagged with a namespace: its info string opens with the namespace, a colon and a
word. The rest of the info string is the text of its arguments. -/
def CodeBlock.IsTagged (block : CodeBlock) (scope word arguments : String) : Prop :=
  OpensWith block.info.toList (scope.toList ++ ':' :: word.toList) arguments.toList

section Tags

variable {block : CodeBlock} {scope word arguments : String}

theorem dropOpening?_eq_some_iff {opening text rest : List Char} :
    dropOpening? opening text = some rest ↔ text = opening ++ rest := by
  refine ⟨fun h ↦ ?_, fun h ↦ h ▸ dropOpening?_append opening rest⟩
  induction opening generalizing text with
  | nil => exact Option.some.inj h
  | cons o opening ih =>
    cases text with
    | nil => cases h
    | cons c text =>
      rw [dropOpening?] at h
      split at h
      · next hsame => rw [hsame, ih h, List.cons_append]
      · cases h

theorem kindWord?_eq_some_iff {tag : String} : CodeBlock.kindWord? scope tag = some word ↔
    tag.toList = scope.toList ++ ':' :: word.toList := by
  rw [CodeBlock.kindWord?, Option.map_eq_some_iff]
  constructor
  · rintro ⟨rest, hrest, rfl⟩
    rw [dropOpening?_eq_some_iff.1 hrest, String.toList_ofList, List.append_assoc,
      List.singleton_append]
  · intro htag
    refine ⟨word.toList, dropOpening?_eq_some_iff.2 ?_, String.ofList_toList⟩
    rw [htag, List.append_assoc, List.singleton_append]

/-- A block is tagged when the word of its kind can be read off its first word. -/
theorem CodeBlock.isTagged_iff : block.IsTagged scope word arguments ↔
    kindWord? scope block.language = some word ∧ block.argumentText = arguments := by
  rw [kindWord?_eq_some_iff, language, String.toList_ofList]
  have htext : block.argumentText = arguments ↔ dropBlanks ((dropTrailing isBlank
      (dropBlanks block.info.toList)).dropWhile fun c ↦ !isBlank c) = arguments.toList := by
    rw [argumentText, trim, String.toList_ofList, String.ofList_eq]
  rw [htext]
  refine ⟨OpensWith.eq, ?_⟩
  rintro ⟨hfirst, hrest⟩
  obtain ⟨rest, hopens⟩ := @exists_opensWith block.info.toList (by simp [hfirst])
  rw [hfirst] at hopens
  rwa [IsTagged, ← hrest, hopens.eq.2]

example : (CodeBlock.ofText " run:command\thidden  cwd=a " "ls").IsTagged "run" "command"
    "hidden  cwd=a" :=
  CodeBlock.isTagged_iff.2 (by decide)

end Tags

/-! ### What nodes ask for -/

/-- A node is a code block that is tagged with a namespace. -/
def Node.IsTagged (scope : String) (node : Node) : Prop :=
  ∃ block word arguments, node.codeBlock? = some block ∧ block.IsTagged scope word arguments

/-- A node asks for an action: its tag names the kind of the action, and the arguments and the body
make it. -/
def Node.Asks (scope : String) (node : Node) (action : Action) : Prop :=
  ∃ block arguments, node.codeBlock? = some block ∧
    block.IsTagged scope action.kind.tag arguments ∧
    Action.parse action.kind arguments block.body = .ok action

/-- A block that is refused is that of a node whose tag names no kind, or whose arguments or body do
not make an action of the kind. -/
def RefusedBlock.Blames (scope : String) (node : Node) (refused : RefusedBlock) : Prop :=
  ∃ block word arguments, node.codeBlock? = some block ∧ block.IsTagged scope word arguments ∧
    refused.line = node.line ∧
    (refused.kind = none ∧ refused.cause = .unknownKind ⟨scope ++ ":" ++ word⟩ ∧
        (∀ kind : Kind, kind.tag ≠ word) ∨
      ∃ kind, refused.kind = some kind ∧ kind.tag = word ∧
        Action.parse kind arguments block.body = .error refused.cause)

section Nodes

variable {scope : String} {index : Nat} {node : Node} {nodes : List Node} {action : Action}
  {refused : RefusedBlock}

/-- A block is runnable when its tag names a kind. -/
theorem CodeBlock.runnable?_eq_some_iff {block : CodeBlock} {runnable : Runnable} :
    block.runnable? scope = .ok (some runnable) ↔
      block.IsTagged scope runnable.kind.tag runnable.arguments ∧ runnable.body = block.body := by
  obtain ⟨kind, arguments, body⟩ := runnable
  rw [isTagged_iff, runnable?]
  constructor
  · intro h
    split at h
    · cases h
    next word hword =>
      split at h
      · cases h
      next found hfound =>
        cases h
        exact ⟨⟨by rw [hword, Kind.ofTag?_eq_some_iff.1 hfound], rfl⟩, rfl⟩
  · rintro ⟨⟨hword, rfl⟩, rfl⟩
    simp only [hword, Kind.ofTag?_tag]

theorem RefusedBlock.Blames.isTagged (h : refused.Blames scope node) : node.IsTagged scope := by
  obtain ⟨block, word, arguments, hblock, htag, -⟩ := h
  exact ⟨block, word, arguments, hblock, htag⟩

theorem Node.Asks.isRunnable (h : node.Asks scope action) : node.IsRunnable scope := by
  obtain ⟨block, arguments, hblock, htag, -⟩ := h
  exact ⟨block, ⟨action.kind, arguments, block.body⟩, hblock,
    CodeBlock.runnable?_eq_some_iff.2 ⟨htag, rfl⟩⟩

/-- A node asks for one action at most. -/
theorem Node.Asks.unique {other : Action} (h : node.Asks scope action)
    (hother : node.Asks scope other) : action = other := by
  obtain ⟨block, arguments, hblock, htag, hparse⟩ := h
  obtain ⟨again, others, hagain, hsame, hreparse⟩ := hother
  cases hblock.symm.trans hagain
  obtain ⟨hword, rfl⟩ := CodeBlock.isTagged_iff.1 htag
  obtain ⟨hothers, rfl⟩ := CodeBlock.isTagged_iff.1 hsame
  have hkind : action.kind = other.kind := by
    have hfound := Kind.ofTag?_tag action.kind
    rw [Option.some.inj (hword.symm.trans hothers), Kind.ofTag?_tag] at hfound
    exact (Option.some.inj hfound).symm
  rw [hkind, hreparse] at hparse
  exact (Except.ok.inj hparse).symm

/-- A node that is blamed asks for nothing. -/
theorem RefusedBlock.Blames.not_asks (h : refused.Blames scope node) (action : Action) :
    ¬node.Asks scope action := by
  rintro ⟨again, others, hagain, hsame, hparse⟩
  obtain ⟨block, word, arguments, hblock, htag, -, hcause⟩ := h
  cases hblock.symm.trans hagain
  obtain ⟨hword, rfl⟩ := CodeBlock.isTagged_iff.1 htag
  obtain ⟨hothers, rfl⟩ := CodeBlock.isTagged_iff.1 hsame
  obtain rfl := Option.some.inj (hword.symm.trans hothers)
  rcases hcause with ⟨-, -, hnone⟩ | ⟨kind, -, hkind, herror⟩
  · exact hnone _ rfl
  · have hfound := Kind.ofTag?_tag kind
    rw [hkind, Kind.ofTag?_tag] at hfound
    rw [← Option.some.inj hfound, hparse] at herror
    cases herror

/-- The block of a plan that is that of a node does what the node asks for. -/
theorem PlannedBlock.IsOf.asks {block : PlannedBlock} (h : block.IsOf scope index node) :
    node.Asks scope block.action := by
  obtain ⟨code, runnable, hcode, hrunnable, haction⟩ := h.action_eq
  obtain ⟨htag, hbody⟩ := CodeBlock.runnable?_eq_some_iff.1 hrunnable
  have hkind : block.action.kind = runnable.kind := Action.kind_of_parse haction
  refine ⟨code, runnable.arguments, hcode, hkind ▸ htag, ?_⟩
  rw [hkind, ← hbody]
  exact haction

/-- A node whose plan fails is blamed. -/
theorem Node.blames_of_plan (h : node.plan scope index = .error refused) :
    refused.Blames scope node := by
  unfold Node.plan at h
  split at h
  · cases h
  next block hblock =>
    split at h
    · next cause hcause =>
      cases h
      unfold CodeBlock.runnable? at hcause
      split at hcause
      · cases hcause
      next word hword =>
        split at hcause
        · next hkind =>
          cases hcause
          refine ⟨block, word, block.argumentText, hblock, CodeBlock.isTagged_iff.2 ⟨hword, rfl⟩,
            rfl, .inl ⟨rfl, ?_, fun kind hsame ↦ ?_⟩⟩
          · have htag := kindWord?_eq_some_iff.1 hword
            rw [String.toList_inj.1 (htag.trans (by simp) : _ = (scope ++ ":" ++ word).toList)]
          · rw [← hsame, Kind.ofTag?_tag] at hkind
            cases hkind
        · cases hcause
    · cases h
    · next runnable hrunnable =>
      obtain ⟨htag, hbody⟩ := CodeBlock.runnable?_eq_some_iff.1 hrunnable
      split at h
      · next cause hcause =>
        cases h
        refine ⟨block, _, runnable.arguments, hblock, htag, rfl, .inr ⟨runnable.kind, rfl, rfl, ?_⟩⟩
        rw [← hbody]
        exact hcause
      · cases h

/-- A node that has no block in a plan is not tagged. -/
theorem Node.not_isTagged_of_plan (h : node.plan scope index = .ok none) :
    ¬node.IsTagged scope := by
  rintro ⟨block, word, arguments, hblock, htag⟩
  have hword := (CodeBlock.isTagged_iff.1 htag).1
  simp only [Node.plan, hblock, CodeBlock.runnable?, hword] at h
  split at h
  · cases h
  · next hnone => split at hnone <;> cases hnone
  · split at h <;> cases h

/-- When no plan can be made of nodes, the first of them that is tagged and asks for nothing is
blamed. -/
theorem exists_blames_of_planNodes (h : planNodes scope index nodes = .error refused) :
    ∃ before node after, nodes = before ++ node :: after ∧ refused.Blames scope node ∧
      ∀ other ∈ before, other.IsTagged scope → ∃ action, other.Asks scope action := by
  induction nodes generalizing index with
  | nil => cases h
  | cons first rest ih =>
    rw [planNodes] at h
    split at h
    · next refused' hfirst =>
      cases h
      refine ⟨[], first, rest, rfl, Node.blames_of_plan hfirst, ?_⟩
      intro other hother
      cases hother
    next block hfirst =>
      split at h
      · next refused' hrest =>
        cases h
        obtain ⟨before, node, after, rfl, hblames, hbefore⟩ := ih hrest
        refine ⟨first :: before, node, after, rfl, hblames, List.forall_mem_cons.2 ⟨?_, hbefore⟩⟩
        intro htagged
        cases block with
        | some block => exact ⟨block.action, (Node.isOf_of_plan hfirst).asks⟩
        | none => exact (Node.not_isTagged_of_plan hfirst htagged).elim
      · cases h

end Nodes

/-! ### Plans of documents -/

section Documents

variable {document : Document} {scope : String} {plan : List PlannedBlock}

/-- A plan holds what the nodes of a document ask for, each with the index and the line of its node,
in the order of the nodes, and passes over none that is tagged. -/
structure Plans (plan : List PlannedBlock) (scope : String) (document : Document) : Prop where
  ordered : plan.Pairwise fun first second ↦ first.index < second.index
  mem_iff : ∀ block, block ∈ plan ↔ ∃ node, document.nodes[block.index]? = some node ∧
    block.line = node.line ∧ node.Asks scope block.action
  covers : ∀ index node, document.nodes[index]? = some node → node.IsTagged scope →
    ∃ block ∈ plan, block.index = index

theorem plan_of_runs (h : document.runs = true) (scope : String) :
    document.plan scope = planNodes scope 0 document.nodes := by
  obtain ⟨_ | settings, nodes⟩ := document
  · rfl
  · exact if_pos h

theorem plan_of_not_runs (h : document.runs = false) (scope : String) :
    document.plan scope = .ok [] := by
  obtain ⟨_ | settings, nodes⟩ := document
  · cases h
  · exact if_neg (Bool.not_eq_true _ ▸ h)

/-- In a document that has a plan, each node that is tagged asks for something. -/
theorem exists_asks_of_planNodes {index : Nat} {nodes : List Node} {node : Node}
    (h : planNodes scope index nodes = .ok plan) (hnode : node ∈ nodes)
    (htagged : node.IsTagged scope) : ∃ action, node.Asks scope action := by
  induction nodes generalizing index plan with
  | nil => cases hnode
  | cons first rest ih =>
    obtain ⟨block, blocks, hfirst, hblocks, rfl⟩ := planNodes_cons h
    rcases List.mem_cons.1 hnode with rfl | hnode
    · cases block with
      | some block => exact ⟨block.action, (Node.isOf_of_plan hfirst).asks⟩
      | none => exact (Node.not_isTagged_of_plan hfirst htagged).elim
    · exact ih hblocks hnode

theorem plans_of_planNodes (hruns : document.runs = true)
    (h : planNodes scope 0 document.nodes = .ok plan) : Plans plan scope document := by
  have hplan : Enumerates plan scope document :=
    enumerates_of_plan ((plan_of_runs hruns scope).trans h)
  refine ⟨hplan.ordered, fun block ↦ ⟨fun hblock ↦ ?_, ?_⟩, fun index node hnode htagged ↦ ?_⟩
  · obtain ⟨node, hnode, hof⟩ := hplan.sound block hblock
    exact ⟨node, hnode, hof.line_eq, hof.asks⟩
  · rintro ⟨node, hnode, hline, hasks⟩
    obtain ⟨found, hfound, hindex⟩ := hplan.complete hruns _ node hnode hasks.isRunnable
    obtain ⟨again, hagain, hof⟩ := hplan.sound found hfound
    rw [hindex, hnode] at hagain
    cases hagain
    have hsame : found = block := by
      obtain ⟨_, _, _⟩ := found
      obtain ⟨_, _, _⟩ := block
      cases hindex
      cases hline.trans hof.line_eq.symm
      cases hof.asks.unique hasks
      rfl
    exact hsame ▸ hfound
  · obtain ⟨action, hasks⟩ := exists_asks_of_planNodes h (List.mem_of_getElem? hnode) htagged
    exact hplan.complete hruns index node hnode hasks.isRunnable

/-- The plan of a document whose settings turn running off is empty. Of any other document there is
a plan exactly when each node that is tagged asks for something; it holds what the nodes ask for,
and when there is none, the first node that is tagged and asks for nothing is blamed. -/
theorem plan_asked (document : Document) (scope : String) :
    (document.runs = false → document.plan scope = .ok []) ∧
      (document.runs = true →
        ((∃ plan, document.plan scope = .ok plan) ↔
          ∀ node ∈ document.nodes, node.IsTagged scope → ∃ action, node.Asks scope action) ∧
        (∀ plan, document.plan scope = .ok plan → Plans plan scope document) ∧
        ∀ refused, document.plan scope = .error refused →
          ∃ before node after, document.nodes = before ++ node :: after ∧
            refused.Blames scope node ∧
            ∀ other ∈ before, other.IsTagged scope → ∃ action, other.Asks scope action) := by
  refine ⟨fun hidle ↦ plan_of_not_runs hidle scope, fun hruns ↦ ?_⟩
  rw [plan_of_runs hruns scope]
  refine ⟨⟨?_, fun hasked ↦ ?_⟩, fun plan ↦ plans_of_planNodes hruns,
    fun refused ↦ exists_blames_of_planNodes⟩
  · rintro ⟨plan, hplan⟩ node hnode
    exact exists_asks_of_planNodes hplan hnode
  · cases hplan : planNodes scope 0 document.nodes with
    | ok plan => exact ⟨plan, rfl⟩
    | error refused =>
      obtain ⟨before, node, after, hnodes, hblames, -⟩ := exists_blames_of_planNodes hplan
      have hnode : node ∈ document.nodes := by rw [hnodes]; simp
      obtain ⟨action, hasks⟩ := hasked node hnode hblames.isTagged
      exact (hblames.not_asks action hasks).elim

end Documents

end Runbook.Document
