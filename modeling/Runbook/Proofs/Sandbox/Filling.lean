import Runbook.Proofs.Sandbox.Paths
import Runbook.Proofs.Sandbox.Ways
/-!
# Filling a directory

A directory is filled when names for new nodes are put into it, or into directories that are new
themselves, and nothing else is touched (`Fills`). That composes (`Fills.trans`): to fill a new
directory below another one is to fill the other one. What a path leads to, it leads to afterwards
(`Fills.leads`), and what is below one of the new directories stays as it is while another one above
it or beside it is filled (`Fills.descend_eq`).

A directory gets a new node under a free name by making a directory, a link or a file there
(`Gains`).
-/

set_option autoImplicit false

namespace Runbook.Sandbox.FileSystem

variable {fs after later : FileSystem} {here id other directory inner : NodeId}
  {path name : String} {names more : List String} {fuel links mode : Nat} {spot : Spot}
  {place : Place} {content : Content}

/-! ### Names below a directory -/

/-- The node that some names lead down to, one after the other. No link is followed. -/
def descend (fs : FileSystem) : NodeId → List String → Option NodeId
  | id, [] => some id
  | id, name :: names =>
    match fs.named (id, name) with
    | some child => descend fs child names
    | none => none

theorem descend_cons (hid : fs.named (directory, name) = some id) (names : List String) :
    fs.descend directory (name :: names) = fs.descend id names := by
  rw [descend, hid]

theorem exists_named_of_descend (h : fs.descend directory (name :: names) = some id) :
    ∃ child, fs.named (directory, name) = some child ∧ fs.descend child names = some id := by
  rw [descend] at h
  split at h
  · exact ⟨_, ‹_›, h⟩
  · cases h

/-- What is below one of some nodes stays as it is where these nodes do. -/
theorem descend_eq_of_closed {closed : Set NodeId}
    (hclosed : ∀ id ∈ closed, ∀ name child, fs.named (id, name) = some child → child ∈ closed)
    (hnode : ∀ id ∈ closed, after.node id = fs.node id) (hid : id ∈ closed) :
    after.descend id names = fs.descend id names ∧
      ∀ other, fs.descend id names = some other → after.node other = fs.node other := by
  induction names generalizing id with
  | nil =>
    refine ⟨rfl, fun other hother ↦ ?_⟩
    cases hother
    exact hnode _ hid
  | cons name names ih =>
    have hnamed : after.named (id, name) = fs.named (id, name) :=
      congrArg (List.lookup name) (entries_eq_of_node (hnode id hid))
    rw [descend, descend, hnamed]
    cases hchild : fs.named (id, name) with
    | none => exact ⟨rfl, nofun⟩
    | some child => exact ih (hclosed id hid name child hchild)

/-- The names that lead down to files. -/
def filesBelow (fs : FileSystem) (id : NodeId) : Set (List String) :=
  {names | ∃ file bytes, fs.descend id names = some file ∧ fs.content file = .file bytes}

/-- Nothing is below what is no directory. -/
theorem eq_of_descend_plain (hplain : fs.isDirectory directory = false)
    (h : fs.descend directory names = some id) : names = [] ∧ directory = id := by
  cases names with
  | nil => exact ⟨rfl, Option.some.inj h⟩
  | cons name names =>
    obtain ⟨child, hchild, -⟩ := exists_named_of_descend h
    rw [isDirectory_of_named hchild] at hplain
    cases hplain

theorem mem_filesBelow_cons (hid : fs.named (directory, name) = some id) :
    name :: names ∈ fs.filesBelow directory ↔ names ∈ fs.filesBelow id := by
  change (∃ file bytes, fs.descend directory (name :: names) = some file ∧
    fs.content file = .file bytes) ↔ _
  rw [descend_cons hid]
  rfl

theorem nil_notMem_filesBelow (h : fs.isDirectory id = true) : [] ∉ fs.filesBelow id := by
  rintro ⟨file, bytes, hfile, hbytes⟩
  cases hfile
  cases (isDirectory_of_file hbytes).symm.trans h

theorem filesBelow_of_file {bytes : Bytes} (h : fs.content id = .file bytes) :
    fs.filesBelow id = {[]} := by
  refine Set.eq_singleton_iff_unique_mem.2 ⟨⟨id, bytes, rfl, h⟩, ?_⟩
  rintro names ⟨file, -, hfile, -⟩
  exact (eq_of_descend_plain (isDirectory_of_file h) hfile).1

theorem filesBelow_of_link {target : String} (h : fs.content id = .link target) :
    fs.filesBelow id = ∅ := by
  have hplain : fs.isDirectory id = false := by rw [isDirectory, h]
  refine Set.eq_empty_of_forall_notMem ?_
  rintro names ⟨file, bytes, hfile, hbytes⟩
  obtain ⟨-, rfl⟩ := eq_of_descend_plain hplain hfile
  cases h.symm.trans hbytes

/-! ### Filling -/

/-- Names for new nodes have been put into a directory and into new directories. Nothing else has
changed. -/
structure Fills (fs : FileSystem) (directory : NodeId) (after : FileSystem) : Prop where
  isDirectory : fs.isDirectory directory = true
  size : fs.nodes.size ≤ after.nodes.size
  node : ∀ id < fs.nodes.size, id ≠ directory → after.node id = fs.node id
  frame : after.frame? directory = fs.frame? directory
  named : ∀ name id, fs.named (directory, name) = some id → after.named (directory, name) = some id
  added : ∀ spot id, after.named spot = some id → fs.named spot ≠ some id →
    (spot.1 = directory ∨ fs.nodes.size ≤ spot.1) ∧ spot.1 < id ∧ fs.nodes.size ≤ id ∧
      id < after.nodes.size
  above : ∀ id parent mode, fs.nodes.size ≤ id → after.frame? id = some (parent, mode) →
    parent = directory ∨ fs.nodes.size ≤ parent

/-- Every node with a name is there. -/
def Bounded (fs : FileSystem) : Prop := ∀ spot id, fs.named spot = some id → id < fs.nodes.size

namespace Fills

theorem refl (h : fs.isDirectory directory = true) : fs.Fills directory fs where
  isDirectory := h
  size := Nat.le_refl _
  node _ _ _ := rfl
  frame := rfl
  named _ _ hid := hid
  added _ _ hid hnot := absurd hid hnot
  above _ _ _ hnew hframe :=
    absurd (lt_size_of_isDirectory (isDirectory_of_frame? hframe)) (Nat.not_lt_of_le hnew)

section

variable (h : fs.Fills directory after)
include h

theorem lt_size : directory < fs.nodes.size := lt_size_of_isDirectory h.isDirectory

theorem frame?_eq (hid : id < fs.nodes.size) : after.frame? id = fs.frame? id := by
  by_cases hdirectory : id = directory
  · rw [hdirectory, h.frame]
  · exact frame?_eq_of_node (h.node id hid hdirectory)

theorem isDirectory_eq (hid : id < fs.nodes.size) : after.isDirectory id = fs.isDirectory id := by
  rw [← isSome_frame?, ← isSome_frame?, h.frame?_eq hid]

theorem named_eq (hid : id < fs.nodes.size) (hne : id ≠ directory) :
    after.named (id, name) = fs.named (id, name) :=
  congrArg (List.lookup name) (entries_eq_of_node (h.node id hid hne))

theorem named_of_named (hid : fs.named spot = some id) : after.named spot = some id := by
  obtain ⟨holder, name⟩ := spot
  by_cases hholder : holder = directory
  · subst hholder
    exact h.named name id hid
  · rw [h.named_eq (lt_size_of_isDirectory (isDirectory_of_named hid)) hholder, hid]

theorem bounded (hbounded : fs.Bounded) : after.Bounded := by
  intro spot id hid
  by_cases hold : fs.named spot = some id
  · exact Nat.lt_of_lt_of_le (hbounded spot id hold) h.size
  · exact (h.added spot id hid hold).2.2.2

/-- To fill a directory further, or a new one below it, is to fill it. -/
theorem trans (hlater : after.Fills inner later)
    (hinner : inner = directory ∨ fs.nodes.size ≤ inner) : fs.Fills directory later := by
  have hne {id : NodeId} (hid : id < fs.nodes.size) (hold : id ≠ directory) : id ≠ inner := by
    rintro rfl
    exact hinner.elim hold (Nat.not_le_of_lt hid)
  refine ⟨h.isDirectory, h.size.trans hlater.size, fun id hid hold ↦ ?_, ?_, fun name id hid ↦ ?_,
    fun spot id hid hold ↦ ?_, fun id parent mode hnew hframe ↦ ?_⟩
  · rw [hlater.node id (Nat.lt_of_lt_of_le hid h.size) (hne hid hold), h.node id hid hold]
  · rw [hlater.frame?_eq (Nat.lt_of_lt_of_le h.lt_size h.size), h.frame]
  · exact hlater.named_of_named (h.named name id hid)
  · by_cases hafter : after.named spot = some id
    · obtain ⟨hspot, hlt, hnew, hsize⟩ := h.added spot id hafter hold
      exact ⟨hspot, hlt, hnew, Nat.lt_of_lt_of_le hsize hlater.size⟩
    · obtain ⟨hspot, hlt, hnew, hsize⟩ := hlater.added spot id hid hafter
      refine ⟨?_, hlt, h.size.trans hnew, hsize⟩
      rcases hspot with hspot | hspot
      · exact hspot ▸ hinner
      · exact .inr (h.size.trans hspot)
  · rcases Nat.lt_or_ge id after.nodes.size with hid | hid
    · exact h.above id parent mode hnew ((hlater.frame?_eq hid).symm.trans hframe)
    · rcases hlater.above id parent mode hid hframe with rfl | hparent
      · exact hinner
      · exact .inr (h.size.trans hparent)

/-- A node with a name that was there is kept, unless it is a directory. -/
theorem node_of_named (hbounded : fs.Bounded) (hid : fs.named spot = some id)
    (hframe : fs.frame? id = none) : after.node id = fs.node id := by
  refine h.node id (hbounded spot id hid) ?_
  rintro rfl
  cases h.isDirectory.symm.trans (frame?_eq_none_iff.1 hframe)

/-- A path leads to what it led to. -/
theorem leads (hbounded : fs.Bounded) (hid : fs.Leads here path id) : after.Leads here path id := by
  obtain ⟨fuel, links, hreaches⟩ := hid
  refine ⟨fuel, links, hreaches.mono (fun other frame hframe ↦ ?_) (fun _ _ ↦ h.named_of_named)
    (fun _ _ ↦ h.node_of_named hbounded) rfl⟩
  rw [h.frame?_eq (lt_size_of_isDirectory (isDirectory_of_frame? hframe)), hframe]

/-- Into a directory without names only new names are put, and below it every name is that of a
node which came later than the directory that it is in. -/
theorem lt_of_named (hempty : ∀ name, fs.named (directory, name) = none)
    (hspot : spot.1 = directory ∨ fs.nodes.size ≤ spot.1) (hid : after.named spot = some id) :
    spot.1 < id ∧ fs.nodes.size ≤ id := by
  obtain ⟨holder, name⟩ := spot
  have hnone : fs.named (holder, name) ≠ some id := by
    intro hold
    rcases hspot with rfl | hnew
    · cases (hempty name).symm.trans hold
    · exact Nat.not_lt_of_le hnew (lt_size_of_isDirectory (isDirectory_of_named hold))
  obtain ⟨-, hlt, hnew, -⟩ := h.added _ id hid hnone
  exact ⟨hlt, hnew⟩

end

/-- What is below a directory stays as it is while another one is filled that came earlier. -/
theorem descend_eq {first : FileSystem} {top : NodeId} (h : first.Fills top fs)
    (hempty : ∀ name, first.named (top, name) = none) (hbounded : fs.Bounded)
    (hfills : fs.Fills directory after) (hlt : directory < inner) (hnew : first.nodes.size ≤ inner)
    (hinner : inner < fs.nodes.size) :
    after.descend inner names = fs.descend inner names ∧
      ∀ id, fs.descend inner names = some id → after.node id = fs.node id := by
  have hmem : inner ∈ {id | directory < id ∧ first.nodes.size ≤ id ∧ id < fs.nodes.size} :=
    ⟨hlt, hnew, hinner⟩
  refine descend_eq_of_closed ?_ ?_ hmem
  · rintro id ⟨hlater, hnew, -⟩ name child hchild
    obtain ⟨hgreater, hlate⟩ := h.lt_of_named hempty (.inr hnew) hchild
    exact ⟨hlater.trans hgreater, hlate, hbounded _ child hchild⟩
  · rintro id ⟨hlater, -, hid⟩
    exact hfills.node id hid (Nat.ne_of_gt hlater)

end Fills

/-! ### One node more -/

/-- A directory has got one name more, for a new node. -/
structure Gains (fs : FileSystem) (directory : NodeId) (name : String) (content : Content)
    (after : FileSystem) : Prop where
  fills : fs.Fills directory after
  size : after.nodes.size = fs.nodes.size + 1
  named : after.named (directory, name) = some fs.nodes.size
  content_new : after.content fs.nodes.size = content
  others : ∀ other ≠ name, after.named (directory, other) = fs.named (directory, other)

/-- A new node under a free name. -/
theorem gains_addNamed (hdirectory : fs.isDirectory directory = true)
    (hfree : fs.named (directory, name) = none)
    (hbare : ∀ parent entries, content = .directory parent entries →
      parent = directory ∧ entries = []) :
    fs.Gains directory name content (fs.addNamed directory name content mode).2 := by
  have hadds : fs.Adds (directory, name) ⟨content, mode⟩
      (fs.addNamed directory name content mode).2 := adds_addNamed hdirectory
  have hlt : directory < fs.nodes.size := lt_size_of_isDirectory hdirectory
  have hnew : (fs.addNamed directory name content mode).2.content fs.nodes.size = content :=
    congrArg Node.content hadds.node_new
  have hentries : (fs.addNamed directory name content mode).2.entries fs.nodes.size = [] := by
    unfold FileSystem.entries
    rw [hnew]
    split
    · exact (hbare _ _ rfl).2
    · rfl
  have hnode (id : NodeId) (hid : id < fs.nodes.size) (hne : id ≠ directory) :
      (fs.addNamed directory name content mode).2.node id = fs.node id := by
    have hadded : (fs.add content mode).2.isDirectory directory = true := by
      rw [← isSome_frame?, frame?_eq_of_node (node_add (Nat.ne_of_lt hlt)), isSome_frame?,
        hdirectory]
    change ((fs.add content mode).2.setName directory name fs.nodes.size).node id = fs.node id
    rw [setName_eq hadded, setEntries, node_setNode_of_ne hne, node_add (Nat.ne_of_lt hid)]
  refine ⟨⟨hdirectory, Nat.le_of_lt (hadds.size ▸ Nat.lt_succ_self _), hnode,
    hadds.frame_old _ (Nat.ne_of_lt hlt), fun other id hid ↦ ?_, fun spot id hid hold ↦ ?_,
    fun id parent mode hlater hframe ↦ ?_⟩, hadds.size, hadds.named_new, hnew,
    fun other hother ↦ ?_⟩
  · refine (hadds.named_of_bare hentries ?_).trans hid
    intro heq
    cases (Prod.mk.inj heq).2
    cases hfree.symm.trans hid
  · by_cases hspot : spot = (directory, name)
    · subst hspot
      cases hadds.named_new.symm.trans hid
      exact ⟨.inl rfl, hlt, Nat.le_refl _, hadds.size ▸ Nat.lt_succ_self _⟩
    · exact absurd ((hadds.named_of_bare hentries hspot).symm.trans hid) hold
  · have hsize := hadds.size ▸ lt_size_of_isDirectory (isDirectory_of_frame? hframe)
    have hid : id = fs.nodes.size := (Nat.le_of_lt_succ hsize).antisymm hlater
    obtain ⟨entries, hcontent, -⟩ := frame?_eq_some_iff.1 (hid ▸ hframe)
    exact .inl (hbare parent entries (hnew.symm.trans hcontent)).1
  · exact hadds.named_of_bare hentries fun heq ↦ hother (Prod.mk.inj heq).2

namespace Gains

variable (h : fs.Gains directory name content after)
include h

theorem lt_size : fs.nodes.size < after.nodes.size := h.size ▸ Nat.lt_succ_self _

/-- A new file can hold anything, and can have any permission bits. -/
theorem setNode {kept bytes : Bytes} (hkept : content = .file kept) :
    fs.Gains directory name (.file bytes) (after.setNode fs.nodes.size ⟨.file bytes, mode⟩) := by
  have hlt : directory < fs.nodes.size := h.fills.lt_size
  have hself : (after.setNode fs.nodes.size ⟨.file bytes, mode⟩).node fs.nodes.size =
      ⟨.file bytes, mode⟩ := node_setNode_self h.lt_size
  have hnamed (spot : Spot) :
      (after.setNode fs.nodes.size ⟨.file bytes, mode⟩).named spot = after.named spot := by
    obtain ⟨holder, other⟩ := spot
    unfold FileSystem.named FileSystem.entries
    by_cases hholder : holder = fs.nodes.size
    · rw [hholder, FileSystem.content, hself, h.content_new, hkept]
    · rw [FileSystem.content, FileSystem.content, node_setNode_of_ne hholder]
  refine ⟨⟨h.fills.isDirectory, h.fills.size.trans_eq size_setNode.symm, fun id hid hne ↦ ?_, ?_,
    fun other id hid ↦ (hnamed _).trans (h.fills.named other id hid), fun spot id hid hold ↦ ?_,
    fun id parent mode hlater hframe ↦ ?_⟩,
    size_setNode.trans h.size, (hnamed _).trans h.named, congrArg Node.content hself,
    fun other hother ↦ (hnamed _).trans (h.others other hother)⟩
  · rw [node_setNode_of_ne (Nat.ne_of_lt hid), h.fills.node id hid hne]
  · rw [frame?_eq_of_node (node_setNode_of_ne (Nat.ne_of_lt hlt)), h.fills.frame]
  · rw [size_setNode]
    exact h.fills.added spot id ((hnamed spot).symm.trans hid) hold
  · by_cases hid : id = fs.nodes.size
    · rw [hid, frame?, FileSystem.content, hself] at hframe
      cases hframe
    · exact h.fills.above id parent mode hlater
        ((frame?_eq_of_node (node_setNode_of_ne hid)).symm.trans hframe)

end Gains

theorem setMode_setContent (fs : FileSystem) (id : NodeId) (content : Content) (mode : Nat) :
    (fs.setContent id content).setMode id mode = fs.setNode id ⟨content, mode⟩ := by
  by_cases hlt : id < fs.nodes.size
  · have hnode : (fs.setContent id content).node id = ⟨content, (fs.node id).mode⟩ :=
      node_setNode_self hlt
    rw [setMode, hnode]
    exact congrArg FileSystem.mk (Array.setIfInBounds_setIfInBounds _)
  · have hsame (node : Node) : fs.nodes.setIfInBounds id node = fs.nodes :=
      Array.setIfInBounds_eq_of_size_le (Nat.le_of_not_lt hlt)
    rw [setContent, setMode, FileSystem.setNode, hsame, hsame, hsame]

/-- The file system once a file that has been opened holds some bytes. A device drops them. -/
def filled (fs : FileSystem) (id : NodeId) (bytes : Bytes) (mode : Nat) : FileSystem :=
  match fs.content id with
  | .file _ => fs.setNode id ⟨.file bytes, mode⟩
  | _ => fs

/-- The directories that a path leads through are there, or the last one has just been made. -/
def MakesAll (fs : FileSystem) (here : NodeId) (path : String) (after : FileSystem) : Prop :=
  (∃ id, after.find here path true = .ok id ∧ after.isDirectory id = true) ∨
    ∃ between mode, fs.Makes here path between ∧ between.makeDirectory here path mode = .ok after

/-! ### Making a node -/

/-- What is missing stands on no way to a node. -/
theorem Leads.not_prefix {part : String} (h : fs.Leads here path id)
    (hstart : start here part = start here path) (hspot : fs.spot here part = .ok spot)
    (hplain : isDots spot.2 = false) (hfree : fs.named spot = none) :
    ¬pieces part <+: pieces path := by
  rintro ⟨rest, hrest⟩
  obtain ⟨fuel, links, hreaches⟩ := h
  obtain ⟨-, hholder, -, -⟩ := spot_eq_ok_iff.1 hspot
  rw [← hrest, pieces_of_spot hspot hplain, List.append_assoc, ← hstart] at hreaches
  obtain ⟨_, _, hbeyond⟩ := (hholder.weaken (Nat.le_max_left _ fuel)
    (Nat.le_max_left _ links)).rest (hreaches.weaken (Nat.le_max_right _ _)
    (Nat.le_max_right _ _))
  cases (hbeyond.of_free hplain hfree).1

section Making

variable {target longer : String} {made : FileSystem}

theorem gains_of_makeDirectory (h : fs.makeDirectory here path mode = .ok after) :
    ∃ spot, fs.spot here path = .ok spot ∧ isDots spot.2 = false ∧ fs.named spot = none ∧
      fs.Gains spot.1 spot.2 (.directory spot.1 []) after := by
  obtain ⟨spot, hspot, hname, hfree, hholder, rfl⟩ := addNamed_of_makeDirectory h
  refine ⟨spot, hspot, hname, hfree, gains_addNamed hholder hfree fun parent entries heq ↦ ?_⟩
  cases heq
  exact ⟨rfl, rfl⟩

theorem gains_of_makeLink (h : fs.makeLink here target path = .ok after) :
    ∃ spot, fs.spot here path = .ok spot ∧ fs.Gains spot.1 spot.2 (.link target) after := by
  unfold makeLink at h
  obtain ⟨-, h⟩ := of_unless_ok h
  obtain ⟨spot, hspot, h⟩ := exists_of_bind_ok h
  obtain ⟨-, -, hholder, -⟩ := spot_eq_ok_iff.1 hspot
  obtain ⟨htaken, h⟩ := of_unless_ok h
  obtain ⟨-, h⟩ := of_unless_ok h
  cases h
  exact ⟨spot, hspot, gains_addNamed hholder (free_of_not_taken htaken).2 nofun⟩

/-- Where all directories are there, none is made. -/
theorem Makes.eq_of_leads (h : fs.Makes here path made) (hid : fs.Leads here path id) :
    made = fs := by
  induction h with
  | nothing => rfl
  | further _ hstart hpart hmade ih =>
    rw [ih] at hmade
    obtain ⟨spot, hspot, hplain, hfree, -⟩ := gains_of_makeDirectory hmade
    exact absurd hpart (hid.not_prefix hstart hspot hplain hfree)

variable (hleads : fs.Leads here path directory) (hlonger : GoesOn here path name longer)
  (hfree : fs.named (directory, name) = none)
include hleads hlonger hfree

/-- A file that is opened under a free name is new. -/
theorem gains_of_openNode {opened : NodeId} {how : OpenHow}
    (h : fs.openNode here longer how mode = .ok (opened, after)) :
    opened = fs.nodes.size ∧ fs.Gains directory name (.file []) after := by
  unfold openNode at h
  obtain ⟨place, hlocate, h⟩ := exists_of_bind_ok h
  obtain rfl := hleads.locate_eq hlonger hfree hlocate
  have hdirectory : fs.isDirectory directory = true := by
    obtain ⟨-, hreaches⟩ := reaches_of_locate hlocate
    rw [hlonger.start, hlonger.pieces] at hreaches
    obtain ⟨_, _, hrest⟩ := hleads.rest hreaches
    by_contra hplain
    cases hrest.of_plain (Bool.eq_false_iff.2 hplain)
  obtain ⟨-, h⟩ := of_unless_ok h
  obtain ⟨-, h⟩ := of_unless_ok h
  cases h
  exact ⟨rfl, gains_addNamed hdirectory hfree nofun⟩

/-- Where all directories on the way are there, at most the last one is made. -/
theorem Makes.eq_or_gains (hbounded : fs.Bounded) (h : fs.Makes here longer made) :
    made = fs ∨ fs.Gains directory name (.directory directory []) made := by
  induction h with
  | nothing => exact .inl rfl
  | @further between after part mode _ hstart hpart hmade ih =>
    obtain ⟨spot, hspot, hplain, hnone, hgains⟩ := gains_of_makeDirectory hmade
    have hbetween : between.Leads here path directory := by
      rcases ih with rfl | hgained
      · exact hleads
      · exact hgained.fills.leads hbounded hleads
    rw [hlonger.pieces] at hpart
    rcases List.prefix_concat_iff.1 hpart with hall | hbefore
    · obtain rfl := hbetween.spot_eq ⟨hstart.trans hlonger.start, hall, hlonger.plain⟩ hspot
      rcases ih with rfl | hgained
      · exact .inr hgains
      · cases hnone.symm.trans hgained.named
    · exact absurd hbefore
        (hbetween.not_prefix (hstart.trans hlonger.start) hspot hplain hnone)

/-- Where only the last directory of a path is missing, it is made. -/
theorem gains_of_makesAll (hbounded : fs.Bounded) (hmakes : fs.Makes here longer made)
    (h : fs.MakesAll here longer made) :
    fs.Gains directory name (.directory directory []) made := by
  rcases h with ⟨id, hid, -⟩ | ⟨between, mode, hbetween, hmade⟩
  · rcases hmakes.eq_or_gains hleads hlonger hfree hbounded with rfl | hgains
    · cases hleads.locate_eq hlonger hfree (find_eq_ok_iff.1 hid)
    · exact hgains
  · obtain ⟨spot, hspot, -, hnone, hgains⟩ := gains_of_makeDirectory hmade
    rcases hbetween.eq_or_gains hleads hlonger hfree hbounded with rfl | hgained
    · obtain rfl := hleads.spot_eq hlonger hspot
      exact hgains
    · obtain rfl := (hgained.fills.leads hbounded hleads).spot_eq hlonger hspot
      cases hnone.symm.trans hgained.named

end Making

end Runbook.Sandbox.FileSystem
