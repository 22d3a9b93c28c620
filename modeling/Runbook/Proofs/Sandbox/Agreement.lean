import Mathlib.Data.Set.Insert
import Runbook.Sandbox.FileSystem
/-!
# Names and nodes of a file system

What can be seen of a file system is which nodes are directories and what they are (`frame?`), which
node has which name in which directory (`named`), and what a node is that is no directory. An
operation on files is described by these three: `setName`, `removeName` and `addNamed` by one
equation for each.

Two file systems agree outside of some spots when all of this is the same, except for the names at
these spots and the nodes that are named nowhere else (`AgreesOutside`). A file system grows when
nothing that was there changes and all new names are those of directories (`GrowsTo`). A spot is
spare when nothing stands there or a file with no other name (`IsSpare`); what is done to such a
file shows nowhere else (`agreesOutside_setNode`).
-/

set_option autoImplicit false

namespace Runbook.Sandbox

namespace FileSystem

/-! ### What can be seen -/

/-- A name in a directory. -/
abbrev Spot := NodeId × String

/-- What a directory is besides its names: the directory that it is in and its permission bits.
Other nodes are none. -/
def frame? (fs : FileSystem) (id : NodeId) : Option (NodeId × Nat) :=
  match fs.content id with
  | .directory parent _ => some (parent, (fs.node id).mode)
  | _ => none

/-- The node that has a name in a directory. -/
def named (fs : FileSystem) (spot : Spot) : Option NodeId := (fs.entries spot.1).lookup spot.2

/-- What stands at a spot. -/
def standing (fs : FileSystem) (spot : Spot) : Option Node := (fs.named spot).map fs.node

variable {fs after later : FileSystem} {id other directory parent : NodeId} {name : String}
  {spot : Spot} {spots : Set Spot} {node : Node}

theorem standing_of_named (h : fs.named spot = some id) : fs.standing spot = some (fs.node id) := by
  rw [standing, h]
  rfl

theorem named_of_standing (h : fs.standing spot = some node) :
    ∃ id, fs.named spot = some id ∧ fs.node id = node :=
  Option.map_eq_some_iff.1 h

theorem frame?_eq_some_iff {mode : Nat} : fs.frame? id = some (parent, mode) ↔
    ∃ entries, fs.content id = .directory parent entries ∧ (fs.node id).mode = mode := by
  unfold frame?
  split <;> simp_all

theorem frame?_eq_none_iff : fs.frame? id = none ↔ fs.isDirectory id = false := by
  unfold frame? isDirectory
  split <;> simp_all

theorem isSome_frame? : (fs.frame? id).isSome = fs.isDirectory id := by
  unfold frame? isDirectory
  split <;> simp_all

theorem isDirectory_of_frame? {frame : NodeId × Nat} (h : fs.frame? id = some frame) :
    fs.isDirectory id = true := by
  rw [← isSome_frame?, h]
  rfl

theorem isDirectory_of_file {bytes : Bytes} (h : fs.content id = .file bytes) :
    fs.isDirectory id = false := by
  rw [isDirectory, h]

theorem isDirectory_of_named (h : fs.named (directory, name) = some id) :
    fs.isDirectory directory = true := by
  unfold named entries at h
  split at h
  · rename_i hcontent
    simp only at hcontent
    unfold isDirectory
    rw [hcontent]
  · cases h

theorem named_of_mem {entry : String × NodeId} (h : ((fs.entries id).map Prod.fst).Nodup)
    (hentry : entry ∈ fs.entries id) : fs.named (id, entry.1) = some entry.2 := by
  obtain ⟨before, after, hentries⟩ := List.append_of_mem hentry
  rw [hentries, List.map_append, List.map_cons] at h
  refine List.lookup_eq_some_iff.2 ⟨before, after, hentries, fun other hother ↦ ?_⟩
  refine bne_iff_ne.2 (Ne.symm ?_)
  exact (List.nodup_append.1 h).2.2 other.1 (List.mem_map_of_mem hother) entry.1 List.mem_cons_self

/-- What holds of all entries of all directories holds of all names. -/
theorem forall_named {motive : Spot → NodeId → Prop}
    (h : ∀ directory < fs.nodes.size, ∀ entry ∈ fs.entries directory,
      motive (directory, entry.1) entry.2)
    (hid : fs.named spot = some id) : motive spot id := by
  obtain ⟨holder, name⟩ := spot
  have hholder : holder < fs.nodes.size := by
    refine Nat.lt_of_not_le fun hle ↦ ?_
    unfold named entries content FileSystem.node at hid
    rw [Array.getD_eq_getD_getElem?, Array.getElem?_eq_none hle] at hid
    cases hid
  obtain ⟨before, after, hentries, -⟩ := List.lookup_eq_some_iff.1 hid
  exact h holder hholder (name, id) (hentries ▸ List.mem_append_right _ List.mem_cons_self)

/-! ### Nodes -/

theorem frame?_eq_of_node (h : after.node id = fs.node id) : after.frame? id = fs.frame? id := by
  unfold frame? content
  rw [h]

theorem entries_eq_of_node (h : after.node id = fs.node id) : after.entries id = fs.entries id := by
  unfold entries content
  rw [h]

theorem lt_size_of_isDirectory (h : fs.isDirectory id = true) : id < fs.nodes.size := by
  refine Nat.lt_of_not_le fun hle ↦ ?_
  unfold isDirectory content FileSystem.node at h
  rw [Array.getD_eq_getD_getElem?, Array.getElem?_eq_none hle] at h
  cases h

theorem node_add {content : Content} {mode : Nat} (h : id ≠ fs.nodes.size) :
    (fs.add content mode).2.node id = fs.node id := by
  unfold FileSystem.node add
  rw [Array.getD_eq_getD_getElem?, Array.getD_eq_getD_getElem?, Array.getElem?_push, if_neg h]

theorem node_add_self {content : Content} {mode : Nat} :
    (fs.add content mode).2.node fs.nodes.size = ⟨content, mode⟩ := by
  unfold FileSystem.node add
  rw [Array.getD_eq_getD_getElem?, Array.getElem?_push, if_pos rfl, Option.getD_some]

/-- The file system with a node replaced. -/
def setNode (fs : FileSystem) (id : NodeId) (node : Node) : FileSystem :=
  ⟨fs.nodes.setIfInBounds id node⟩

theorem node_setNode_of_ne (h : other ≠ id) : (fs.setNode id node).node other = fs.node other := by
  unfold FileSystem.node setNode
  rw [Array.getD_eq_getD_getElem?, Array.getD_eq_getD_getElem?, Array.getElem?_setIfInBounds,
    if_neg (Ne.symm h)]

theorem node_setNode_self (h : id < fs.nodes.size) : (fs.setNode id node).node id = node := by
  unfold FileSystem.node setNode
  rw [Array.getD_eq_getD_getElem?, Array.getElem?_setIfInBounds, if_pos rfl, if_pos h,
    Option.getD_some]

theorem size_setNode : (fs.setNode id node).nodes.size = fs.nodes.size :=
  Array.size_setIfInBounds

/-! ### Names -/

theorem lookup_cons_name (entries : List (String × NodeId)) (name other : String) :
    ((name, id) :: entries).lookup other =
      if other = name then some id else entries.lookup other := by
  rw [List.lookup_cons]
  by_cases h : other = name
  · rw [if_pos h, beq_iff_eq.2 h]
  · rw [if_neg h, beq_eq_false_iff_ne.2 h]

theorem lookup_insertName (entries : List (String × NodeId)) (name other : String) :
    (insertName name id entries).lookup other =
      if other = name then some id else entries.lookup other := by
  induction entries with
  | nil => exact lookup_cons_name [] name other
  | cons entry entries ih =>
    obtain ⟨first, node⟩ := entry
    unfold insertName
    split
    · exact lookup_cons_name _ name other
    · split
      · rename_i hname
        subst hname
        rw [lookup_cons_name, lookup_cons_name]
        by_cases h : other = name <;> simp [h]
      · rename_i hname
        rw [lookup_cons_name, lookup_cons_name, ih]
        by_cases h : other = first
        · simp [h, Ne.symm hname]
        · simp [h]

theorem lookup_filter_name (entries : List (String × NodeId)) (name other : String) :
    (entries.filter fun entry => entry.1 != name).lookup other =
      if other = name then none else entries.lookup other := by
  induction entries with
  | nil => simp
  | cons entry entries ih =>
    obtain ⟨first, node⟩ := entry
    rw [List.filter_cons, lookup_cons_name]
    by_cases hfirst : first = name
    · subst hfirst
      rw [if_neg (by simp), ih]
      by_cases h : other = first <;> simp [h]
    · by_cases h : other = first <;> simp [h, hfirst, ih, lookup_cons_name]

/-- The file system with the names in a directory replaced. -/
def setEntries (fs : FileSystem) (directory : NodeId) (entries : List (String × NodeId)) :
    FileSystem :=
  fs.setNode directory ⟨.directory (fs.parentOf directory) entries, (fs.node directory).mode⟩

section SetEntries

variable {entries : List (String × NodeId)}

theorem frame?_setEntries (h : fs.isDirectory directory = true) :
    (fs.setEntries directory entries).frame? id = fs.frame? id := by
  by_cases hid : id = directory
  · subst hid
    unfold frame? content setEntries
    rw [node_setNode_self (lt_size_of_isDirectory h)]
    unfold parentOf content
    unfold isDirectory content at h
    split at h <;> simp_all
  · exact frame?_eq_of_node (node_setNode_of_ne hid)

theorem node_setEntries (hid : fs.frame? id = none) (h : fs.isDirectory directory = true) :
    (fs.setEntries directory entries).node id = fs.node id := by
  refine node_setNode_of_ne ?_
  rintro rfl
  rw [frame?_eq_none_iff, h] at hid
  cases hid

theorem named_setEntries (h : fs.isDirectory directory = true) :
    (fs.setEntries directory entries).named spot =
      if spot.1 = directory then entries.lookup spot.2 else fs.named spot := by
  unfold named
  split
  · rename_i hspot
    unfold FileSystem.entries content setEntries
    rw [hspot, node_setNode_self (lt_size_of_isDirectory h)]
  · rename_i hspot
    exact congrArg (List.lookup spot.2) (entries_eq_of_node (node_setNode_of_ne hspot))

end SetEntries

section Renaming

variable (h : fs.isDirectory directory = true)
include h

theorem setName_eq : fs.setName directory name id =
    fs.setEntries directory (insertName name id (fs.entries directory)) := by
  unfold isDirectory at h
  unfold setName setEntries FileSystem.entries parentOf
  split at h
  · rfl
  · cases h

theorem removeName_eq : fs.removeName directory name =
    fs.setEntries directory ((fs.entries directory).filter fun entry => entry.1 != name) := by
  unfold isDirectory at h
  unfold removeName setEntries FileSystem.entries parentOf
  split at h
  · rfl
  · cases h

theorem frame?_setName : (fs.setName directory name id).frame? other = fs.frame? other := by
  rw [setName_eq h, frame?_setEntries h]

theorem node_setName (hother : fs.frame? other = none) :
    (fs.setName directory name id).node other = fs.node other := by
  rw [setName_eq h, node_setEntries hother h]

theorem named_setName : (fs.setName directory name id).named spot =
    if spot = (directory, name) then some id else fs.named spot := by
  obtain ⟨holder, other⟩ := spot
  rw [setName_eq h, named_setEntries h, lookup_insertName]
  by_cases hholder : holder = directory
  · subst hholder
    by_cases hother : other = name <;> simp [hother, named]
  · simp [hholder]

theorem frame?_removeName : (fs.removeName directory name).frame? other = fs.frame? other := by
  rw [removeName_eq h, frame?_setEntries h]

theorem node_removeName (hother : fs.frame? other = none) :
    (fs.removeName directory name).node other = fs.node other := by
  rw [removeName_eq h, node_setEntries hother h]

theorem named_removeName : (fs.removeName directory name).named spot =
    if spot = (directory, name) then none else fs.named spot := by
  obtain ⟨holder, other⟩ := spot
  rw [removeName_eq h, named_setEntries h, lookup_filter_name]
  by_cases hholder : holder = directory
  · subst hholder
    by_cases hother : other = name <;> simp [hother, named]
  · simp [hholder]

end Renaming

/-! ### Agreement -/

/-- Two file systems are the same except for the names at some spots. -/
structure AgreesOutside (fs : FileSystem) (spots : Set Spot) (after : FileSystem) : Prop where
  frame : ∀ id, after.frame? id = fs.frame? id
  named : ∀ spot ∉ spots, after.named spot = fs.named spot
  node : ∀ spot ∉ spots, ∀ id, fs.named spot = some id → fs.frame? id = none →
    after.node id = fs.node id

/-- Nothing stands at a spot, or a file that has no other name. -/
def IsSpare (fs : FileSystem) (spot : Spot) : Prop :=
  ∀ id, fs.named spot = some id → id < fs.nodes.size ∧ (∃ bytes, fs.content id = .file bytes) ∧
    ∀ other, fs.named other = some id → other = spot

namespace AgreesOutside

theorem refl (fs : FileSystem) (spots : Set Spot) : fs.AgreesOutside spots fs :=
  ⟨fun _ ↦ rfl, fun _ _ ↦ rfl, fun _ _ _ _ _ ↦ rfl⟩

theorem symm (h : fs.AgreesOutside spots after) : after.AgreesOutside spots fs where
  frame id := (h.frame id).symm
  named spot hspot := (h.named spot hspot).symm
  node spot hspot id hid hframe :=
    (h.node spot hspot id (h.named spot hspot ▸ hid) (h.frame id ▸ hframe)).symm

theorem trans (h : fs.AgreesOutside spots after) (hlater : after.AgreesOutside spots later) :
    fs.AgreesOutside spots later where
  frame id := (hlater.frame id).trans (h.frame id)
  named spot hspot := (hlater.named spot hspot).trans (h.named spot hspot)
  node spot hspot id hid hframe :=
    (hlater.node spot hspot id ((h.named spot hspot).trans hid) ((h.frame id).trans hframe)).trans
      (h.node spot hspot id hid hframe)

theorem isDirectory (h : fs.AgreesOutside spots after) (id : NodeId) :
    after.isDirectory id = fs.isDirectory id := by
  rw [← isSome_frame?, ← isSome_frame?, h.frame]

/-- When nothing stands at the only spot, before or after, all is the same. -/
theorem shrink (h : fs.AgreesOutside {spot} after) (hbefore : fs.named spot = none)
    (hafter : after.named spot = none) : fs.AgreesOutside ∅ after where
  frame := h.frame
  named other _ := by
    by_cases hother : other = spot
    · rw [hother, hbefore, hafter]
    · exact h.named other hother
  node other _ id hid := by
    refine h.node other (fun hother ↦ ?_) id hid
    rw [Set.mem_singleton_iff.1 hother, hbefore] at hid
    cases hid

end AgreesOutside

/-- What is done to a file with no other name shows nowhere else. -/
theorem agreesOutside_setNode {bytes kept : Bytes} {mode : Nat} (hspare : fs.IsSpare spot)
    (hid : fs.named spot = some id) (hkept : fs.content id = .file kept) :
    fs.AgreesOutside {spot} (fs.setNode id ⟨.file bytes, mode⟩) ∧
      (fs.setNode id ⟨.file bytes, mode⟩).IsSpare spot ∧
      (fs.setNode id ⟨.file bytes, mode⟩).named spot = some id ∧
      (fs.setNode id ⟨.file bytes, mode⟩).node id = ⟨.file bytes, mode⟩ := by
  obtain ⟨hlt, -, halone⟩ := hspare id hid
  have hself : (fs.setNode id ⟨.file bytes, mode⟩).node id = ⟨.file bytes, mode⟩ :=
    node_setNode_self hlt
  have hframe (other : NodeId) :
      (fs.setNode id ⟨.file bytes, mode⟩).frame? other = fs.frame? other := by
    by_cases hother : other = id
    · unfold frame?
      rw [hother, hkept, content, hself]
    · exact frame?_eq_of_node (node_setNode_of_ne hother)
  have hnamed (other : Spot) :
      (fs.setNode id ⟨.file bytes, mode⟩).named other = fs.named other := by
    unfold named
    by_cases hother : other.1 = id
    · unfold entries
      rw [hother, hkept, content, hself]
    · rw [entries_eq_of_node (node_setNode_of_ne hother)]
  refine ⟨⟨hframe, fun other _ ↦ hnamed other, fun other hother found hfound _ ↦ ?_⟩,
    fun found hfound ↦ ?_, (hnamed spot).trans hid, hself⟩
  · refine node_setNode_of_ne ?_
    rintro rfl
    exact hother (halone other hfound)
  · rw [hnamed, hid] at hfound
    cases hfound
    refine ⟨size_setNode.symm ▸ hlt, ⟨bytes, ?_⟩, fun other hother ↦ ?_⟩
    · rw [content, hself]
    · exact halone other (hnamed other ▸ hother)

/-! ### Growth -/

/-- The top is a directory, every directory is in one, and every node with a name is there. -/
structure Sound (fs : FileSystem) : Prop where
  root : fs.isDirectory root = true
  parent : ∀ id parent mode, fs.frame? id = some (parent, mode) → fs.isDirectory parent = true
  named : ∀ spot id, fs.named spot = some id → id < fs.nodes.size

/-- Nothing that was there has changed, and every new name is that of a directory. -/
structure GrowsTo (fs after : FileSystem) : Prop where
  frame : ∀ id frame, fs.frame? id = some frame → after.frame? id = some frame
  named : ∀ spot id, fs.named spot = some id → after.named spot = some id
  node : ∀ spot id, fs.named spot = some id → fs.frame? id = none → after.node id = fs.node id
  added : ∀ spot id, fs.named spot = none → after.named spot = some id →
    after.isDirectory id = true

theorem sound_of_forall (hroot : fs.isDirectory FileSystem.root = true)
    (hparent : ∀ id < fs.nodes.size,
      (fs.frame? id).all (fun frame ↦ fs.isDirectory frame.1) = true)
    (hnamed : ∀ directory < fs.nodes.size, ∀ entry ∈ fs.entries directory,
      entry.2 < fs.nodes.size) : fs.Sound where
  root := hroot
  parent id parent mode hframe := by
    have hall := hparent id (lt_size_of_isDirectory (isDirectory_of_frame? hframe))
    rwa [hframe, Option.all_some] at hall
  named _ _ hid := forall_named (motive := fun _ id ↦ id < fs.nodes.size) hnamed hid

namespace GrowsTo

theorem refl (fs : FileSystem) : fs.GrowsTo fs where
  frame _ _ h := h
  named _ _ h := h
  node _ _ _ _ := rfl
  added _ _ hnone hsome := nomatch hnone.symm.trans hsome

theorem isDirectory (h : fs.GrowsTo after) (hid : fs.isDirectory id = true) :
    after.isDirectory id = true := by
  rw [← isSome_frame?] at hid
  obtain ⟨frame, hframe⟩ := Option.isSome_iff_exists.1 hid
  exact isDirectory_of_frame? (h.frame id frame hframe)

theorem frame?_eq_none (h : fs.GrowsTo after) (hid : fs.named spot = some id)
    (hframe : fs.frame? id = none) : after.frame? id = none := by
  rw [frame?_eq_of_node (h.node spot id hid hframe), hframe]

theorem trans (h : fs.GrowsTo after) (hlater : after.GrowsTo later) : fs.GrowsTo later where
  frame id frame hid := hlater.frame id frame (h.frame id frame hid)
  named spot id hid := hlater.named spot id (h.named spot id hid)
  node spot id hid hframe :=
    (hlater.node spot id (h.named spot id hid) (h.frame?_eq_none hid hframe)).trans
      (h.node spot id hid hframe)
  added spot id hnone hsome := by
    cases hafter : after.named spot with
    | none => exact hlater.added spot id hafter hsome
    | some other =>
      obtain rfl : other = id := Option.some.inj ((hlater.named spot other hafter).symm.trans hsome)
      exact hlater.isDirectory (h.added spot other hnone hafter)

end GrowsTo

/-! ### A new node -/

section AddNamed

variable {content : Content} {mode : Nat}

/-- The file system with a new node under a name. -/
structure Adds (fs : FileSystem) (spot : Spot) (node : Node) (after : FileSystem) : Prop where
  node_new : after.node fs.nodes.size = node
  node_old : ∀ id, id ≠ fs.nodes.size → fs.frame? id = none → after.node id = fs.node id
  frame_old : ∀ id, id ≠ fs.nodes.size → after.frame? id = fs.frame? id
  named_new : after.named spot = some fs.nodes.size
  named_old : ∀ other, other ≠ spot → other.1 ≠ fs.nodes.size → after.named other = fs.named other
  size : after.nodes.size = fs.nodes.size + 1

theorem adds_addNamed (h : fs.isDirectory directory = true) :
    fs.Adds (directory, name) ⟨content, mode⟩ (fs.addNamed directory name content mode).2 := by
  have hne : directory ≠ fs.nodes.size := Nat.ne_of_lt (lt_size_of_isDirectory h)
  have hadded : (fs.add content mode).2.isDirectory directory = true := by
    rw [← isSome_frame?, frame?_eq_of_node (node_add hne), isSome_frame?, h]
  have hset : (fs.addNamed directory name content mode).2 =
      (fs.add content mode).2.setEntries directory
        (insertName name fs.nodes.size ((fs.add content mode).2.entries directory)) :=
    setName_eq hadded
  refine ⟨?_, fun id hid hframe ↦ ?_, fun id hid ↦ ?_, ?_, fun other hother hnew ↦ ?_, ?_⟩
  · rw [hset, setEntries, node_setNode_of_ne (Ne.symm hne), node_add_self]
  · rw [hset, node_setEntries _ hadded, node_add hid]
    rw [frame?_eq_of_node (node_add hid), hframe]
  · rw [hset, frame?_setEntries hadded, frame?_eq_of_node (node_add hid)]
  · exact (named_setName hadded).trans (if_pos rfl)
  · refine (named_setName hadded).trans ((if_neg hother).trans ?_)
    unfold named
    rw [entries_eq_of_node (node_add hnew)]
  · rw [hset, setEntries, size_setNode]
    exact Array.size_push _

theorem frame?_size : fs.frame? fs.nodes.size = none := by
  rw [frame?_eq_none_iff, Bool.eq_false_iff]
  exact fun h ↦ Nat.lt_irrefl _ (lt_size_of_isDirectory h)

theorem named_size : fs.named (fs.nodes.size, name) = none := by
  cases h : fs.named (fs.nodes.size, name) with
  | none => rfl
  | some id => exact absurd (lt_size_of_isDirectory (isDirectory_of_named h)) (Nat.lt_irrefl _)

/-- When there is nothing in a new node, it makes no other names. -/
theorem Adds.named_of_bare (h : fs.Adds spot node after) (hbare : after.entries fs.nodes.size = [])
    {other : Spot} (hother : other ≠ spot) : after.named other = fs.named other := by
  by_cases hnew : other.1 = fs.nodes.size
  · have heq : other = (fs.nodes.size, other.2) := Prod.ext hnew rfl
    rw [heq, named_size, named, hbare, List.lookup_nil]
  · exact h.named_old other hother hnew

/-- A new empty directory under a free name is growth. -/
theorem Adds.growsTo (h : fs.Adds spot ⟨.directory parent [], mode⟩ after) (hsound : fs.Sound)
    (hfree : fs.named spot = none) : fs.GrowsTo after := by
  have hcontent : after.content fs.nodes.size = .directory parent [] :=
    congrArg Node.content h.node_new
  have hbare : after.entries fs.nodes.size = [] := by rw [entries, hcontent]
  have hne {other : Spot} {id : NodeId} (hid : fs.named other = some id) : other ≠ spot := by
    rintro rfl
    cases hfree.symm.trans hid
  refine ⟨fun id frame hid ↦ ?_, fun other id hid ↦ ?_, fun other id hid hframe ↦ ?_,
    fun other id hnone hsome ↦ ?_⟩
  · rw [h.frame_old id ?_, hid]
    rintro rfl
    cases frame?_size.symm.trans hid
  · rw [h.named_of_bare hbare (hne hid), hid]
  · exact h.node_old id (Nat.ne_of_lt (hsound.named other id hid)) hframe
  · by_cases hother : other = spot
    · subst hother
      cases h.named_new.symm.trans hsome
      rw [isDirectory, hcontent]
    · rw [h.named_of_bare hbare hother, hnone] at hsome
      cases hsome

theorem Adds.sound (h : fs.Adds spot ⟨.directory parent [], mode⟩ after) (hsound : fs.Sound)
    (hfree : fs.named spot = none) (hparent : fs.isDirectory parent = true) : after.Sound := by
  have hgrows : fs.GrowsTo after := h.growsTo hsound hfree
  have hcontent : after.content fs.nodes.size = .directory parent [] :=
    congrArg Node.content h.node_new
  refine ⟨hgrows.isDirectory hsound.root, fun id holder bits hid ↦ ?_, fun other id hid ↦ ?_⟩
  · refine hgrows.isDirectory ?_
    by_cases hnew : id = fs.nodes.size
    · rw [hnew, frame?, hcontent] at hid
      cases hid
      exact hparent
    · exact hsound.parent id holder bits ((h.frame_old id hnew).symm.trans hid)
  · rw [h.size]
    cases hold : fs.named other with
    | some found =>
      cases (hgrows.named other found hold).symm.trans hid
      exact Nat.lt_succ_of_lt (hsound.named other _ hold)
    | none =>
      by_cases hother : other = spot
      · subst hother
        cases h.named_new.symm.trans hid
        exact Nat.lt_succ_self _
      · have hbare : after.entries fs.nodes.size = [] := by rw [entries, hcontent]
        rw [h.named_of_bare hbare hother, hold] at hid
        cases hid

/-- A new file under a free name shows nowhere else. -/
theorem Adds.agreesOutside {bytes : Bytes} (h : fs.Adds spot ⟨.file bytes, mode⟩ after)
    (hsound : fs.Sound) : fs.AgreesOutside {spot} after ∧ after.IsSpare spot := by
  have hcontent : after.content fs.nodes.size = .file bytes := congrArg Node.content h.node_new
  have hbare : after.entries fs.nodes.size = [] := by rw [entries, hcontent]
  refine ⟨⟨fun id ↦ ?_, fun other hother ↦ h.named_of_bare hbare hother,
    fun other _ id hid hframe ↦
      h.node_old id (Nat.ne_of_lt (hsound.named other id hid)) hframe⟩, ?_⟩
  · by_cases hid : id = fs.nodes.size
    · rw [hid, frame?_size, frame?, hcontent]
    · exact h.frame_old id hid
  · intro id hid
    cases h.named_new.symm.trans hid
    refine ⟨h.size.symm ▸ Nat.lt_succ_self _, ⟨bytes, hcontent⟩, fun other hother ↦ ?_⟩
    by_contra hne
    rw [h.named_of_bare hbare hne] at hother
    exact Nat.lt_irrefl _ (hsound.named other _ hother)

end AddNamed

end FileSystem

end Runbook.Sandbox
