import Mathlib.Data.Set.Basic
import Runbook.Proofs.Results
import Runbook.Proofs.Sandbox.Filling
import Runbook.Proofs.Sandbox.Inside
/-!
# Removing and replacing directories

To remove a directory is to remove what is in it, name by name, and its own name last, and any of
that can be left when it fails on the way (`Removal`). Only names go (`Shrinks`), so a path leads
afterwards to what it led to or nowhere. Where it is known what a path can lead to (`Stands`), it is
known what removing it can clear: names in the directory and in those below it, and the name that
the directory has (`Removal.clears`).

While a directory is replaced by a new one beside it, all stays as it is but for some names in the
directory that both are in, and for what is in the old one (`Spares`). To fill a new directory
changes none of the names that were there (`Fills.spares`), and to remove the old one changes only
its own name and what is in it (`Clears.spares`). A directory that is moved within the directory
that it is in is the same afterwards (`renames_moveName`).
-/

set_option autoImplicit false

namespace Runbook.Sandbox.FileSystem

variable {fs after later : FileSystem} {here id top directory : NodeId} {path name : String}
  {names : List String} {fuel links : Nat} {spot : Spot} {place : Place}

/-! ### Names that go -/

/-- Names have gone, and nothing else has changed. -/
structure Shrinks (fs after : FileSystem) : Prop where
  size : after.nodes.size = fs.nodes.size
  frame : ∀ id, after.frame? id = fs.frame? id
  plain : ∀ id, fs.frame? id = none → after.node id = fs.node id
  named : ∀ spot id, after.named spot = some id → fs.named spot = some id

namespace Shrinks

theorem refl (fs : FileSystem) : fs.Shrinks fs := ⟨rfl, fun _ ↦ rfl, fun _ _ ↦ rfl, fun _ _ h ↦ h⟩

variable (h : fs.Shrinks after)
include h

theorem trans (hlater : after.Shrinks later) : fs.Shrinks later where
  size := hlater.size.trans h.size
  frame id := (hlater.frame id).trans (h.frame id)
  plain id hid := (hlater.plain id ((h.frame id).trans hid)).trans (h.plain id hid)
  named spot id hid := h.named spot id (hlater.named spot id hid)

theorem isDirectory_eq (id : NodeId) : after.isDirectory id = fs.isDirectory id := by
  rw [← isSome_frame?, ← isSome_frame?, h.frame]

theorem reaches (hreaches : after.Reaches fuel links here names place) (hplace : place = .node id) :
    fs.Reaches fuel links here names place :=
  hreaches.mono (fun id _ hframe ↦ (h.frame id).symm.trans hframe) h.named
    (fun _ id _ hframe ↦ (h.plain id ((h.frame id).symm.trans hframe)).symm) hplace

theorem leads (hid : after.Leads here path id) : fs.Leads here path id := by
  obtain ⟨fuel, links, hreaches⟩ := hid
  exact ⟨fuel, links, h.reaches hreaches rfl⟩

theorem spot_eq (hspot : after.spot here path = .ok spot) : fs.spot here path = .ok spot := by
  obtain ⟨hpath, hreaches, hholder, hlast⟩ := spot_eq_ok_iff.1 hspot
  exact spot_eq_ok_iff.2 ⟨hpath, h.reaches hreaches rfl, (h.isDirectory_eq _).symm.trans hholder,
    hlast⟩

end Shrinks

theorem shrinks_removeName (h : fs.isDirectory directory = true) :
    fs.Shrinks (fs.removeName directory name) where
  size := by rw [removeName_eq h, setEntries, size_setNode]
  frame _ := frame?_removeName h
  plain _ hid := node_removeName h hid
  named spot id hid := by
    rw [named_removeName h] at hid
    split at hid
    · cases hid
    · exact hid

/-! ### Removing one name -/

theorem removeName_of_unlink (h : fs.unlink here path = .ok after) :
    ∃ spot id, fs.spot here path = .ok spot ∧ isDots spot.2 = false ∧ fs.named spot = some id ∧
      fs.isDirectory id = false ∧ after = fs.removeName spot.1 spot.2 := by
  unfold unlink at h
  obtain ⟨spot, hspot, h⟩ := exists_of_bind_ok h
  obtain ⟨hdots, h⟩ := of_unless_ok h
  split at h
  · cases h
  · rename_i id hid
    obtain ⟨hplain, h⟩ := of_unless_ok h
    obtain ⟨-, h⟩ := of_unless_ok h
    cases h
    exact ⟨spot, id, hspot, Bool.eq_false_iff.2 hdots, hid, Bool.eq_false_iff.2 hplain, rfl⟩

theorem removeName_of_removeDirectory (h : fs.removeDirectory here path = .ok after) :
    ∃ spot, fs.spot here path = .ok spot ∧ isDots spot.2 = false ∧
      fs.isDirectory spot.1 = true ∧ after = fs.removeName spot.1 spot.2 := by
  unfold removeDirectory at h
  obtain ⟨spot, hspot, h⟩ := exists_of_bind_ok h
  obtain ⟨-, -, hholder, -⟩ := spot_eq_ok_iff.1 hspot
  obtain ⟨hone, h⟩ := of_unless_ok h
  obtain ⟨htwo, h⟩ := of_unless_ok h
  split at h
  · cases h
  · obtain ⟨-, h⟩ := of_unless_ok h
    obtain ⟨-, h⟩ := of_unless_ok h
    cases h
    exact ⟨spot, hspot, isDots_eq_false_iff.2 ⟨hone, htwo⟩, hholder, rfl⟩

/-! ### Removing a directory -/

/-- Some names are gone in a directory and in those below it. Nothing else has changed. -/
structure Loses (fs : FileSystem) (top : NodeId) (after : FileSystem) : Prop
    extends Shrinks fs after where
  outside : ∀ id, fs.isInside top fs.nodes.size id = false → after.node id = fs.node id

/-- A directory has been removed that a path leads to, or some of what is in it, or a link. -/
inductive Removal (fs : FileSystem) (here : NodeId) (path : String) : FileSystem → Prop where
  | nothing : Removal fs here path fs
  | link {after : FileSystem} (h : fs.unlink here path = .ok after) : Removal fs here path after
  | within {after : FileSystem} {id : NodeId} (hid : fs.find here path false = .ok id)
    (hdirectory : fs.isDirectory id = true) (h : fs.Loses id after) : Removal fs here path after
  | whole {left after : FileSystem} {id : NodeId} (hid : fs.find here path false = .ok id)
    (hdirectory : fs.isDirectory id = true) (h : fs.Loses id left)
    (hremove : left.removeDirectory here path = .ok after) : Removal fs here path after

/-- Emptying a directory takes the names out of it and of those below it. -/
theorem node_emptied (fs : FileSystem) (top id : NodeId) :
    (fs.emptied top).node id = fs.node id ∨
      ∃ parent entries, fs.content id = .directory parent entries ∧
        fs.isInside top fs.nodes.size id = true ∧
        (fs.emptied top).node id = ⟨.directory parent [], (fs.node id).mode⟩ := by
  unfold emptied content FileSystem.node
  simp only [Array.getD_eq_getD_getElem?, Array.getElem?_mapIdx]
  cases fs.nodes[id]? with
  | none => exact .inl rfl
  | some node =>
    simp only [Option.map_some, Option.getD_some]
    split
    · rename_i parent entries hcontent
      split
      · rename_i hinside
        exact .inr ⟨parent, entries, hcontent, hinside, rfl⟩
      · exact .inl rfl
    · exact .inl rfl

theorem loses_emptied (fs : FileSystem) (top : NodeId) : fs.Loses top (fs.emptied top) where
  size := Array.size_mapIdx
  frame id := by
    obtain hsame | ⟨parent, entries, hcontent, -, hnode⟩ := node_emptied fs top id
    · exact frame?_eq_of_node hsame
    · rw [frame?, frame?, hcontent, content, hnode]
  plain id hid := by
    obtain hsame | ⟨parent, entries, hcontent, -, -⟩ := node_emptied fs top id
    · exact hsame
    · rw [frame?, hcontent] at hid
      cases hid
  named spot id hid := by
    obtain hsame | ⟨parent, entries, -, -, hnode⟩ := node_emptied fs top spot.1
    · rw [named, ← entries_eq_of_node hsame]
      exact hid
    · rw [named, FileSystem.entries, content, hnode] at hid
      cases hid
  outside id hid := by
    obtain hsame | ⟨_, _, -, hinside, -⟩ := node_emptied fs top id
    · exact hsame
    · cases hid.symm.trans hinside

/-- What is left once a directory has been removed, or as much of it as could be. -/
theorem removal_removeTree (fs : FileSystem) (here : NodeId) (path : String) :
    fs.Removal here path (fs.removeTree here path).2 := by
  unfold removeTree
  split
  · exact .nothing
  · rename_i id hid
    split
    · rename_i hcontent
      have hdirectory : fs.isDirectory id = true := by
        rw [isDirectory, hcontent]
      dsimp only
      split
      · rename_i after hremove
        exact .whole hid hdirectory (loses_emptied fs id) hremove
      · exact .within hid hdirectory (loses_emptied fs id)
    · split
      · rename_i after hunlink
        exact .link hunlink
      · exact .nothing
    · exact .nothing

/-- A path can lead to nothing else than a directory, and its last name can stand nowhere else than
where that has its name. -/
structure Stands (fs : FileSystem) (here : NodeId) (path : String) (own : Spot) (id : NodeId) :
    Prop where
  leads : ∀ other, fs.Leads here path other → other = id
  spot : ∀ found, fs.spot here path = .ok found → isDots found.2 = false → found = own
  isDirectory : ∀ other, fs.named own = some other → fs.isDirectory other = true

/-- A path ends in the name of a directory, after which there may be full stops. -/
theorem Leads.stands {longer : String} {dots : List String} (h : fs.Leads here path directory)
    (hstart : start here longer = start here path)
    (hpieces : pieces longer = pieces path ++ name :: dots) (hdots : ∀ dot ∈ dots, dot = ".")
    (hname : isDots name = false) (hid : fs.named (directory, name) = some id)
    (hdirectory : fs.isDirectory id = true) : fs.Stands here longer (directory, name) id where
  leads other hother :=
    hother.unique (h.down_stays hstart hpieces hdots hname hid hdirectory)
  spot found hfound hplain := by
    rcases List.eq_nil_or_concat' dots with rfl | ⟨before, last, rfl⟩
    · exact h.spot_eq ⟨hstart, hpieces, hname⟩ hfound
    · -- The last name would be a full stop.
      obtain ⟨-, -, -, hlast⟩ := spot_eq_ok_iff.1 hfound
      rw [hpieces, ← List.cons_append, ← List.append_assoc, List.getLast?_concat, Option.getD_some,
        hdots last (List.mem_append_right _ List.mem_cons_self)] at hlast
      rw [← hlast] at hplain
      cases hplain
  isDirectory other hother := by
    cases hid.symm.trans hother
    exact hdirectory

theorem Stands.shrinks (h : fs.Stands here path spot id) (hshrinks : fs.Shrinks after) :
    after.Stands here path spot id where
  leads other hother := h.leads other (hshrinks.leads hother)
  spot found hfound := h.spot found (hshrinks.spot_eq hfound)
  isDirectory other hother :=
    (hshrinks.isDirectory_eq other).trans (h.isDirectory other (hshrinks.named _ _ hother))

/-- Names are gone in a directory and in those below it, and its own name can be gone. Nothing else
has changed. -/
structure Clears (fs : FileSystem) (spot : Spot) (top : NodeId) (after : FileSystem) : Prop
    extends Shrinks fs after where
  outside : ∀ id ≠ spot.1, fs.isInside top fs.nodes.size id = false → after.node id = fs.node id
  others : fs.isInside top fs.nodes.size spot.1 = false →
    ∀ name ≠ spot.2, after.named (spot.1, name) = fs.named (spot.1, name)

theorem Clears.refl (fs : FileSystem) (spot : Spot) (top : NodeId) : fs.Clears spot top fs :=
  ⟨.refl fs, fun _ _ _ ↦ rfl, fun _ _ _ ↦ rfl⟩

theorem Loses.clears (h : fs.Loses top after) : fs.Clears spot top after :=
  ⟨h.toShrinks, fun id _ ↦ h.outside id, fun hholder name _ ↦
    congrArg (List.lookup name) (entries_eq_of_node (h.outside _ hholder))⟩

/-- Whatever removing a directory leaves, nothing is gone that is not below the directory. -/
theorem Removal.clears (h : fs.Removal here path after) (hstands : fs.Stands here path spot id) :
    fs.Clears spot id after := by
  have hfound {found : NodeId} (hfind : fs.find here path false = .ok found)
      (hdirectory : fs.isDirectory found = true) : found = id := by
    refine hstands.leads found (leads_of_find (find_follow hfind fun target ↦ ?_))
    rw [content_of_isDirectory hdirectory]
    exact nofun
  cases h with
  | nothing => exact .refl fs spot id
  | link hunlink =>
    obtain ⟨found, other, hfound, hdots, hother, hplain, -⟩ := removeName_of_unlink hunlink
    obtain rfl := hstands.spot found hfound hdots
    cases hplain.symm.trans (hstands.isDirectory other hother)
  | within hfind hdirectory hloses =>
    obtain rfl := hfound hfind hdirectory
    exact hloses.clears
  | @whole left _ _ hfind hdirectory hloses hremove =>
    obtain rfl := hfound hfind hdirectory
    obtain ⟨found, hspot, hdots, hholder, rfl⟩ := removeName_of_removeDirectory hremove
    obtain rfl := hstands.spot found (hloses.spot_eq hspot) hdots
    have hcleared : fs.Clears found _ left := hloses.clears
    refine ⟨hloses.trans (shrinks_removeName hholder), fun id hne hid ↦ ?_,
      fun hinside name hne ↦ ?_⟩
    · rw [removeName_eq hholder, setEntries, node_setNode_of_ne hne]
      exact hcleared.outside id hne hid
    · rw [named_removeName hholder, if_neg fun heq ↦ hne (Prod.mk.inj heq).2]
      exact hcleared.others hinside name hne

/-! ### What stays -/

section Replacing

variable {mid : FileSystem} {kept names : Set String} {lost more : Set NodeId}

/-- What was there is as it was, but for the names in a directory that are not kept and for some
directories that are lost. -/
structure Spares (fs : FileSystem) (directory : NodeId) (kept : Set String) (lost : Set NodeId)
    (after : FileSystem) : Prop where
  size : fs.nodes.size ≤ after.nodes.size
  frame : ∀ id < fs.nodes.size, after.frame? id = fs.frame? id
  node : ∀ id < fs.nodes.size, id ≠ directory → id ∉ lost → after.node id = fs.node id
  named : ∀ name ∈ kept, after.named (directory, name) = fs.named (directory, name)

namespace Spares

theorem refl (fs : FileSystem) (directory : NodeId) (kept : Set String) (lost : Set NodeId) :
    fs.Spares directory kept lost fs :=
  ⟨Nat.le_refl _, fun _ _ ↦ rfl, fun _ _ _ _ ↦ rfl, fun _ _ ↦ rfl⟩

variable (h : fs.Spares directory kept lost mid)
include h

theorem trans (hlater : mid.Spares directory names more after) (hnames : kept ⊆ names)
    (hmore : ∀ id < fs.nodes.size, id ∈ more → id ∈ lost) :
    fs.Spares directory kept lost after where
  size := h.size.trans hlater.size
  frame id hid := (hlater.frame id (Nat.lt_of_lt_of_le hid h.size)).trans (h.frame id hid)
  node id hid hne hnot :=
    (hlater.node id (Nat.lt_of_lt_of_le hid h.size) hne fun hin ↦ hnot (hmore id hid hin)).trans
      (h.node id hid hne hnot)
  named name hname := (hlater.named name (hnames hname)).trans (h.named name hname)

theorem mono (hnames : names ⊆ kept) (hlost : lost ⊆ more) :
    fs.Spares directory names more mid where
  size := h.size
  frame := h.frame
  node id hid hne hnot := h.node id hid hne fun hin ↦ hnot (hlost hin)
  named name hname := h.named name (hnames hname)

end Spares

theorem Fills.spares (h : fs.Fills directory after) :
    fs.Spares directory {name | fs.named (directory, name) ≠ none} ∅ after where
  size := h.size
  frame _ hid := h.frame?_eq hid
  node id hid hne _ := h.node id hid hne
  named name hname := by
    obtain ⟨id, hid⟩ := Option.ne_none_iff_exists'.1 hname
    rw [h.named name id hid, hid]

/-- Whatever is left of a directory that is removed, only its own name and what is in it can be
gone. -/
theorem Clears.spares (h : fs.Clears spot top after)
    (hholder : fs.isInside top fs.nodes.size spot.1 = false) :
    fs.Spares spot.1 {name | name ≠ spot.2} {id | fs.isInside top fs.nodes.size id = true}
      after where
  size := h.size.ge
  frame id _ := h.frame id
  node id _ hne hnot := h.outside id hne (Bool.eq_false_iff.2 hnot)
  named name hname := h.others hholder name hname

/-! ### Moving a directory -/

theorem setContent_content (fs : FileSystem) (id : NodeId) :
    fs.setContent id (fs.content id) = fs := by
  unfold setContent
  change FileSystem.mk (fs.nodes.setIfInBounds id (fs.node id)) = fs
  congr 1
  refine Array.ext (Array.size_setIfInBounds) fun i hi _ ↦ ?_
  rw [Array.getElem_setIfInBounds]
  split
  · rename_i heq
    subst heq
    rw [node, Array.getD_eq_getD_getElem?, Array.getElem?_eq_getElem, Option.getD_some]
  · rfl

/-- A node has another name in the directory that it is in. Nothing else has changed. -/
structure Renames (fs : FileSystem) (directory : NodeId) (first last : String) (id : NodeId)
    (after : FileSystem) : Prop where
  size : after.nodes.size = fs.nodes.size
  frame : ∀ other, after.frame? other = fs.frame? other
  node : ∀ other ≠ directory, after.node other = fs.node other
  named_last : after.named (directory, last) = some id
  named_first : last ≠ first → after.named (directory, first) = none
  named : ∀ name, name ≠ first → name ≠ last →
    after.named (directory, name) = fs.named (directory, name)

/-- A directory that is moved within the directory that it is in is the same afterwards. -/
theorem renames_moveName {first last : String} {mode : Nat}
    (hid : fs.frame? id = some (directory, mode)) (hdirectory : fs.isDirectory directory = true) :
    fs.Renames directory first last id (fs.moveName id (directory, first) (directory, last)) := by
  have hremoved : (fs.removeName directory first).isDirectory directory = true := by
    rw [← isSome_frame?, frame?_removeName hdirectory, isSome_frame?, hdirectory]
  have hframe (other : NodeId) :
      ((fs.removeName directory first).setName directory last id).frame? other = fs.frame? other :=
    (frame?_setName hremoved).trans (frame?_removeName hdirectory)
  have hmoved : fs.moveName id (directory, first) (directory, last) =
      (fs.removeName directory first).setName directory last id := by
    obtain ⟨entries, hcontent, -⟩ := frame?_eq_some_iff.1 ((hframe id).trans hid)
    rw [moveName, hcontent]
    dsimp only
    rw [← hcontent, setContent_content]
  rw [hmoved]
  refine ⟨?_, hframe, fun other hother ↦ ?_, ?_, fun hne ↦ ?_, fun name hfirst hlast ↦ ?_⟩
  · rw [setName_eq hremoved, removeName_eq hdirectory, setEntries, setEntries, size_setNode,
      size_setNode]
  · rw [setName_eq hremoved, removeName_eq hdirectory, setEntries, setEntries,
      node_setNode_of_ne hother, node_setNode_of_ne hother]
  · exact (named_setName hremoved).trans (if_pos rfl)
  · rw [named_setName hremoved, if_neg fun heq ↦ hne (Prod.mk.inj heq).2.symm,
      named_removeName hdirectory, if_pos rfl]
  · rw [named_setName hremoved, if_neg fun heq ↦ hlast (Prod.mk.inj heq).2,
      named_removeName hdirectory, if_neg fun heq ↦ hfirst (Prod.mk.inj heq).2]

theorem Renames.spares {first last : String} (h : fs.Renames directory first last id after) :
    fs.Spares directory {name | name ≠ first ∧ name ≠ last} ∅ after where
  size := h.size.ge
  frame other _ := h.frame other
  node other _ hne _ := h.node other hne
  named name hname := h.named name hname.1 hname.2

end Replacing

end Runbook.Sandbox.FileSystem
