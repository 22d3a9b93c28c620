import Runbook.Proofs.Sandbox.Paths
/-!
# Temporary files

A temporary file stands at a spot that was free (`Aside`). As long as it stands there, nothing else
shows that it is there, whatever is written to it and whatever permission bits it gets, and all
paths that lead to directories lead where they did before. Removing it leaves nothing behind
(`Aside.unlink`), and moving it to a path puts it, as it is, at the spot of that path
(`Aside.rename`).
-/

set_option autoImplicit false

namespace Runbook.Sandbox.FileSystem

/-- A file system in which a temporary file may stand at a spot that was free before, but for which
nothing has changed. -/
structure Aside (before : FileSystem) (here : NodeId) (temp : String) (spot : Spot)
    (fs : FileSystem) : Prop where
  at_spot : before.spot here temp = .ok spot
  name : isDots spot.2 = false
  slash : endsInSlash temp = false
  free : before.named spot = none
  agrees : before.AgreesOutside {spot} fs
  spare : fs.IsSpare spot

variable {before fs after : FileSystem} {here directory : NodeId} {temp target path name : String}
  {spot place : Spot} {node : Node} {bytes kept : Bytes} {mode : Nat}

theorem isSpare_of_named_none (h : fs.named spot = none) : fs.IsSpare spot :=
  fun _ hid ↦ nomatch h.symm.trans hid

/-- What it takes to move something that is no directory. -/
theorem moveName_of_rename {old new : Spot} (hold : fs.spot here temp = .ok old)
    (hnew : fs.spot here target = .ok new) (h : fs.rename here temp target = .ok after) :
    ∃ id, fs.named old = some id ∧ (fs.isDirectory id = false → fs.named new ≠ some id →
      after = fs.moveName id old new ∧
        ∀ other, fs.named new = some other → fs.isDirectory other = false) := by
  obtain ⟨_, _, id, hsource, htarget, -, -, hid, hmove⟩ := exists_move_of_rename h
  cases hold.symm.trans hsource
  cases hnew.symm.trans htarget
  refine ⟨id, hid, fun hplain hne ↦ ?_⟩
  obtain ⟨hafter, hreplaced⟩ := hmove hne
  refine ⟨hafter, fun other hother ↦ ?_⟩
  have hnone := hreplaced other hother
  rw [replaceError?, if_neg (Bool.eq_false_iff.1 hplain)] at hnone
  split at hnone
  · cases hnone
  · exact Bool.eq_false_iff.2 ‹_›

/-- A new file is made where nothing stands. -/
theorem addNamed_of_openNode {id : NodeId}
    (h : fs.openNode here path ⟨true, true, false, true⟩ mode = .ok (id, after))
    (hfree : ∀ spot, fs.spot here path = .ok spot →
      isDots spot.2 = false ∧ fs.named spot = none) :
    ∃ spot, fs.spot here path = .ok spot ∧ endsInSlash path = false ∧
      after = (fs.addNamed spot.1 spot.2 (.file []) mode).2 := by
  unfold openNode at h
  obtain ⟨found, hlocate, h⟩ := exists_of_bind_ok h
  cases found with
  | node id => cases h
  | free directory name =>
    obtain ⟨spot, hspot⟩ := exists_spot_of_free hlocate
    obtain ⟨hname, hnone⟩ := hfree spot hspot
    have hfound := locate_of_spot hspot hname (isSpare_of_named_none hnone).endsAt hlocate
    rw [hnone] at hfound
    cases hfound
    obtain ⟨-, h⟩ := of_unless_ok h
    obtain ⟨hslash, h⟩ := of_unless_ok h
    cases h
    exact ⟨spot, hspot, Bool.eq_false_iff.2 hslash, rfl⟩

/-- A new file at a free spot is a temporary file. -/
theorem aside_addNamed (hsound : before.Sound) (hspot : before.spot here temp = .ok spot)
    (hname : isDots spot.2 = false) (hslash : endsInSlash temp = false)
    (hfree : before.named spot = none) :
    before.Aside here temp spot (before.addNamed spot.1 spot.2 (.file bytes) mode).2 ∧
      (before.addNamed spot.1 spot.2 (.file bytes) mode).2.standing spot =
        some ⟨.file bytes, mode⟩ := by
  obtain ⟨-, -, hholder, -⟩ := spot_eq_ok_iff.1 hspot
  have hadds : before.Adds spot ⟨.file bytes, mode⟩
      (before.addNamed spot.1 spot.2 (.file bytes) mode).2 := adds_addNamed hholder
  obtain ⟨hagrees, hspare⟩ := hadds.agreesOutside hsound
  refine ⟨⟨hspot, hname, hslash, hfree, hagrees, hspare⟩, ?_⟩
  rw [standing_of_named hadds.named_new, hadds.node_new]

namespace Aside

section

variable (h : before.Aside here temp spot fs)
include h

theorem change (hagrees : fs.AgreesOutside {spot} after) (hspare : after.IsSpare spot) :
    before.Aside here temp spot after where
  at_spot := h.at_spot
  name := h.name
  slash := h.slash
  free := h.free
  agrees := h.agrees.trans hagrees
  spare := hspare

/-- The last name of a path stands where it stood before. -/
theorem spot_eq_iff : fs.spot here path = .ok place ↔ before.spot here path = .ok place := by
  have hdead {files : FileSystem} (hspare : files.IsSpare spot) :
      ∀ other ∈ ({spot} : Set Spot), files.IsDeadEnd other := by
    rintro other rfl
    exact hspare.endsAt.isDeadEnd
  exact ⟨h.agrees.symm.spot_eq (hdead h.spare),
    h.agrees.spot_eq (hdead (isSpare_of_named_none h.free))⟩

theorem locate_eq {id : NodeId} (hid : fs.named spot = some id) {found : Place}
    (hfound : fs.locate here temp true = .ok found) : found = .node id := by
  rw [locate_of_spot (h.spot_eq_iff.2 h.at_spot) h.name h.spare.endsAt hfound, hid]

theorem setNode {id : NodeId} (hid : fs.named spot = some id) (bytes : Bytes) (mode : Nat) :
    before.Aside here temp spot (fs.setNode id ⟨.file bytes, mode⟩) ∧
      (fs.setNode id ⟨.file bytes, mode⟩).named spot = some id ∧
      (fs.setNode id ⟨.file bytes, mode⟩).node id = ⟨.file bytes, mode⟩ := by
  obtain ⟨-, ⟨kept, hkept⟩, -⟩ := h.spare id hid
  obtain ⟨hagrees, hspare, hnamed, hnode⟩ :=
    @agreesOutside_setNode _ _ _ bytes _ mode h.spare hid hkept
  exact ⟨h.change hagrees hspare, hnamed, hnode⟩

/-- What is written to the temporary file is in it afterwards. -/
theorem writeFile (hstanding : fs.standing spot = some ⟨.file kept, mode⟩) {bits : Nat}
    (hwrite : fs.writeFile here temp bytes bits = .ok after) :
    before.Aside here temp spot after ∧ after.standing spot = some ⟨.file bytes, mode⟩ := by
  obtain ⟨id, hid, hnode⟩ := named_of_standing hstanding
  have hcontent : fs.content id = .file kept := congrArg Node.content hnode
  obtain ⟨hempty, hnamed, hcut⟩ := h.setNode hid [] mode
  obtain ⟨hdone, hdonenamed, hdonenode⟩ := hempty.setNode hnamed bytes mode
  have hafter : after = (fs.setNode id ⟨.file [], mode⟩).setNode id ⟨.file bytes, mode⟩ := by
    unfold FileSystem.writeFile openNode at hwrite
    cases hlocate : fs.locate here temp true with
    | error code =>
      rw [hlocate] at hwrite
      cases hwrite
    | ok found =>
      cases h.locate_eq hid hlocate
      have hplain : fs.isDirectory id = false := isDirectory_of_file hcontent
      have hcleared : (fs.setContent id (.file [])) = fs.setNode id ⟨.file [], mode⟩ := by
        rw [setContent, hnode]
        rfl
      simp only [hlocate, bind, Except.bind, Bool.and_false, Bool.false_eq_true, if_false,
        hplain, Bool.false_and, hcontent, pure, Except.pure, if_true, hcleared] at hwrite
      have hfile : (fs.setNode id ⟨.file [], mode⟩).content id = .file [] :=
        congrArg Node.content hcut
      rw [hfile] at hwrite
      cases hwrite
      rw [setContent, hcut]
      rfl
  rw [hafter]
  exact ⟨hdone, by rw [standing_of_named hdonenamed, hdonenode]⟩

/-- The temporary file has the permission bits that it is given. -/
theorem changeMode (hstanding : fs.standing spot = some ⟨.file kept, mode⟩) {bits : Nat}
    (hchange : fs.changeMode here temp bits = .ok after) :
    before.Aside here temp spot after ∧ after.standing spot = some ⟨.file kept, bits⟩ := by
  obtain ⟨id, hid, hnode⟩ := named_of_standing hstanding
  obtain ⟨hdone, hnamed, hdonenode⟩ := h.setNode hid kept bits
  have hafter : after = fs.setNode id ⟨.file kept, bits⟩ := by
    unfold FileSystem.changeMode at hchange
    obtain ⟨found, hfind, hchange⟩ := exists_of_bind_ok hchange
    cases h.locate_eq hid (find_eq_ok_iff.1 hfind)
    cases hchange
    rw [setMode, hnode]
    rfl
  rw [hafter]
  exact ⟨hdone, by rw [standing_of_named hnamed, hdonenode]⟩

/-- What is read from the path of the temporary file is what the file holds. -/
theorem readFile (hread : fs.readFile here temp = .ok bytes) :
    ∃ mode, fs.standing spot = some ⟨.file bytes, mode⟩ := by
  unfold FileSystem.readFile at hread
  obtain ⟨found, hfind, hread⟩ := exists_of_bind_ok hread
  have hlocate := find_eq_ok_iff.1 hfind
  have hplace := locate_of_spot (h.spot_eq_iff.2 h.at_spot) h.name h.spare.endsAt hlocate
  cases hid : fs.named spot with
  | none =>
    rw [hid] at hplace
    cases hplace
  | some id =>
    rw [hid] at hplace
    obtain rfl : found = id := Place.node.inj hplace
    obtain ⟨-, ⟨kept, hkept⟩, -⟩ := h.spare found hid
    rw [hkept] at hread
    cases hread
    exact ⟨(fs.node found).mode, by rw [standing_of_named hid, ← hkept]; rfl⟩

/-- Once the temporary file is removed, all is as before. -/
theorem unlink : before.AgreesOutside ∅ ((fs.unlink here temp).toOption.getD fs) := by
  have hspot : fs.spot here temp = .ok spot := h.spot_eq_iff.2 h.at_spot
  obtain ⟨-, -, hholder, -⟩ := spot_eq_ok_iff.1 hspot
  cases hid : fs.named spot with
  | none =>
    have hunlink : fs.unlink here temp = .error Errno.noEntry := by
      change (fs.entries spot.1).lookup spot.2 = none at hid
      simp only [FileSystem.unlink, hspot, bind, Except.bind, h.name, Bool.false_eq_true, if_false,
        hid]
    rw [hunlink]
    exact h.agrees.shrink h.free hid
  | some id =>
    obtain ⟨-, ⟨kept, hkept⟩, -⟩ := h.spare id hid
    have hunlink : fs.unlink here temp = .ok (fs.removeName spot.1 spot.2) := by
      change (fs.entries spot.1).lookup spot.2 = some id at hid
      simp only [FileSystem.unlink, hspot, bind, Except.bind, h.name, Bool.false_eq_true, if_false,
        hid, isDirectory_of_file hkept, h.slash, pure, Except.pure]
    rw [hunlink]
    have hremoved : (fs.removeName spot.1 spot.2).named spot = none :=
      (named_removeName hholder).trans (if_pos rfl)
    refine (h.agrees.trans ⟨fun id ↦ frame?_removeName hholder, fun other hother ↦ ?_,
      fun other _ id _ hframe ↦ node_removeName hholder hframe⟩).shrink h.free hremoved
    exact (named_removeName hholder).trans (if_neg hother)

/-- A file that is moved from the spot where it stood aside to another spot: what stands there now
is the file, and all else is as before. -/
theorem moveName {id : NodeId} (hid : fs.named spot = some id)
    (hholder : fs.isDirectory place.1 = true) (hne : place ≠ spot) :
    before.AgreesOutside {place} (fs.moveName id spot place) ∧
      (fs.moveName id spot place).standing place = some (fs.node id) := by
  obtain ⟨-, ⟨kept, hkept⟩, -⟩ := h.spare id hid
  have hframe : fs.frame? id = none := frame?_eq_none_iff.2 (isDirectory_of_file hkept)
  have hsource : fs.isDirectory spot.1 = true := isDirectory_of_named hid
  have hremoved : (fs.removeName spot.1 spot.2).isDirectory place.1 = true := by
    rw [← isSome_frame?, frame?_removeName hsource, isSome_frame?, hholder]
  have hframes (other : NodeId) :
      ((fs.removeName spot.1 spot.2).setName place.1 place.2 id).frame? other = fs.frame? other :=
    (frame?_setName hremoved).trans (frame?_removeName hsource)
  have hnodes {other : NodeId} (hother : fs.frame? other = none) :
      ((fs.removeName spot.1 spot.2).setName place.1 place.2 id).node other = fs.node other :=
    (node_setName hremoved ((frame?_removeName hsource).trans hother)).trans
      (node_removeName hsource hother)
  have hmoved : fs.moveName id spot place =
      (fs.removeName spot.1 spot.2).setName place.1 place.2 id := by
    have hcontent : ((fs.removeName spot.1 spot.2).setName place.1 place.2 id).content id =
        .file kept := by rw [content, hnodes hframe]; exact hkept
    rw [FileSystem.moveName, hcontent]
  rw [hmoved]
  refine ⟨⟨fun other ↦ (hframes other).trans (h.agrees.frame other), fun other hother ↦ ?_,
    fun other hother found hfound hplain ↦ ?_⟩, ?_⟩
  · refine (named_setName hremoved).trans ((if_neg hother).trans ?_)
    rw [named_removeName hsource]
    split
    · rename_i hspot
      exact hspot ▸ h.free.symm
    · rename_i hspot
      exact h.agrees.named other hspot
  · have hspot : other ∉ ({spot} : Set Spot) := by
      rintro rfl
      cases h.free.symm.trans hfound
    exact (hnodes ((h.agrees.frame found).trans hplain)).trans
      (h.agrees.node other hspot found hfound hplain)
  · rw [standing_of_named ((named_setName hremoved).trans (if_pos rfl)), hnodes hframe]

/-- Moving the temporary file to a path puts it at the spot of that path. Assumes: that is not the
spot of the temporary file. -/
theorem rename (hclear : before.spot here target ≠ .ok spot)
    (hrename : fs.rename here temp target = .ok after) :
    ∃ place, before.spot here target = .ok place ∧ before.AgreesOutside {place} after ∧
      after.standing place = fs.standing spot ∧
      (¬before.LinksToDirectory place → after.spot here target = .ok place) := by
  have hspot : fs.spot here temp = .ok spot := h.spot_eq_iff.2 h.at_spot
  unfold FileSystem.rename at hrename
  cases htarget : fs.spot here target with
  | error code =>
    rw [hspot, htarget] at hrename
    cases hrename
  | ok place =>
    have hbefore : before.spot here target = .ok place := h.spot_eq_iff.1 htarget
    have hne : place ≠ spot := fun heq ↦ hclear (heq ▸ hbefore)
    obtain ⟨-, -, hholder, -⟩ := spot_eq_ok_iff.1 htarget
    have hnamed : before.named place = fs.named place := (h.agrees.named place hne).symm
    obtain ⟨id, hid, hmove⟩ := moveName_of_rename hspot htarget hrename
    obtain ⟨-, ⟨kept, hkept⟩, halone⟩ := h.spare id hid
    obtain ⟨rfl, hplain⟩ := hmove (isDirectory_of_file hkept) fun hother ↦ hne (halone place hother)
    obtain ⟨hagrees, hmoved⟩ := h.moveName hid hholder hne
    refine ⟨place, hbefore, hagrees, by rw [hmoved, standing_of_named hid], fun hlink ↦ ?_⟩
    refine hagrees.spot_eq ?_ hbefore
    rintro other rfl
    refine ⟨fun id hother ↦ ?_, hlink⟩
    rw [← h.agrees.isDirectory]
    exact hplain id (hnamed ▸ hother)

end

end Aside

end Runbook.Sandbox.FileSystem
