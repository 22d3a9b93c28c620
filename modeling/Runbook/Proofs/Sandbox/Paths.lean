import Mathlib.Data.List.Basic
import Mathlib.Data.List.Infix
import Runbook.Proofs.Results
import Runbook.Proofs.Sandbox.Agreement
/-!
# Where paths lead

`Reaches` is the relation that `walk` computes when it follows all links (`walk_eq_ok_iff`): one
rule for each way to take a step. The steps are told apart in one place, for all walks
(`walkStep_of_walk`). What changes in a file system is carried over to paths by induction on
`Reaches`. A path that leads to a directory leads there as well when something is changed
where neither a directory nor a link to one stood (`AgreesOutside.reaches`), and whatever a path
leads to it leads to after directories have been made (`GrowsTo.reaches`).

The last name of a path stands at a spot (`spot`), and the path leads to what stands there, unless
that is a link (`locate_of_spot`). A path that leads down below a directory which has just been made
leads nowhere (`Adds.find_ne_ok`).

To make a directory and those above it, as far as they are missing, is to make directories one after
the other, each of which the path leads through (`Makes`). A file system grows by that
(`Makes.growsTo`).

A path that led nowhere can lead somewhere afterwards, when it goes down through a directory that
was missing and up again. A path that only goes down from a directory that was there (`LeadsDown`)
leads to the same as before or nowhere, also when directories on the way to it have been made
(`Makes.find_eq`).
-/

set_option autoImplicit false

namespace Runbook.Sandbox.FileSystem

variable {fs after : FileSystem} {here id directory parent : NodeId} {path name : String}
  {names more : List String} {fuel links mode : Nat} {spot : Spot} {spots : Set Spot}
  {place : Place}

/-- A way along some names leads to a place, within bounds on the names and the links. -/
inductive Reaches (fs : FileSystem) : Nat → Nat → NodeId → List String → Place → Prop where
  | here {fuel links : Nat} {here : NodeId} : Reaches fs (fuel + 1) links here [] (.node here)
  | stay {fuel links : Nat} {here : NodeId} {name : String} {names : List String} {place : Place}
    (hname : name = ".") (hhere : fs.isDirectory here = true)
    (h : Reaches fs fuel links here names place) :
    Reaches fs (fuel + 1) links here (name :: names) place
  | up {fuel links mode : Nat} {here parent : NodeId} {name : String} {names : List String}
    {place : Place} (hname : name = "..") (hhere : fs.frame? here = some (parent, mode))
    (h : Reaches fs fuel links parent names place) :
    Reaches fs (fuel + 1) links here (name :: names) place
  | free {fuel links : Nat} {here : NodeId} {name : String} {names : List String}
    (hname : isDots name = false) (hhere : fs.isDirectory here = true)
    (hfree : fs.named (here, name) = none) (hlast : names = []) :
    Reaches fs (fuel + 1) links here (name :: names) (.free here name)
  | link {fuel links : Nat} {here id : NodeId} {name target : String} {names : List String}
    {place : Place} (hname : isDots name = false) (hid : fs.named (here, name) = some id)
    (hlink : fs.content id = .link target)
    (h : Reaches fs fuel links (start here target) (pieces target ++ names) place) :
    Reaches fs (fuel + 1) (links + 1) here (name :: names) place
  | down {fuel links : Nat} {here id : NodeId} {name : String} {names : List String} {place : Place}
    (hname : isDots name = false) (hid : fs.named (here, name) = some id)
    (hplain : ∀ target, fs.content id ≠ .link target)
    (h : Reaches fs fuel links id names place) :
    Reaches fs (fuel + 1) links here (name :: names) place

theorem isDots_eq_false_iff : isDots name = false ↔ name ≠ "." ∧ name ≠ ".." := by
  simp [isDots]

/-- The first step of a walk that comes to a place: what is done with the first name, and how the
walk goes on. -/
inductive WalkStep (fs : FileSystem) (follow : Bool) :
    Nat → Nat → NodeId → List String → Place → Prop where
  | here {fuel links : Nat} {here : NodeId} :
    WalkStep fs follow (fuel + 1) links here [] (.node here)
  | stay {fuel links : Nat} {here : NodeId} {name : String} {names : List String} {place : Place}
    (hname : name = ".") (hhere : fs.isDirectory here = true)
    (h : fs.walk follow fuel links here names = .ok place) :
    WalkStep fs follow (fuel + 1) links here (name :: names) place
  | up {fuel links mode : Nat} {here parent : NodeId} {name : String} {names : List String}
    {place : Place} (hname : name = "..") (hhere : fs.frame? here = some (parent, mode))
    (h : fs.walk follow fuel links parent names = .ok place) :
    WalkStep fs follow (fuel + 1) links here (name :: names) place
  | free {fuel links : Nat} {here : NodeId} {name : String} {names : List String}
    (hname : isDots name = false) (hhere : fs.isDirectory here = true)
    (hfree : fs.named (here, name) = none) (hlast : names = []) :
    WalkStep fs follow (fuel + 1) links here (name :: names) (.free here name)
  | link {fuel links : Nat} {here id : NodeId} {name target : String} {names : List String}
    {place : Place} (hname : isDots name = false) (hid : fs.named (here, name) = some id)
    (hlink : fs.content id = .link target) (hnames : follow = false → names ≠ [])
    (h : fs.walk follow fuel links (start here target) (pieces target ++ names) = .ok place) :
    WalkStep fs follow (fuel + 1) (links + 1) here (name :: names) place
  /-- The link at the end is not followed. -/
  | last {fuel links : Nat} {here id : NodeId} {name target : String} (hname : isDots name = false)
    (hid : fs.named (here, name) = some id) (hlink : fs.content id = .link target)
    (hfollow : follow = false) : WalkStep fs follow (fuel + 1) links here [name] (.node id)
  | down {fuel links : Nat} {here id : NodeId} {name : String} {names : List String} {place : Place}
    (hname : isDots name = false) (hid : fs.named (here, name) = some id)
    (hplain : ∀ target, fs.content id ≠ .link target)
    (h : fs.walk follow fuel links id names = .ok place) :
    WalkStep fs follow (fuel + 1) links here (name :: names) place

theorem walkStep_of_walk {follow : Bool} (h : fs.walk follow fuel links here names = .ok place) :
    fs.WalkStep follow fuel links here names place := by
  cases fuel with
  | zero => cases h
  | succ fuel =>
    cases names with
    | nil =>
      cases h
      exact .here
    | cons name names =>
      rw [walk] at h
      split at h
      · rename_i parent entries hcontent
        have hhere : fs.isDirectory here = true := by rw [isDirectory, hcontent]
        have hnamed : entries.lookup name = fs.named (here, name) := by
          rw [named, FileSystem.entries, hcontent]
        split at h
        · exact .stay ‹_› hhere h
        · split at h
          · exact .up ‹_› (frame?_eq_some_iff.2 ⟨entries, hcontent, rfl⟩) h
          · have hname : isDots name = false := isDots_eq_false_iff.2 ⟨‹_›, ‹_›⟩
            rw [hnamed] at h
            split at h
            · split at h
              · rename_i hfree hlast
                cases h
                exact .free hname hhere hfree hlast
              · cases h
            · rename_i id hid
              split at h
              · rename_i target hlink
                split at h
                · rename_i hlast
                  rw [Bool.and_eq_true, decide_eq_true_iff, Bool.not_eq_true'] at hlast
                  obtain ⟨rfl, hfollow⟩ := hlast
                  cases h
                  exact .last hname hid hlink hfollow
                · rename_i hgoes
                  obtain ⟨hlinks, h⟩ := of_unless_ok h
                  obtain ⟨left, rfl⟩ := Nat.exists_eq_succ_of_ne_zero hlinks
                  refine .link hname hid hlink (fun hfollow hnames ↦ hgoes ?_) h
                  rw [hnames, hfollow]
                  rfl
              · exact .down hname hid ‹_› h
      · cases h

theorem Reaches.of_walk (h : fs.walk true fuel links here names = .ok place) :
    fs.Reaches fuel links here names place := by
  induction fuel generalizing links here names with
  | zero => cases h
  | succ fuel ih =>
    cases walkStep_of_walk h with
    | here => exact .here
    | stay hname hhere h => exact .stay hname hhere (ih h)
    | up hname hhere h => exact .up hname hhere (ih h)
    | free hname hhere hfree hlast => exact .free hname hhere hfree hlast
    | link hname hid hlink _ h => exact .link hname hid hlink (ih h)
    | last _ _ _ hfollow => cases hfollow
    | down hname hid hplain h => exact .down hname hid hplain (ih h)

theorem content_of_isDirectory (h : fs.isDirectory id = true) :
    fs.content id = .directory (fs.parentOf id) (fs.entries id) := by
  unfold isDirectory at h
  unfold parentOf entries
  split at h
  · rename_i hcontent
    rw [hcontent]
  · cases h

theorem walk_of_reaches (h : fs.Reaches fuel links here names place) :
    fs.walk true fuel links here names = .ok place := by
  induction h with
  | here => rfl
  | stay hname hhere h ih => simp only [walk, content_of_isDirectory hhere, if_pos hname, ih]
  | up hname hhere h ih =>
    obtain ⟨entries, hcontent, -⟩ := frame?_eq_some_iff.1 hhere
    subst hname
    simp only [walk, hcontent, String.reduceEq, if_false, if_true, ih]
  | @free fuel links here name names hname hhere hfree hlast =>
    obtain ⟨hone, htwo⟩ := isDots_eq_false_iff.1 hname
    change (fs.entries here).lookup name = none at hfree
    simp only [walk, content_of_isDirectory hhere, if_neg hone, if_neg htwo, hfree, if_pos hlast]
  | @link fuel links here id name target names place hname hid hlink h ih =>
    obtain ⟨hone, htwo⟩ := isDots_eq_false_iff.1 hname
    have hhere : fs.isDirectory here = true := isDirectory_of_named hid
    change (fs.entries here).lookup name = some id at hid
    simp only [walk, content_of_isDirectory hhere, if_neg hone, if_neg htwo, hid, hlink,
      Bool.not_true, Bool.and_false, Bool.false_eq_true, if_false, Nat.add_one_ne_zero,
      Nat.add_sub_cancel, ih]
  | @down fuel links here id name names place hname hid hplain h ih =>
    obtain ⟨hone, htwo⟩ := isDots_eq_false_iff.1 hname
    have hhere : fs.isDirectory here = true := isDirectory_of_named hid
    change (fs.entries here).lookup name = some id at hid
    simp only [walk, content_of_isDirectory hhere, if_neg hone, if_neg htwo, hid, ih]

theorem walk_eq_ok_iff :
    fs.walk true fuel links here names = .ok place ↔ fs.Reaches fuel links here names place :=
  ⟨Reaches.of_walk, walk_of_reaches⟩

/-- A way along names and further ones is a way along the first and one along the further ones,
unless it ends with the first. -/
theorem Reaches.split (h : fs.Reaches fuel links here (names ++ more) place) :
    (fs.Reaches fuel links here names place ∧ more = []) ∨
      ∃ between beyond left, fs.Reaches fuel links here names (.node between) ∧
        fs.Reaches beyond left between more place := by
  generalize hall : names ++ more = all at h
  induction h generalizing names with
  | here =>
    obtain ⟨rfl, rfl⟩ := List.append_eq_nil_iff.1 hall
    exact .inl ⟨.here, rfl⟩
  | stay hname hhere h ih =>
    rcases List.append_eq_cons_iff.1 hall with ⟨rfl, rfl⟩ | ⟨names, rfl, hrest⟩
    · exact .inr ⟨_, _, _, .here, .stay hname hhere h⟩
    · rcases ih hrest.symm with ⟨hend, hmore⟩ | ⟨between, beyond, left, hfirst, hnext⟩
      · exact .inl ⟨.stay hname hhere hend, hmore⟩
      · exact .inr ⟨between, beyond, left, .stay hname hhere hfirst, hnext⟩
  | up hname hhere h ih =>
    rcases List.append_eq_cons_iff.1 hall with ⟨rfl, rfl⟩ | ⟨names, rfl, hrest⟩
    · exact .inr ⟨_, _, _, .here, .up hname hhere h⟩
    · rcases ih hrest.symm with ⟨hend, hmore⟩ | ⟨between, beyond, left, hfirst, hnext⟩
      · exact .inl ⟨.up hname hhere hend, hmore⟩
      · exact .inr ⟨between, beyond, left, .up hname hhere hfirst, hnext⟩
  | @free fuel links here _ _ hname hhere hfree hlast =>
    rcases List.append_eq_cons_iff.1 hall with ⟨rfl, rfl⟩ | ⟨names, rfl, hrest⟩
    · exact .inr ⟨here, fuel + 1, links, .here, .free hname hhere hfree hlast⟩
    · obtain ⟨rfl, rfl⟩ := List.append_eq_nil_iff.1 (hrest.symm.trans hlast)
      exact .inl ⟨.free hname hhere hfree rfl, rfl⟩
  | link hname hid hlink h ih =>
    rcases List.append_eq_cons_iff.1 hall with ⟨rfl, rfl⟩ | ⟨names, rfl, rfl⟩
    · exact .inr ⟨_, _, _, .here, .link hname hid hlink h⟩
    · rcases ih (List.append_assoc _ _ _) with
        ⟨hend, hmore⟩ | ⟨between, beyond, left, hfirst, hnext⟩
      · exact .inl ⟨.link hname hid hlink hend, hmore⟩
      · exact .inr ⟨between, beyond, left, .link hname hid hlink hfirst, hnext⟩
  | down hname hid hplain h ih =>
    rcases List.append_eq_cons_iff.1 hall with ⟨rfl, rfl⟩ | ⟨names, rfl, hrest⟩
    · exact .inr ⟨_, _, _, .here, .down hname hid hplain h⟩
    · rcases ih hrest.symm with ⟨hend, hmore⟩ | ⟨between, beyond, left, hfirst, hnext⟩
      · exact .inl ⟨.down hname hid hplain hend, hmore⟩
      · exact .inr ⟨between, beyond, left, .down hname hid hplain hfirst, hnext⟩

theorem Reaches.unique {other : Place} (h : fs.Reaches fuel links here names place)
    (hother : fs.Reaches fuel links here names other) : place = other :=
  Except.ok.inj ((walk_of_reaches h).symm.trans (walk_of_reaches hother))

/-- A way that leads on from where its first names lead. -/
theorem Reaches.rest (h : fs.Reaches fuel links here names (.node directory))
    {further : Place} (hfurther : fs.Reaches fuel links here (names ++ more) further) :
    ∃ fuel links, fs.Reaches fuel links directory more further := by
  rcases hfurther.split with ⟨hend, rfl⟩ | ⟨between, beyond, left, hfirst, hnext⟩
  · cases h.unique hend
    exact ⟨1, 0, .here⟩
  · cases h.unique hfirst
    exact ⟨beyond, left, hnext⟩

/-! ### Ways that are kept -/

/-- There is no way on from something that is no directory. -/
theorem Reaches.of_plain (h : fs.Reaches fuel links here names place)
    (hhere : fs.isDirectory here = false) : place = .node here := by
  have hnot : ¬fs.isDirectory here = true := Bool.eq_false_iff.1 hhere
  cases h with
  | here => rfl
  | stay _ hdir => exact absurd hdir hnot
  | up _ hframe => exact absurd (isDirectory_of_frame? hframe) hnot
  | free _ hdir => exact absurd hdir hnot
  | link _ hid => exact absurd (isDirectory_of_named hid) hnot
  | down _ hid => exact absurd (isDirectory_of_named hid) hnot

/-- A node that is kept, as a directory or as it is, is the same link as before or none. -/
theorem content_eq_link_iff {target : String}
    (hframe : ∀ frame, fs.frame? id = some frame → after.frame? id = some frame)
    (hnode : fs.frame? id = none → after.node id = fs.node id) :
    after.content id = .link target ↔ fs.content id = .link target := by
  cases hid : fs.frame? id with
  | none => rw [content, hnode hid, content]
  | some frame =>
    have hafter : after.frame? id = some frame := hframe frame hid
    refine iff_of_false (fun hlink ↦ ?_) fun hlink ↦ ?_
    · rw [frame?, hlink] at hafter
      cases hafter
    · rw [frame?, hlink] at hid
      cases hid

/-- Neither a directory nor a link stands at a spot. -/
def EndsAt (fs : FileSystem) (spot : Spot) : Prop :=
  ∀ id, fs.named spot = some id →
    fs.isDirectory id = false ∧ ∀ target, fs.content id ≠ .link target

/-- A link to a directory stands at a spot. -/
def LinksToDirectory (fs : FileSystem) (spot : Spot) : Prop :=
  ∃ id text fuel links directory, fs.named spot = some id ∧ fs.content id = .link text ∧
    fs.Reaches fuel links (start spot.1 text) (pieces text) (.node directory) ∧
      fs.isDirectory directory = true

/-- Neither a directory nor a link to one stands at a spot. -/
def IsDeadEnd (fs : FileSystem) (spot : Spot) : Prop :=
  (∀ id, fs.named spot = some id → fs.isDirectory id = false) ∧ ¬fs.LinksToDirectory spot

theorem EndsAt.isDeadEnd (h : fs.EndsAt spot) : fs.IsDeadEnd spot := by
  refine ⟨fun id hid ↦ (h id hid).1, ?_⟩
  rintro ⟨id, text, -, -, -, hid, hlink, -⟩
  exact (h id hid).2 text hlink

theorem IsSpare.endsAt (h : fs.IsSpare spot) : fs.EndsAt spot := by
  intro id hid
  obtain ⟨-, ⟨bytes, hfile⟩, -⟩ := h id hid
  exact ⟨isDirectory_of_file hfile, fun target hlink ↦ nomatch hlink.symm.trans hfile⟩

/-- A dead end lies on no way to a directory. -/
theorem AgreesOutside.reaches (h : fs.AgreesOutside spots after)
    (hdead : ∀ spot ∈ spots, fs.IsDeadEnd spot) (hreaches : fs.Reaches fuel links here names place)
    (hplace : place = .node directory) (hdirectory : fs.isDirectory directory = true) :
    after.Reaches fuel links here names place := by
  have hlinks {spot : Spot} {id : NodeId} (hspot : spot ∉ spots) (hid : fs.named spot = some id)
      (target : String) : after.content id = .link target ↔ fs.content id = .link target :=
    content_eq_link_iff (fun frame hframe ↦ (h.frame id).trans hframe) (h.node spot hspot id hid)
  have hend {fuel links : Nat} {between : NodeId} {names : List String}
      (hrest : fs.Reaches fuel links between names (.node directory)) :
      fs.isDirectory between = true := by
    by_contra hbetween
    cases hrest.of_plain (Bool.eq_false_iff.2 hbetween)
    exact hbetween hdirectory
  induction hreaches with
  | here => exact .here
  | stay hname hhere _ ih => exact .stay hname ((h.isDirectory _).trans hhere) (ih hplace)
  | up hname hhere _ ih => exact .up hname ((h.frame _).trans hhere) (ih hplace)
  | free => cases hplace
  | @link fuel links here id name target names place hname hid hlink hrest ih =>
    have hspot : (here, name) ∉ spots := by
      -- The text of the link leads to the directory in which the way goes on, or ends.
      refine fun hin ↦ (hdead _ hin).2 ⟨id, target, fuel, links, ?_⟩
      subst hplace
      rcases hrest.split with ⟨hlast, -⟩ | ⟨between, beyond, left, hfirst, hnext⟩
      · exact ⟨directory, hid, hlink, hlast, hdirectory⟩
      · exact ⟨between, hid, hlink, hfirst, hend hnext⟩
    exact .link hname ((h.named _ hspot).trans hid) ((hlinks hspot hid _).2 hlink) (ih hplace)
  | @down fuel links here id name names place hname hid hplain hrest ih =>
    have hspot : (here, name) ∉ spots := by
      intro hin
      subst hplace
      cases (hend hrest).symm.trans ((hdead _ hin).1 id hid)
    exact .down hname ((h.named _ hspot).trans hid)
      (fun target ↦ mt (hlinks hspot hid target).1 (hplain target)) (ih hplace)

/-- A way to a node is kept where all directories, names and nodes are. -/
theorem Reaches.mono (hreaches : fs.Reaches fuel links here names place)
    (hframe : ∀ id frame, fs.frame? id = some frame → after.frame? id = some frame)
    (hnamed : ∀ spot id, fs.named spot = some id → after.named spot = some id)
    (hnode : ∀ spot id, fs.named spot = some id → fs.frame? id = none → after.node id = fs.node id)
    (hplace : place = .node id) : after.Reaches fuel links here names place := by
  have hdirectory {id : NodeId} (hid : fs.isDirectory id = true) : after.isDirectory id = true := by
    rw [← isSome_frame?] at hid
    obtain ⟨frame, hid⟩ := Option.isSome_iff_exists.1 hid
    exact isDirectory_of_frame? (hframe id frame hid)
  have hlinks {spot : Spot} {id : NodeId} (hid : fs.named spot = some id) (target : String) :
      after.content id = .link target ↔ fs.content id = .link target :=
    content_eq_link_iff (hframe id) (hnode spot id hid)
  induction hreaches with
  | here => exact .here
  | stay hname hhere _ ih => exact .stay hname (hdirectory hhere) (ih hplace)
  | up hname hhere _ ih => exact .up hname (hframe _ _ hhere) (ih hplace)
  | free => cases hplace
  | link hname hid hlink _ ih =>
    exact .link hname (hnamed _ _ hid) ((hlinks hid _).2 hlink) (ih hplace)
  | down hname hid hplain _ ih =>
    exact .down hname (hnamed _ _ hid) (fun target ↦ mt (hlinks hid target).1 (hplain target))
      (ih hplace)

theorem GrowsTo.reaches (h : fs.GrowsTo after) (hreaches : fs.Reaches fuel links here names place)
    (hplace : place = .node id) : after.Reaches fuel links here names place :=
  hreaches.mono h.frame h.named h.node hplace

/-! ### Spots and nodes of paths -/

theorem spot_eq_ok_iff : fs.spot here path = .ok spot ↔
    path ≠ "" ∧ fs.Reaches maxNames maxLinks (start here path) (pieces path).dropLast
      (.node spot.1) ∧ fs.isDirectory spot.1 = true ∧ (pieces path).getLast?.getD "." = spot.2 := by
  obtain ⟨directory, name⟩ := spot
  unfold FileSystem.spot
  split
  · exact iff_of_false nofun fun h ↦ h.1 ‹_›
  · rename_i hpath
    rw [← walk_eq_ok_iff]
    dsimp only
    cases hwalk : fs.walk true maxNames maxLinks (start here path) (pieces path).dropLast with
    | error code => exact iff_of_false nofun fun h ↦ nomatch h.2.1
    | ok place =>
      cases place with
      | free holder other => exact iff_of_false nofun fun h ↦ nomatch h.2.1
      | node id =>
        change (if fs.isDirectory id = true then Except.ok (id, _) else Except.error _) = _ ↔ _
        split
        · rename_i hid
          constructor
          · rintro ⟨⟩
            exact ⟨hpath, rfl, hid, rfl⟩
          · rintro ⟨-, ⟨⟩, -, rfl⟩
            rfl
        · rename_i hid
          refine iff_of_false nofun ?_
          rintro ⟨-, ⟨⟩, hdirectory, -⟩
          exact hid hdirectory

theorem AgreesOutside.spot_eq (h : fs.AgreesOutside spots after)
    (hdead : ∀ spot ∈ spots, fs.IsDeadEnd spot) (hspot : fs.spot here path = .ok spot) :
    after.spot here path = .ok spot := by
  obtain ⟨hpath, hreaches, hdirectory, hname⟩ := spot_eq_ok_iff.1 hspot
  exact spot_eq_ok_iff.2 ⟨hpath, h.reaches hdead hreaches rfl hdirectory,
    (h.isDirectory _).trans hdirectory, hname⟩

theorem reaches_of_locate (h : fs.locate here path true = .ok place) :
    path ≠ "" ∧ fs.Reaches maxNames maxLinks (start here path) (pieces path) place := by
  unfold locate at h
  split at h
  · cases h
  · rename_i hpath
    dsimp only [Bool.true_or] at h
    split at h
    · rename_i id hwalk
      split at h
      · cases h
      · cases h
        exact ⟨hpath, walk_eq_ok_iff.1 hwalk⟩
    · exact ⟨hpath, walk_eq_ok_iff.1 h⟩

/-- A path that leads to a free name has its last name in a directory. -/
theorem exists_spot_of_free (h : fs.locate here path true = .ok (.free directory name)) :
    ∃ spot, fs.spot here path = .ok spot := by
  obtain ⟨hpath, hreaches⟩ := reaches_of_locate h
  cases hlast : (pieces path).getLast? with
  | none =>
    rw [List.getLast?_eq_none_iff.1 hlast] at hreaches
    cases hreaches
  | some last =>
    rw [← List.dropLast_append_getLast? last hlast] at hreaches
    rcases hreaches.split with ⟨-, hnone⟩ | ⟨between, beyond, left, hfirst, hrest⟩
    · cases hnone
    · have hbetween : fs.isDirectory between = true := by
        by_contra hnot
        cases hrest.of_plain (Bool.eq_false_iff.2 hnot)
      exact ⟨(between, last), spot_eq_ok_iff.2 ⟨hpath, hfirst, hbetween, by rw [hlast]; rfl⟩⟩

theorem find_eq_ok_iff {follow : Bool} :
    fs.find here path follow = .ok id ↔ fs.locate here path follow = .ok (.node id) := by
  unfold find
  cases fs.locate here path follow with
  | error code => exact iff_of_false nofun nofun
  | ok place =>
    cases place with
    | free directory name => exact iff_of_false nofun nofun
    | node other =>
      constructor
      · rintro ⟨⟩
        rfl
      · rintro ⟨⟩
        rfl

theorem locate_eq_ok_node_iff : fs.locate here path true = .ok (.node id) ↔
    path ≠ "" ∧ fs.Reaches maxNames maxLinks (start here path) (pieces path) (.node id) ∧
      (endsInSlash path = true → fs.isDirectory id = true) := by
  unfold locate
  split
  · exact iff_of_false nofun fun h ↦ h.1 ‹_›
  · rename_i hpath
    rw [← walk_eq_ok_iff]
    dsimp only [Bool.true_or]
    split
    · rename_i found hwalk
      change fs.walk true _ _ _ _ = _ at hwalk
      rw [hwalk]
      split
      · rename_i hslash
        refine iff_of_false nofun ?_
        rintro ⟨-, ⟨⟩, hdirectory⟩
        rw [Bool.and_eq_true, Bool.not_eq_true'] at hslash
        cases hslash.2.symm.trans (hdirectory hslash.1)
      · rename_i hslash
        constructor
        · rintro ⟨⟩
          refine ⟨hpath, rfl, fun hends ↦ ?_⟩
          rw [hends, Bool.true_and, Bool.not_eq_true', Bool.not_eq_false] at hslash
          exact hslash
        · rintro ⟨-, ⟨⟩, -⟩
          rfl
    · rename_i hother
      exact iff_of_false (hother id) fun h ↦ hother id h.2.1

theorem GrowsTo.find_eq (h : fs.GrowsTo after) (hid : fs.find here path true = .ok id) :
    after.find here path true = .ok id := by
  rw [find_eq_ok_iff, locate_eq_ok_node_iff] at hid ⊢
  exact ⟨hid.1, h.reaches hid.2.1 rfl, fun hends ↦ h.isDirectory (hid.2.2 hends)⟩

theorem pieces_of_spot (hspot : fs.spot here path = .ok spot) (hname : isDots spot.2 = false) :
    pieces path = (pieces path).dropLast ++ [spot.2] := by
  obtain ⟨-, -, -, hlast⟩ := spot_eq_ok_iff.1 hspot
  cases hend : (pieces path).getLast? with
  | none =>
    rw [hend, Option.getD_none] at hlast
    rw [← hlast] at hname
    cases hname
  | some last =>
    rw [hend, Option.getD_some] at hlast
    rw [← hlast, List.dropLast_append_getLast? last (Option.mem_def.2 hend)]

theorem Sound.isDirectory_start (hsound : fs.Sound) (hhere : fs.isDirectory here = true)
    (path : String) : fs.isDirectory (start here path) = true := by
  unfold start
  split
  · exact hsound.root
  · exact hhere

/-- What a way leads to is a directory or has a name. -/
theorem Reaches.seen (h : fs.Reaches fuel links here names place) (hsound : fs.Sound)
    (hhere : fs.isDirectory here = true) (hplace : place = .node id) :
    fs.isDirectory id = true ∨ ∃ spot, fs.named spot = some id := by
  induction h with
  | here =>
    cases hplace
    exact .inl hhere
  | stay _ _ _ ih => exact ih hhere hplace
  | up _ hframe _ ih => exact ih (hsound.parent _ _ _ hframe) hplace
  | free => cases hplace
  | link _ _ _ _ ih => exact ih (hsound.isDirectory_start hhere _) hplace
  | @down _ _ _ found _ _ _ _ hid _ hrest ih =>
    cases hfound : fs.isDirectory found with
    | true => exact ih hfound hplace
    | false =>
      cases hplace.symm.trans (hrest.of_plain hfound)
      exact .inr ⟨_, hid⟩

/-- The permission bits of what a path leads to. -/
def mode? (fs : FileSystem) (here : NodeId) (path : String) : Option Nat :=
  (fs.find here path true).toOption.map fun id ↦ (fs.node id).mode

theorem GrowsTo.mode?_eq (h : fs.GrowsTo after) (hsound : fs.Sound)
    (hhere : fs.isDirectory here = true) (hid : fs.find here path true = .ok id) :
    after.mode? here path = fs.mode? here path := by
  have hmode : (after.node id).mode = (fs.node id).mode := by
    obtain ⟨-, hreaches, -⟩ := locate_eq_ok_node_iff.1 (find_eq_ok_iff.1 hid)
    cases hframe : fs.frame? id with
    | some frame =>
      obtain ⟨_, -, hbefore⟩ := frame?_eq_some_iff.1 hframe
      obtain ⟨_, -, hafter⟩ := frame?_eq_some_iff.1 (h.frame id frame hframe)
      rw [hbefore, hafter]
    | none =>
      rcases hreaches.seen hsound (hsound.isDirectory_start hhere path) rfl with
        hdirectory | ⟨spot, hspot⟩
      · cases hdirectory.symm.trans (frame?_eq_none_iff.1 hframe)
      · rw [h.node spot id hspot hframe]
  rw [mode?, h.find_eq hid, mode?, hid]
  exact congrArg some hmode

/-- A path leads to what stands at its spot, unless that is a link. -/
theorem locate_of_spot (hspot : fs.spot here path = .ok spot) (hname : isDots spot.2 = false)
    (hends : fs.EndsAt spot) (h : fs.locate here path true = .ok place) :
    place = match fs.named spot with
      | some id => .node id
      | none => .free spot.1 spot.2 := by
  obtain ⟨-, hreaches⟩ := reaches_of_locate h
  obtain ⟨-, hholder, -, -⟩ := spot_eq_ok_iff.1 hspot
  rw [pieces_of_spot hspot hname] at hreaches
  obtain ⟨fuel, links, hrest⟩ := hholder.rest hreaches
  obtain ⟨hone, htwo⟩ := isDots_eq_false_iff.1 hname
  cases hrest with
  | stay hother => exact absurd hother hone
  | up hother => exact absurd hother htwo
  | free _ _ hfree =>
    change fs.named spot = none at hfree
    rw [hfree]
  | link _ hid hlink => exact absurd hlink ((hends _ hid).2 _)
  | @down _ _ _ id _ _ _ _ hid _ hend =>
    change fs.named spot = some id at hid
    rw [hid]
    exact hend.of_plain (hends _ hid).1

/-- Below an empty directory no names lead anywhere, unless they lead up or stay. -/
theorem Reaches.of_empty (h : fs.Reaches fuel links here names place)
    (hempty : fs.entries here = []) (hup : ".." ∉ names) (hname : ∃ name ∈ names, name ≠ ".") :
    ∀ id, place ≠ .node id := by
  have hnone (name : String) : fs.named (here, name) = none := by
    unfold named
    rw [hempty, List.lookup_nil]
  induction h with
  | here => exact absurd hname (by simp)
  | stay hdot _ _ ih =>
    obtain ⟨name, hin, hne⟩ := hname
    refine ih hempty (fun hin ↦ hup (List.mem_cons_of_mem _ hin)) ⟨name, ?_, hne⟩ hnone
    exact (List.mem_cons.1 hin).resolve_left fun heq ↦ hne (heq.trans hdot)
  | up hdots => exact absurd (hdots ▸ List.mem_cons_self) hup
  | free => exact fun id ↦ nofun
  | link _ hid => cases (hnone _).symm.trans hid
  | down _ hid => cases (hnone _).symm.trans hid

/-- A path that leads down below a directory which has just been made leads nowhere. -/
theorem Adds.find_ne_ok {made : String} {rest : List String}
    (h : fs.Adds spot ⟨.directory parent [], mode⟩ after) (hsound : fs.Sound)
    (hspot : fs.spot here made = .ok spot) (hname : isDots spot.2 = false)
    (hfree : fs.named spot = none) (hstart : start here path = start here made)
    (hpieces : pieces path = pieces made ++ rest) (hup : ".." ∉ rest)
    (hdown : ∃ name ∈ rest, name ≠ ".") : ∀ id, after.find here path true ≠ .ok id := by
  intro id hid
  obtain ⟨-, hreaches, -⟩ := locate_eq_ok_node_iff.1 (find_eq_ok_iff.1 hid)
  obtain ⟨-, hholder, -, -⟩ := spot_eq_ok_iff.1 hspot
  rw [hstart, hpieces, pieces_of_spot hspot hname, List.append_assoc] at hreaches
  obtain ⟨fuel, links, hrest⟩ := ((h.growsTo hsound hfree).reaches hholder rfl).rest hreaches
  obtain ⟨hone, htwo⟩ := isDots_eq_false_iff.1 hname
  have hcontent : after.content fs.nodes.size = .directory parent [] :=
    congrArg Node.content h.node_new
  cases hrest with
  | stay hother => exact hone hother
  | up hother => exact htwo hother
  | link _ hfound hlink =>
    cases h.named_new.symm.trans hfound
    cases hcontent.symm.trans hlink
  | down _ hfound _ hend =>
    cases h.named_new.symm.trans hfound
    refine hend.of_empty ?_ hup hdown id rfl
    rw [entries, hcontent]

/-! ### Moving -/

/-- Something that is moved has a name at one spot and gets the one at another spot, unless it has
both. What had the other one can be replaced by it. -/
theorem exists_move_of_rename {source target : String}
    (h : fs.rename here source target = .ok after) :
    ∃ old new id, fs.spot here source = .ok old ∧ fs.spot here target = .ok new ∧
      isDots old.2 = false ∧ isDots new.2 = false ∧ fs.named old = some id ∧
        (fs.named new ≠ some id → after = fs.moveName id old new ∧
          ∀ other, fs.named new = some other → fs.replaceError? id other = none) := by
  unfold FileSystem.rename at h
  obtain ⟨old, hold, h⟩ := exists_of_bind_ok h
  obtain ⟨new, hnew, h⟩ := exists_of_bind_ok h
  obtain ⟨hdots, h⟩ := of_unless_ok h
  rw [Bool.or_eq_true, not_or, Bool.not_eq_true, Bool.not_eq_true] at hdots
  split at h
  · cases h
  · rename_i id hid
    refine ⟨old, new, id, hold, hnew, hdots.1, hdots.2, hid, fun hne ↦ ?_⟩
    obtain ⟨-, h⟩ := of_unless_ok h
    obtain ⟨-, h⟩ := of_unless_ok h
    split at h
    · rename_i hfree
      cases h
      exact ⟨rfl, fun other hother ↦ nomatch hfree.symm.trans hother⟩
    · rename_i other hother
      have hdiffer : id ≠ other := fun heq ↦ hne (heq ▸ hother)
      rw [if_neg hdiffer] at h
      split at h
      · cases h
      · rename_i hreplaced
        cases h
        refine ⟨rfl, fun found hfound ↦ ?_⟩
        cases hother.symm.trans hfound
        exact hreplaced

/-! ### Making directories -/

variable {between made : FileSystem} {target part : String} {mode : Nat} {rest : List String}

/-- Directories are made one after the other, each of which a path leads through. -/
inductive Makes (fs : FileSystem) (here : NodeId) (path : String) : FileSystem → Prop where
  | nothing : Makes fs here path fs
  | further {between after : FileSystem} {part : String} {mode : Nat}
    (h : Makes fs here path between) (hstart : start here part = start here path)
    (hpart : pieces part <+: pieces path)
    (hmade : between.makeDirectory here part mode = .ok after) : Makes fs here path after

/-- From a directory that is there, a path only leads down. -/
def LeadsDown (fs : FileSystem) (here : NodeId) (path : String) : Prop :=
  ∃ base below id, pieces path = base ++ below ∧ ".." ∉ below ∧
    fs.walk true maxNames maxLinks (start here path) base = .ok (.node id)

/-- Nothing is refused because of its name at a spot that is free. -/
theorem free_of_not_taken {spot : Spot}
    (h : ¬(isDots spot.2 || ((fs.entries spot.1).lookup spot.2).isSome) = true) :
    isDots spot.2 = false ∧ fs.named spot = none := by
  rw [Bool.or_eq_true, not_or, Bool.not_eq_true, Bool.not_eq_true, Option.isSome_eq_false_iff,
    Option.isNone_iff_eq_none] at h
  exact h

theorem addNamed_of_makeDirectory (h : fs.makeDirectory here part mode = .ok after) :
    ∃ spot, fs.spot here part = .ok spot ∧ isDots spot.2 = false ∧ fs.named spot = none ∧
      fs.isDirectory spot.1 = true ∧
        after = (fs.addNamed spot.1 spot.2 (.directory spot.1 []) mode).2 := by
  unfold makeDirectory at h
  obtain ⟨spot, hspot, h⟩ := exists_of_bind_ok h
  obtain ⟨-, -, hholder, -⟩ := spot_eq_ok_iff.1 hspot
  obtain ⟨htaken, h⟩ := of_unless_ok h
  cases h
  obtain ⟨hname, hfree⟩ := free_of_not_taken htaken
  exact ⟨spot, hspot, hname, hfree, hholder, rfl⟩

theorem adds_of_makeDirectory (h : fs.makeDirectory here part mode = .ok after) :
    ∃ spot, fs.spot here part = .ok spot ∧ isDots spot.2 = false ∧ fs.named spot = none ∧
      fs.isDirectory spot.1 = true ∧ fs.Adds spot ⟨.directory spot.1 [], mode⟩ after := by
  obtain ⟨spot, hspot, hname, hfree, hholder, rfl⟩ := addNamed_of_makeDirectory h
  exact ⟨spot, hspot, hname, hfree, hholder, adds_addNamed hholder⟩

theorem Makes.growsTo (h : fs.Makes here path made) (hsound : fs.Sound) :
    made.Sound ∧ fs.GrowsTo made := by
  induction h with
  | nothing => exact ⟨hsound, .refl fs⟩
  | further _ _ _ hmade ih =>
    obtain ⟨hbetween, hgrows⟩ := ih
    obtain ⟨spot, -, -, hfree, hholder, hadds⟩ := adds_of_makeDirectory hmade
    exact ⟨hadds.sound hbetween hfree hholder, hgrows.trans (hadds.growsTo hbetween hfree)⟩

/-- Where the names of a directory that has just been made begin to be free, the directories that
were there end. -/
theorem notMem_of_leadsDown (hgrows : fs.GrowsTo between) (hdown : fs.LeadsDown here target)
    (hstart : start here part = start here target) {spot : Spot}
    (hspot : between.spot here part = .ok spot) (hname : isDots spot.2 = false)
    (hfree : between.named spot = none) (hpieces : pieces target = pieces part ++ rest) :
    ".." ∉ rest := by
  obtain ⟨base, below, id, htarget, hup, hbase⟩ := hdown
  have hparts : pieces part = (pieces part).dropLast ++ [spot.2] := pieces_of_spot hspot hname
  obtain ⟨-, hholder, -, -⟩ := spot_eq_ok_iff.1 hspot
  rcases List.append_eq_append_iff.1 (htarget.symm.trans hpieces) with
    ⟨more, hmore, hbelow⟩ | ⟨more, hmore, hrest⟩
  · exact fun hin ↦ hup (hbelow ▸ List.mem_append_right _ hin)
  · -- The directory would stand on the way to one that was there.
    have hreaches : between.Reaches maxNames maxLinks (start here part) base (.node id) := by
      rw [hstart]
      exact hgrows.reaches (walk_eq_ok_iff.1 hbase) rfl
    rw [hmore, hparts, List.append_assoc] at hreaches
    obtain ⟨fuel, links, hbeyond⟩ := hholder.rest hreaches
    obtain ⟨hone, htwo⟩ := isDots_eq_false_iff.1 hname
    cases hbeyond with
    | stay hother => exact absurd hother hone
    | up hother => exact absurd hother htwo
    | link _ hid => cases hfree.symm.trans hid
    | down _ hid => cases hfree.symm.trans hid

/-- What a path leads to after directories on the way to it have been made it led to before.
Assumes: from a directory that was there, the path only leads down, and it goes on beyond the
directories. -/
theorem Makes.find_eq (h : fs.Makes here path made) (hsound : fs.Sound)
    (hdown : fs.LeadsDown here target) (hstart : start here target = start here path)
    (hpieces : pieces target = pieces path ++ rest)
    (hlast : pieces path ≠ [] → ∃ name ∈ rest, name ≠ ".")
    (hfind : made.find here target true = .ok id) : fs.find here target true = .ok id := by
  cases h with
  | nothing => exact hfind
  | @further between _ part mode hbefore hfrom hpart hmade =>
    obtain ⟨hbetween, hgrows⟩ := hbefore.growsTo hsound
    obtain ⟨spot, hspot, hname, hfree, -, hadds⟩ := adds_of_makeDirectory hmade
    obtain ⟨more, hmore⟩ := hpart
    have htarget : pieces target = pieces part ++ (more ++ rest) := by
      rw [hpieces, ← hmore, List.append_assoc]
    have hsome : pieces path ≠ [] := by
      rw [← hmore, pieces_of_spot hspot hname]
      simp
    obtain ⟨name, hin, hne⟩ := hlast hsome
    refine absurd hfind (hadds.find_ne_ok hbetween hspot hname hfree (hstart.trans hfrom.symm)
      htarget ?_ ⟨name, List.mem_append_right _ hin, hne⟩ id)
    exact notMem_of_leadsDown hgrows hdown (hfrom.trans hstart.symm) hspot hname hfree htarget

end Runbook.Sandbox.FileSystem
