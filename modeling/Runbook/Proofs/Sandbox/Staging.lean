import Runbook.Proofs.Sandbox.Filling
/-!
# Looking around while a directory is filled

A staging directory is empty at first and has a name that is spelled nowhere else (`IsStaging`).
While it is filled, no path leads through it that does not spell its name before the end. So all
that can be asked about such a path has the same answer as before: where it leads
(`IsStaging.find_eq`, `IsStaging.spot_eq`) and what its canonical form is
(`IsStaging.canonical_eq`). For the latter every directory has to lie below the top (`Rooted`), or
else the path to it would depend on the number of nodes.
-/

set_option autoImplicit false

namespace Runbook.Sandbox.FileSystem

variable {fs after : FileSystem} {here staging id directory : NodeId} {path fresh name : String}
  {names : List String} {fuel links : Nat} {spot : Spot} {place : Place}

/-- A directory that is empty, and whose name is spelled nowhere else: no other node has it, and no
link leads along it. -/
structure IsStaging (fs : FileSystem) (here staging : NodeId) (fresh : String) : Prop where
  isDirectory : fs.isDirectory staging = true
  empty : ∀ name, fs.named (staging, name) = none
  ne_root : staging ≠ root
  ne_here : staging ≠ here
  childless : ∀ id mode, fs.frame? id ≠ some (staging, mode)
  named_iff : ∀ spot id, fs.named spot = some id → (id = staging ↔ spot.2 = fresh)
  links : ∀ id target, fs.content id = .link target → fresh ∉ pieces target

/-- A new directory whose name is spelled nowhere else. -/
theorem Gains.isStaging (h : fs.Gains directory fresh (.directory directory []) after)
    (hsound : fs.Sound) (hhere : fs.isDirectory here = true)
    (hnew : ∀ spot id, fs.named spot = some id → spot.2 ≠ fresh)
    (hlinks : ∀ id target, fs.content id = .link target → fresh ∉ pieces target) :
    after.IsStaging here fs.nodes.size fresh := by
  have hdirectory : after.isDirectory fs.nodes.size = true := by
    rw [isDirectory, h.content_new]
  have hold {id : NodeId} (hid : id < after.nodes.size) (hne : id ≠ fs.nodes.size) :
      id < fs.nodes.size := by
    rw [h.size] at hid
    exact Nat.lt_of_le_of_ne (Nat.le_of_lt_succ hid) hne
  refine ⟨hdirectory, fun name ↦ ?_, Nat.ne_of_gt (lt_size_of_isDirectory hsound.root),
    Nat.ne_of_gt (lt_size_of_isDirectory hhere), fun id mode hframe ↦ ?_, fun spot id hid ↦ ?_,
    fun id target hlink ↦ ?_⟩
  · unfold FileSystem.named FileSystem.entries
    rw [h.content_new]
    rfl
  · have hid : id < after.nodes.size := lt_size_of_isDirectory (isDirectory_of_frame? hframe)
    by_cases hne : id = fs.nodes.size
    · obtain ⟨entries, hcontent, -⟩ := frame?_eq_some_iff.1 (hne ▸ hframe)
      cases h.content_new.symm.trans hcontent
      exact Nat.lt_irrefl _ h.fills.lt_size
    · rw [h.fills.frame?_eq (hold hid hne)] at hframe
      exact Nat.lt_irrefl _ (lt_size_of_isDirectory (hsound.parent _ _ _ hframe))
  · by_cases hbefore : fs.named spot = some id
    · exact iff_of_false (Nat.ne_of_lt (hsound.named _ _ hbefore)) (hnew _ _ hbefore)
    · obtain ⟨hholder, hlt, hlate, hsize⟩ := h.fills.added spot id hid hbefore
      have hid' : id = fs.nodes.size := by
        by_contra hne
        exact Nat.not_lt_of_le hlate (hold hsize hne)
      refine iff_of_true hid' ?_
      obtain ⟨holder, name⟩ := spot
      by_contra hname
      rcases hholder with rfl | hholder
      · exact hbefore ((h.others name hname).symm.trans hid)
      · exact Nat.not_lt_of_le hholder (hid' ▸ hlt)
  · have hplain {id : NodeId} (hlink : after.content id = .link target) :
        after.isDirectory id ≠ true := by
      rw [isDirectory, hlink]
      exact Bool.false_ne_true
    have hid : id < after.nodes.size := by
      refine Nat.lt_of_not_le fun hle ↦ ?_
      unfold content node at hlink
      rw [Array.getD_eq_getD_getElem?, Array.getElem?_eq_none hle] at hlink
      cases hlink
    by_cases hne : id = fs.nodes.size
    · exact absurd (hne ▸ hdirectory) (hplain hlink)
    · have hlt : id < fs.nodes.size := hold hid hne
      by_cases hholder : id = directory
      · refine absurd ?_ (hplain hlink)
        rw [hholder, h.fills.isDirectory_eq h.fills.lt_size, h.fills.isDirectory]
      · rw [content, h.fills.node id hlt hholder] at hlink
        exact hlinks id target hlink

/-- Every directory is below the top. -/
def Rooted (fs : FileSystem) : Prop :=
  ∀ id, fs.isDirectory id = true → fs.isInside root fs.nodes.size id = true

theorem rooted_of_forall (h : ∀ id < fs.nodes.size, fs.isDirectory id = true →
    fs.isInside root fs.nodes.size id = true) : fs.Rooted :=
  fun id hid ↦ h id (lt_size_of_isDirectory hid) hid

/-- What a way leads to is there. -/
theorem Reaches.lt_size (h : fs.Reaches fuel links here names place) (hsound : fs.Sound)
    (hhere : here < fs.nodes.size) (hplace : place = .node id) : id < fs.nodes.size := by
  cases hdirectory : fs.isDirectory here with
  | false =>
    cases hplace.symm.trans (h.of_plain hdirectory)
    exact hhere
  | true =>
    rcases h.seen hsound hdirectory hplace with hid | ⟨spot, hid⟩
    · exact lt_size_of_isDirectory hid
    · exact hsound.named spot id hid

theorem lt_size_of_find {follow : Bool} (hsound : fs.Sound) (hhere : fs.isDirectory here = true)
    (h : fs.find here path follow = .ok id) : id < fs.nodes.size := by
  have hstart : start here path < fs.nodes.size :=
    lt_size_of_isDirectory (hsound.isDirectory_start hhere path)
  rw [find_eq_ok_iff, locate] at h
  split at h
  · cases h
  · dsimp only at h
    have hwalk : fs.walk (follow || endsInSlash path) maxNames maxLinks (start here path)
        (pieces path) = .ok (.node id) := by
      split at h
      · rename_i found hwalk
        split at h
        · cases h
        · cases h
          exact hwalk
      · exact h
    cases hfollow : follow || endsInSlash path with
    | true =>
      rw [hfollow] at hwalk
      exact (walk_eq_ok_iff.1 hwalk).lt_size hsound hstart rfl
    | false =>
      rw [hfollow] at hwalk
      rcases reaches_or_link_of_walk hwalk with hreaches | ⟨_, _, _, _, _, _, _, hid, _, hplace⟩
      · exact hreaches.lt_size hsound hstart rfl
      · cases hplace
        exact hsound.named _ _ hid

theorem isDirectory_of_spotOf (h : fs.spotOf links here path = .ok spot) :
    fs.isDirectory spot.1 = true := by
  induction links generalizing here path with
  | zero => cases h
  | succ links ih =>
    rw [spotOf] at h
    obtain ⟨holder, hspot, h⟩ := exists_of_bind_ok h
    dsimp only at h
    split at h
    · cases h
    · split at h
      · exact ih h
      · cases h
        exact (spot_eq_ok_iff.1 hspot).2.2.1

/-- The canonical form of a path to a directory. -/
theorem canonical_of_leads {place : String} (hid : fs.Leads here path id)
    (hdirectory : fs.isDirectory id = true) (h : fs.canonical here path = .ok place) :
    place = fs.pathTo id := by
  unfold canonical at h
  obtain ⟨found, hfind, h⟩ := exists_of_bind_ok h
  obtain rfl := (leads_of_find hfind).unique hid
  rw [if_pos hdirectory] at h
  exact (Except.ok.inj h).symm

/-- A node that was there before a directory was filled. -/
structure IsOutside (fs : FileSystem) (staging id : NodeId) : Prop where
  lt_size : id < fs.nodes.size
  ne : id ≠ staging

theorem notMem_dropLast_of_cons (h : fresh ∉ (name :: names).dropLast) :
    fresh ∉ names.dropLast := by
  cases names with
  | nil => exact List.not_mem_nil
  | cons next names => exact fun hin ↦ h (List.mem_cons_of_mem _ hin)

/-- The path to a directory below the top does not depend on the bound. -/
theorem namesTo_of_isInside {more : Nat} (h : fs.isInside root fuel id = true)
    (hfuel : fuel ≤ more) : fs.namesTo more id = fs.namesTo fuel id := by
  induction fuel generalizing more id with
  | zero => cases h
  | succ fuel ih =>
    obtain ⟨more, rfl⟩ : ∃ rest, more = rest + 1 := ⟨more - 1, by omega⟩
    rw [namesTo, namesTo]
    split
    · rfl
    · rename_i hroot
      rw [isInside, decide_eq_false hroot, Bool.false_or, Bool.and_eq_true] at h
      dsimp only
      rw [ih h.2 (Nat.le_of_succ_le_succ hfuel)]

namespace IsStaging

variable (h : fs.IsStaging here staging fresh) (hsound : fs.Sound)
include h hsound

omit hsound in
theorem isOutside_here (hhere : fs.isDirectory here = true) : fs.IsOutside staging here :=
  ⟨lt_size_of_isDirectory hhere, Ne.symm h.ne_here⟩

theorem isOutside_start (hid : fs.IsOutside staging id) (path : String) :
    fs.IsOutside staging (start id path) := by
  unfold start
  split
  · exact ⟨lt_size_of_isDirectory hsound.root, Ne.symm h.ne_root⟩
  · exact hid

theorem isOutside_parent {mode : Nat} (hframe : fs.frame? id = some (directory, mode)) :
    fs.IsOutside staging directory :=
  ⟨lt_size_of_isDirectory (hsound.parent _ _ _ hframe),
    fun heq ↦ h.childless id mode (heq ▸ hframe)⟩

theorem isOutside_of_named (hid : fs.named spot = some id) (hname : spot.2 ≠ fresh) :
    fs.IsOutside staging id :=
  ⟨hsound.named spot id hid, fun heq ↦ hname ((h.named_iff spot id hid).1 heq)⟩

/-- A way that does not spell the name of the staging directory leads elsewhere. -/
theorem isOutside_of_reaches (hid : fs.IsOutside staging id) (hnames : fresh ∉ names)
    (hreaches : fs.Reaches fuel links id names place) (hplace : place = .node directory) :
    fs.IsOutside staging directory := by
  induction hreaches with
  | here =>
    cases hplace
    exact hid
  | stay _ _ _ ih => exact ih hid (fun hin ↦ hnames (List.mem_cons_of_mem _ hin)) hplace
  | up _ hframe _ ih =>
    exact ih (h.isOutside_parent hsound hframe) (fun hin ↦ hnames (List.mem_cons_of_mem _ hin))
      hplace
  | free => cases hplace
  | link _ _ hlink _ ih =>
    refine ih (h.isOutside_start hsound hid _) (fun hin ↦ ?_) hplace
    rcases List.mem_append.1 hin with hin | hin
    · exact h.links _ _ hlink hin
    · exact hnames (List.mem_cons_of_mem _ hin)
  | down _ hnamed _ _ ih =>
    refine ih (h.isOutside_of_named hsound hnamed fun heq ↦ ?_)
      (fun hin ↦ hnames (List.mem_cons_of_mem _ hin)) hplace
    exact hnames (heq ▸ List.mem_cons_self)

/-- The directory in which the last name of a path stands is not the staging directory. -/
theorem isOutside_of_spot (hid : fs.IsOutside staging id)
    (hpath : fresh ∉ (pieces path).dropLast) (hspot : fs.spot id path = .ok spot) :
    fs.IsOutside staging spot.1 := by
  obtain ⟨-, hholder, -, -⟩ := spot_eq_ok_iff.1 hspot
  exact h.isOutside_of_reaches hsound (h.isOutside_start hsound hid path) hpath hholder rfl

variable (hfills : fs.Fills staging after)
include hfills

/-- A way that does not lead through the staging directory leads where it led. -/
theorem walk_eq {follow : Bool} (hid : fs.IsOutside staging id) (hnames : fresh ∉ names.dropLast) :
    after.walk follow fuel links id names = fs.walk follow fuel links id names := by
  induction fuel generalizing links id names with
  | zero => rfl
  | succ fuel ih =>
    cases names with
    | nil => rfl
    | cons name names =>
      have hrest : fresh ∉ names.dropLast := notMem_dropLast_of_cons hnames
      have hcontent {id : NodeId} (hid : fs.IsOutside staging id) :
          after.content id = fs.content id :=
        congrArg Node.content (hfills.node id hid.lt_size hid.ne)
      rw [walk, walk, hcontent hid]
      cases hnode : fs.content id with
      | directory parent entries =>
        dsimp only
        split
        · exact ih hid hrest
        · split
          · exact ih (h.isOutside_parent hsound
              (frame?_eq_some_iff.2 ⟨entries, hnode, rfl⟩)) hrest
          · cases hlookup : entries.lookup name with
            | none => rfl
            | some child =>
              have hnamed : fs.named (id, name) = some child := by
                rw [named, FileSystem.entries, hnode]
                exact hlookup
              by_cases hname : name = fresh
              · -- Only the end of the way can be at the staging directory.
                obtain rfl := (h.named_iff _ child hnamed).2 hname
                have hlast : names = [] := by
                  cases names with
                  | nil => rfl
                  | cons next names => exact absurd (hname ▸ List.mem_cons_self) hnames
                have hbefore := content_of_isDirectory h.isDirectory
                have hafter := content_of_isDirectory
                  ((hfills.isDirectory_eq hfills.lt_size).trans h.isDirectory)
                dsimp only
                rw [hbefore, hafter, hlast]
                cases fuel <;> rfl
              · have hchild : fs.IsOutside staging child :=
                  h.isOutside_of_named hsound hnamed hname
                dsimp only
                rw [hcontent hchild]
                cases hlink : fs.content child with
                | link target =>
                  dsimp only
                  rw [ih (h.isOutside_start hsound hid target) ?_]
                  rw [List.dropLast_append]
                  split
                  · exact fun hin ↦ h.links child target hlink (List.mem_of_mem_dropLast hin)
                  · exact fun hin ↦ (List.mem_append.1 hin).elim (h.links child target hlink) hrest
                | _ => exact ih hchild hrest
      | _ => rfl

/-- A path that does not lead through the staging directory leads where it led. -/
theorem locate_eq {follow : Bool} (hid : fs.IsOutside staging id)
    (hpath : fresh ∉ (pieces path).dropLast) :
    after.locate id path follow = fs.locate id path follow := by
  unfold locate
  split
  · rfl
  · dsimp only
    rw [h.walk_eq hsound hfills (h.isOutside_start hsound hid path) hpath]
    split
    · rename_i found hwalk
      cases hslash : endsInSlash path with
      | false => rfl
      | true =>
        rw [hslash, Bool.or_true] at hwalk
        rw [hfills.isDirectory_eq]
        exact (walk_eq_ok_iff.1 hwalk).lt_size hsound (h.isOutside_start hsound hid path).lt_size
          rfl
    · rfl

theorem find_eq {follow : Bool} (hid : fs.IsOutside staging id)
    (hpath : fresh ∉ (pieces path).dropLast) :
    after.find id path follow = fs.find id path follow := by
  unfold find
  rw [h.locate_eq hsound hfills hid hpath]

/-- What a link points to, to which a path leads, is the same. -/
theorem readLink_eq_ok {text : String} (hid : fs.isDirectory id = true) (hne : staging ≠ id)
    (hpath : fresh ∉ (pieces path).dropLast) (hread : after.readLink id path = .ok text) :
    fs.readLink id path = .ok text := by
  unfold readLink at hread ⊢
  rw [h.find_eq hsound hfills ⟨lt_size_of_isDirectory hid, Ne.symm hne⟩ hpath] at hread
  cases hfind : fs.find id path false with
  | error code =>
    rw [hfind] at hread
    cases hread
  | ok found =>
    rw [hfind] at hread
    have hfound : found < fs.nodes.size := lt_size_of_find hsound hid hfind
    simp only [bind, Except.bind] at hread ⊢
    by_cases hstaging : found = staging
    · rw [hstaging, content_of_isDirectory
        ((hfills.isDirectory_eq hfills.lt_size).trans h.isDirectory)] at hread
      cases hread
    · rw [content, hfills.node found hfound hstaging, ← content] at hread
      exact hread

theorem spot_eq (hid : fs.IsOutside staging id) (hpath : fresh ∉ (pieces path).dropLast) :
    after.spot id path = fs.spot id path := by
  unfold FileSystem.spot
  split
  · rfl
  · dsimp only
    rw [h.walk_eq hsound hfills (h.isOutside_start hsound hid path)
      fun hin ↦ hpath (List.mem_of_mem_dropLast hin)]
    cases hwalk : fs.walk true maxNames maxLinks (start id path) (pieces path).dropLast with
    | error code => rfl
    | ok found =>
      cases found with
      | free holder other => rfl
      | node holder =>
        have hholder : holder < fs.nodes.size :=
          (walk_eq_ok_iff.1 hwalk).lt_size hsound (h.isOutside_start hsound hid path).lt_size rfl
        change (if after.isDirectory holder = true then _ else _) =
          if fs.isDirectory holder = true then _ else _
        rw [hfills.isDirectory_eq hholder]

theorem spotOf_eq (hid : fs.IsOutside staging id) (hpath : fresh ∉ (pieces path).dropLast) :
    after.spotOf links id path = fs.spotOf links id path := by
  induction links generalizing id path with
  | zero => rfl
  | succ links ih =>
    rw [spotOf, spotOf, h.spot_eq hsound hfills hid hpath]
    cases hspot : fs.spot id path with
    | error code => rfl
    | ok spot =>
      obtain ⟨holder, name⟩ := spot
      have hholder : fs.IsOutside staging holder := h.isOutside_of_spot hsound hid hpath hspot
      have hnamed : (after.entries holder).lookup name = (fs.entries holder).lookup name :=
        hfills.named_eq hholder.lt_size hholder.ne
      simp only [bind, Except.bind]
      rw [hnamed]
      cases hlookup : (fs.entries holder).lookup name with
      | none => rfl
      | some child =>
        have hchild : child < fs.nodes.size := hsound.named (holder, name) child hlookup
        dsimp only
        by_cases hstaging : child = staging
        · rw [hstaging, content_of_isDirectory h.isDirectory, content_of_isDirectory
            ((hfills.isDirectory_eq hfills.lt_size).trans h.isDirectory)]
        · rw [content, hfills.node child hchild hstaging, ← content]
          cases hlink : fs.content child with
          | link target =>
            exact ih hholder fun hin ↦ h.links child target hlink (List.mem_of_mem_dropLast hin)
          | _ => rfl

/-- The names that lead to a directory are the same. -/
theorem namesTo_eq (hid : fs.isDirectory id = true) :
    after.namesTo fuel id = fs.namesTo fuel id := by
  induction fuel generalizing id with
  | zero => rfl
  | succ fuel ih =>
    have hframe : fs.frame? id = some (fs.parentOf id, (fs.node id).mode) :=
      frame?_eq_some_iff.2 ⟨_, content_of_isDirectory hid, rfl⟩
    have hparent : after.parentOf id = fs.parentOf id := by
      obtain ⟨entries, hentries, -⟩ := frame?_eq_some_iff.1
        ((hfills.frame?_eq (lt_size_of_isDirectory hid)).trans hframe)
      rw [parentOf, hentries]
    have houtside : fs.IsOutside staging (fs.parentOf id) := h.isOutside_parent hsound hframe
    rw [namesTo, namesTo, hparent]
    dsimp only
    rw [ih (hsound.parent _ _ _ hframe),
      entries_eq_of_node (hfills.node _ houtside.lt_size houtside.ne)]

variable (hrooted : fs.Rooted)
include hrooted

theorem pathTo_eq (hid : fs.isDirectory id = true) : after.pathTo id = fs.pathTo id := by
  rw [pathTo, pathTo, h.namesTo_eq hsound hfills hid,
    namesTo_of_isInside (hrooted id hid) hfills.size]

/-- The canonical form of a path that does not lead through the staging directory is the same. -/
theorem canonical_eq (hid : fs.IsOutside staging id) (hpath : fresh ∉ (pieces path).dropLast) :
    after.canonical id path = fs.canonical id path := by
  unfold canonical
  rw [h.find_eq hsound hfills hid hpath]
  cases hfind : fs.find id path true with
  | error code => rfl
  | ok found =>
    obtain ⟨-, hreaches, -⟩ := locate_eq_ok_node_iff.1 (find_eq_ok_iff.1 hfind)
    have hfound : found < fs.nodes.size :=
      hreaches.lt_size hsound (h.isOutside_start hsound hid path).lt_size rfl
    simp only [bind, Except.bind]
    rw [hfills.isDirectory_eq hfound]
    split
    · rename_i hdirectory
      rw [h.pathTo_eq hsound hfills hrooted hdirectory]
    · rw [h.spotOf_eq hsound hfills hid hpath]
      cases hspot : fs.spotOf (maxLinks + 1) id path with
      | error code => rfl
      | ok spot =>
        simp only
        rw [h.pathTo_eq hsound hfills hrooted (isDirectory_of_spotOf hspot)]

end IsStaging

end Runbook.Sandbox.FileSystem
