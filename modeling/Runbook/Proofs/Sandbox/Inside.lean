import Mathlib.Data.Nat.Find
import Runbook.Proofs.Sandbox.Spelling
import Runbook.Proofs.Sandbox.Staging
/-!
# Directories inside others

A directory is inside another one when the way up leads there (`isInside`). Where every directory is
below the top (`Rooted`) and stands in the directory that it knows as its parent (`Hung`), no
directory is inside one that stands in it (`Rooted.isInside_eq_false`).

The path to a directory starts with the path to any directory that it is inside of. Where all names
are texts (`IsSpelled`), this can be seen from the texts of the paths (`isBelow_pathTo`).
-/

set_option autoImplicit false

namespace Runbook.Sandbox.FileSystem

variable {fs after : FileSystem} {outer id other directory : NodeId} {name : String}
  {fuel bound : Nat} {spot : Spot}

/-! ### The way up -/

theorem isInside_succ : fs.isInside outer (fuel + 1) id =
    (decide (id = outer) || (id != root && fs.isInside outer fuel (fs.parentOf id))) :=
  rfl

theorem isInside_mono (h : fs.isInside outer fuel id = true) (hfuel : fuel ≤ bound) :
    fs.isInside outer bound id = true := by
  induction fuel generalizing bound id with
  | zero => cases h
  | succ fuel ih =>
    obtain ⟨bound, rfl⟩ : ∃ n, bound = n + 1 := ⟨bound - 1, by omega⟩
    rw [isInside_succ, Bool.or_eq_true, Bool.and_eq_true] at h ⊢
    exact h.imp_right (And.imp_right fun h ↦ ih h (Nat.le_of_succ_le_succ hfuel))

/-- What the way up leads through is no farther from the top. -/
theorem isInside_root_of_isInside (hroot : fs.isInside root bound id = true)
    (h : fs.isInside outer fuel id = true) : fs.isInside root bound outer = true := by
  induction fuel generalizing bound id with
  | zero => cases h
  | succ fuel ih =>
    rw [isInside_succ, Bool.or_eq_true, decide_eq_true_iff, Bool.and_eq_true, bne_iff_ne] at h
    rcases h with rfl | ⟨hne, h⟩
    · exact hroot
    · cases bound with
      | zero => cases hroot
      | succ bound =>
        rw [isInside_succ, decide_eq_false hne, Bool.false_or, Bool.and_eq_true] at hroot
        exact isInside_mono (ih hroot.2 h) (Nat.le_succ bound)

/-- Where the way up comes to the top, it leads through nothing more. -/
theorem isInside_of_isInside_root (hroot : fs.isInside root bound id = true)
    (h : fs.isInside outer fuel id = true) : fs.isInside outer bound id = true := by
  induction bound generalizing fuel id with
  | zero => cases hroot
  | succ bound ih =>
    cases fuel with
    | zero => cases h
    | succ fuel =>
      rw [isInside_succ, Bool.or_eq_true, decide_eq_true_iff, Bool.and_eq_true] at h hroot ⊢
      refine h.imp_right fun ⟨hne, hup⟩ ↦ ⟨hne, ih (hroot.resolve_left ?_).2 hup⟩
      exact bne_iff_ne.1 hne

theorem parentOf_eq (id : NodeId) :
    fs.parentOf id = ((fs.frame? id).map Prod.fst).getD root := by
  unfold parentOf frame?
  cases fs.content id <;> rfl

theorem Sound.parentOf_lt_size (hsound : fs.Sound) (id : NodeId) :
    fs.parentOf id < fs.nodes.size := by
  rw [parentOf_eq]
  cases hframe : fs.frame? id with
  | none => exact lt_size_of_isDirectory hsound.root
  | some frame => exact lt_size_of_isDirectory (hsound.parent id _ _ hframe)

theorem Sound.isDirectory_parentOf (hsound : fs.Sound) (hid : fs.isDirectory id = true) :
    fs.isDirectory (fs.parentOf id) = true :=
  hsound.parent _ _ _ (frame?_eq_some_iff.2 ⟨_, content_of_isDirectory hid, rfl⟩)

/-- What a directory is inside of is a directory. -/
theorem Sound.isDirectory_of_isInside (hsound : fs.Sound) (hid : fs.isDirectory id = true)
    (h : fs.isInside outer fuel id = true) : fs.isDirectory outer = true := by
  induction fuel generalizing id with
  | zero => cases h
  | succ fuel ih =>
    rw [isInside_succ, Bool.or_eq_true, decide_eq_true_iff, Bool.and_eq_true] at h
    rcases h with rfl | ⟨-, hup⟩
    · exact hid
    · exact ih (hsound.isDirectory_parentOf hid) hup

theorem isInside_root_eq_false (h : outer ≠ root) : fs.isInside outer fuel root = false := by
  cases fuel with
  | zero => rfl
  | succ fuel =>
    rw [isInside_succ, decide_eq_false (Ne.symm h), bne_self_eq_false, Bool.false_and,
      Bool.or_false]

/-- What is inside of a directory other than the top is one itself. -/
theorem isDirectory_of_isInside (houter : fs.isDirectory outer = true) (hne : outer ≠ root)
    (h : fs.isInside outer fuel id = true) : fs.isDirectory id = true := by
  by_contra hid
  have hparent : fs.parentOf id = root := by
    rw [parentOf_eq, frame?_eq_none_iff.2 (Bool.eq_false_iff.2 hid)]
    rfl
  cases fuel with
  | zero => cases h
  | succ fuel =>
    rw [isInside_succ, Bool.or_eq_true, decide_eq_true_iff, Bool.and_eq_true, hparent] at h
    rcases h with rfl | ⟨-, hup⟩
    · exact hid houter
    · cases (isInside_root_eq_false hne).symm.trans hup

/-- Where directories stay where they are, the way up stays. -/
theorem isInside_eq (hsound : fs.Sound)
    (hframe : ∀ id < fs.nodes.size, after.frame? id = fs.frame? id) (hid : id < fs.nodes.size) :
    after.isInside outer fuel id = fs.isInside outer fuel id := by
  induction fuel generalizing id with
  | zero => rfl
  | succ fuel ih =>
    rw [isInside_succ, isInside_succ, parentOf_eq, hframe id hid, ← parentOf_eq,
      ih (hsound.parentOf_lt_size id)]

/-- Where the way up does not lead out of some nodes, it does not lead to another one. -/
theorem isInside_eq_false_of_closed {closed : Set NodeId} (hclosed : ∀ id ∈ closed, id ≠ root →
    fs.parentOf id ∈ closed) (houter : outer ∉ closed) (hid : id ∈ closed) :
    fs.isInside outer fuel id = false := by
  induction fuel generalizing id with
  | zero => rfl
  | succ fuel ih =>
    have hne : id ≠ outer := fun heq ↦ houter (heq ▸ hid)
    rw [isInside_succ, decide_eq_false hne, Bool.false_or]
    by_cases hroot : id = root
    · rw [hroot, bne_self_eq_false, Bool.false_and]
    · rw [ih (hclosed id hid hroot), Bool.and_false]

/-- Nothing that is there is inside of what is not. -/
theorem Sound.isInside_eq_false (hsound : fs.Sound) (houter : fs.nodes.size ≤ outer)
    (hid : id < fs.nodes.size) : fs.isInside outer fuel id = false := by
  have hmem : id ∈ {id | id < fs.nodes.size} := hid
  refine isInside_eq_false_of_closed ?_ ?_ hmem
  · exact fun id _ _ ↦ hsound.parentOf_lt_size id
  · exact Nat.not_lt_of_le houter

/-- A new directory is below the top as the one that it is in. -/
theorem Gains.rooted (h : fs.Gains directory name (.directory directory []) after)
    (hsound : fs.Sound) (hrooted : fs.Rooted) : after.Rooted := by
  have hold {id : NodeId} (hid : fs.isDirectory id = true) :
      after.isInside root fs.nodes.size id = true := by
    rw [isInside_eq hsound (fun _ ↦ h.fills.frame?_eq) (lt_size_of_isDirectory hid)]
    exact hrooted id hid
  intro id hid
  by_cases hlt : id < fs.nodes.size
  · exact isInside_mono (hold ((h.fills.isDirectory_eq hlt).symm.trans hid)) h.fills.size
  · have hsize := h.size ▸ lt_size_of_isDirectory hid
    have hnew : id = fs.nodes.size := (Nat.le_of_lt_succ hsize).antisymm (Nat.le_of_not_lt hlt)
    have hparent : after.parentOf id = directory := by
      rw [hnew, parentOf, h.content_new]
    rw [h.size, isInside_succ, hparent, hold h.fills.isDirectory, Bool.and_true, Bool.or_eq_true,
      decide_eq_true_iff, bne_iff_ne]
    exact em _

/-- Every directory stands in the one that it knows as its parent, and the top stands nowhere. -/
structure Hung (fs : FileSystem) : Prop where
  parent : ∀ spot id, fs.named spot = some id → fs.isDirectory id = true → fs.parentOf id = spot.1
  root : ∀ spot, fs.named spot ≠ some FileSystem.root

/-- A directory is not inside one that stands in it. -/
theorem Rooted.isInside_eq_false (hrooted : fs.Rooted) (hhung : fs.Hung)
    (hid : fs.named spot = some id) (hdirectory : fs.isDirectory id = true) :
    fs.isInside id fuel spot.1 = false := by
  classical
  by_contra hinside
  rw [Bool.not_eq_false] at hinside
  have hsome : ∃ bound, fs.isInside root bound id = true := ⟨_, hrooted id hdirectory⟩
  have hne : id ≠ root := fun heq ↦ hhung.root spot (heq ▸ hid)
  -- The shortest way up from the directory would lead through the directory again.
  have hshortest := Nat.find_spec hsome
  cases hbound : Nat.find hsome with
  | zero =>
    rw [hbound] at hshortest
    cases hshortest
  | succ bound =>
    rw [hbound, isInside_succ, decide_eq_false hne, Bool.false_or, Bool.and_eq_true,
      hhung.parent spot id hid hdirectory] at hshortest
    have hshorter := isInside_root_of_isInside hshortest.2 hinside
    exact absurd (Nat.find_min' hsome hshorter) (by omega)

/-! ### The paths of directories -/

/-- All names are texts. -/
def IsSpelled (fs : FileSystem) : Prop :=
  ∀ directory, ∀ entry ∈ fs.entries directory, ∃ text, entry.1 = ByteText.ofText text

theorem isSpelled_of_forall (h : ∀ directory < fs.nodes.size, ∀ entry ∈ fs.entries directory,
    ByteText.ofText entry.1 = entry.1) : fs.IsSpelled := by
  intro directory entry hentry
  have hdirectory : fs.isDirectory directory = true := by
    unfold entries at hentry
    split at hentry
    · rename_i hcontent
      rw [isDirectory, hcontent]
    · cases hentry
  exact ⟨entry.1, (h directory (lt_size_of_isDirectory hdirectory) entry hentry).symm⟩

theorem mem_insertName {entry : String × NodeId} {entries : List (String × NodeId)}
    (h : entry ∈ insertName name id entries) : entry = (name, id) ∨ entry ∈ entries := by
  induction entries with
  | nil => exact .inl (List.mem_singleton.1 h)
  | cons first entries ih =>
    rw [insertName] at h
    split at h
    · exact List.mem_cons.1 h
    · split at h
      · exact (List.mem_cons.1 h).imp_right (List.mem_cons_of_mem _)
      · rcases List.mem_cons.1 h with rfl | hrest
        · exact .inr List.mem_cons_self
        · exact (ih hrest).imp_right (List.mem_cons_of_mem _)

/-- A new directory whose name is a text. -/
theorem IsSpelled.of_makeDirectory {here : NodeId} {path : String} {mode : Nat}
    (h : fs.IsSpelled) (hmade : fs.makeDirectory here path mode = .ok after)
    (hname : ∀ spot, fs.spot here path = .ok spot → ∃ text, spot.2 = ByteText.ofText text) :
    after.IsSpelled := by
  obtain ⟨⟨holder, name⟩, hspot, -, -, hholder, rfl⟩ := addNamed_of_makeDirectory hmade
  have hne : holder ≠ fs.nodes.size := Nat.ne_of_lt (lt_size_of_isDirectory hholder)
  have hadded : (fs.add (.directory holder []) mode).2.isDirectory holder = true := by
    rw [← isSome_frame?, frame?_eq_of_node (node_add hne), isSome_frame?, hholder]
  have hentries : ∀ id, ∀ entry ∈ (fs.add (.directory holder []) mode).2.entries id,
      ∃ text, entry.1 = ByteText.ofText text := by
    intro id entry hentry
    by_cases hid : id = fs.nodes.size
    · rw [hid, entries, content, node_add_self] at hentry
      cases hentry
    · rw [entries_eq_of_node (node_add hid)] at hentry
      exact h id entry hentry
  change ((fs.add (.directory holder []) mode).2.setName holder name fs.nodes.size).IsSpelled
  intro id entry hentry
  rw [setName_eq hadded, setEntries] at hentry
  by_cases hid : id = holder
  · rw [hid, entries, content, node_setNode_self (lt_size_of_isDirectory hadded)] at hentry
    rcases mem_insertName hentry with rfl | hentry
    · exact hname _ hspot
    · exact hentries holder entry hentry
  · rw [entries_eq_of_node (node_setNode_of_ne hid)] at hentry
    exact hentries id entry hentry

/-- The names that lead to a directory are those that lead to its parent and one more. -/
theorem Rooted.namesTo_eq (hrooted : fs.Rooted) (hid : fs.isDirectory id = true)
    (hne : id ≠ root) :
    ∃ name, fs.namesTo fs.nodes.size id = fs.namesTo fs.nodes.size (fs.parentOf id) ++ [name] ∧
      (fs.IsSpelled → ∃ text, name = ByteText.ofText text) := by
  have hinside := hrooted id hid
  have hspelled : ByteText.ofText "(unreachable)" = "(unreachable)" := by decide +kernel
  cases hsize : fs.nodes.size with
  | zero =>
    rw [hsize] at hinside
    cases hinside
  | succ size =>
    rw [hsize, isInside_succ, decide_eq_false hne, Bool.false_or, Bool.and_eq_true] at hinside
    rw [namesTo_of_isInside hinside.2 (Nat.le_succ size), namesTo, if_neg hne]
    refine ⟨_, rfl, fun hall ↦ ?_⟩
    cases hfind : (fs.entries (fs.parentOf id)).find? fun entry => decide (entry.2 = id) with
    | none => exact ⟨_, hspelled.symm⟩
    | some entry => exact hall _ entry (List.mem_of_find?_eq_some hfind)

/-- The names that lead to a directory start with those that lead to one that it is inside of. -/
theorem Rooted.namesTo_of_isInside (hrooted : fs.Rooted) (hsound : fs.Sound)
    (hid : fs.isDirectory id = true) (hinside : fs.isInside outer fuel id = true) :
    ∃ more, fs.namesTo fs.nodes.size id = fs.namesTo fs.nodes.size outer ++ more ∧
      (fs.IsSpelled → ∃ texts : List String, more = texts.map ByteText.ofText) := by
  induction fuel generalizing id with
  | zero => cases hinside
  | succ fuel ih =>
    rw [isInside_succ, Bool.or_eq_true, decide_eq_true_iff, Bool.and_eq_true, bne_iff_ne]
      at hinside
    rcases hinside with rfl | ⟨hne, hinside⟩
    · exact ⟨[], (List.append_nil _).symm, fun _ ↦ ⟨[], rfl⟩⟩
    · obtain ⟨name, hname, htext⟩ := hrooted.namesTo_eq hid hne
      obtain ⟨more, hmore, htexts⟩ := ih (hsound.isDirectory_parentOf hid) hinside
      refine ⟨more ++ [name], by rw [hname, hmore, List.append_assoc], fun hspelled ↦ ?_⟩
      obtain ⟨text, rfl⟩ := htext hspelled
      obtain ⟨texts, rfl⟩ := htexts hspelled
      exact ⟨texts ++ [text], by rw [List.map_append, List.map_singleton]⟩

/-- The path that some names lead along from the top. -/
theorem pathTo_eq_ofText {texts : List String}
    (h : fs.namesTo fs.nodes.size id = texts.map ByteText.ofText) :
    fs.pathTo id = ByteText.ofText ("/" ++ "/".intercalate texts) := by
  rw [pathTo, h, ByteText.ofText_append, ByteText.ofText_intercalate]
  congr 1

/-- Where all names are texts, the path to a directory starts with the path to any directory that it
is inside of. -/
theorem isBelow_pathTo (hrooted : fs.Rooted) (hsound : fs.Sound) (hspelled : fs.IsSpelled)
    (hid : fs.isDirectory id = true) (houter : fs.isDirectory outer = true)
    (hinside : fs.isInside outer fuel id = true) :
    Path.isBelow (ByteText.toText (fs.pathTo id)) (ByteText.toText (fs.pathTo outer)) = true := by
  have htop : fs.namesTo fs.nodes.size root = [] := by
    cases fs.nodes.size <;> rfl
  obtain ⟨before, hbefore, htexts⟩ := hrooted.namesTo_of_isInside hsound houter (hrooted _ houter)
  obtain ⟨texts, rfl⟩ := htexts hspelled
  obtain ⟨after, hafter, hmore⟩ := hrooted.namesTo_of_isInside hsound hid hinside
  obtain ⟨more, rfl⟩ := hmore hspelled
  rw [htop, List.nil_append] at hbefore
  rw [hbefore, ← List.map_append] at hafter
  rw [pathTo_eq_ofText hbefore, pathTo_eq_ofText hafter, ByteText.toText_ofText,
    ByteText.toText_ofText, Path.isBelow, List.isPrefixOf_iff_prefix,
    Path.components_intercalate, Path.components_intercalate, List.flatMap_append]
  exact ⟨_, rfl⟩

end Runbook.Sandbox.FileSystem
