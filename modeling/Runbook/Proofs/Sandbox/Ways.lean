import Runbook.Proofs.Path.Normal
import Runbook.Proofs.Sandbox.Paths
import Runbook.Proofs.Sandbox.Spelling
/-!
# Ways without bounds

The bounds on the names and the links of a way only decide whether it is followed to its end: all
ways along the same names lead to the same place (`Reaches.eq_of_reaches`), and they can be put
together (`Reaches.append`). So it makes sense to say where a path leads whatever the bounds are
(`Leads`). A path that goes on from another one by one name (`GoesOn`) leads to what has that name
in the directory that the other one leads to (`Leads.down`, `Leads.spot_eq`).

A link at the end of a path can be looked at instead of being followed. Then the path leads to where
it leads anyway, or to the link that has its last name (`reaches_or_link_of_walk`).
-/

set_option autoImplicit false

namespace Runbook.Path

open Text

/-- A path whose only component is a name has that name, and only full stops after it. -/
theorem names_of_components {path name : String} (h : components path = [.normal name]) :
    IsEntryName name ∧ isAbsolute path = false ∧
      ∃ dots, names path.toList = name.toList :: dots ∧ ∀ dot ∈ dots, dot = ['.'] := by
  rw [components_eq] at h
  have hstart : start path = [] := by
    rcases List.append_eq_singleton_iff.1 h with ⟨hnil, -⟩ | ⟨hone, -⟩
    · exact hnil
    · unfold start at hone
      split at hone
      · cases hone
      · split at hone <;> cases hone
  rw [hstart, List.nil_append, pieces] at h
  have habsolute : isAbsolute path = false := by
    by_contra habsolute
    rw [start, if_pos (Bool.not_eq_false _ ▸ habsolute)] at hstart
    cases hstart
  obtain ⟨first, rest, hsplit⟩ := List.exists_cons_of_ne_nil (splitAt_ne_nil '/' path.toList)
  rw [hsplit] at h
  -- The first piece is neither empty nor a full stop, so it is the name.
  have hdot : first ≠ ['.'] := by
    rintro rfl
    rw [start, if_neg (by rw [habsolute]; exact Bool.false_ne_true), hsplit] at hstart
    cases hstart
  have hne : first ≠ [] := by
    rintro rfl
    cases htext : path.toList with
    | nil =>
      rw [htext, splitAt] at hsplit
      cases hsplit
      cases h
    | cons c text =>
      rw [htext, splitAt] at hsplit
      split at hsplit
      · rename_i hc
        rw [isAbsolute, htext, hc] at habsolute
        cases habsolute
      · obtain ⟨piece, pieces, hpieces⟩ := List.exists_cons_of_ne_nil (splitAt_ne_nil '/' text)
        rw [hpieces] at hsplit
        cases hsplit
  have hdots : first ≠ ['.', '.'] := by
    rintro rfl
    cases h
  rw [List.filterMap_cons, Component.ofPiece?, if_neg (not_or.2 ⟨hne, hdot⟩), if_neg hdots] at h
  obtain ⟨hname, hrest⟩ := List.cons.inj h
  obtain rfl : String.ofList first = name := Component.normal.inj hname
  have hslash : '/' ∉ first := notMem_of_mem_splitAt (hsplit ▸ List.mem_cons_self)
  refine ⟨⟨String.toList_ofList.symm ▸ hslash, ?_⟩, habsolute, rest.filter (· ≠ []), ?_,
    fun dot hin ↦ ?_⟩
  · intro hin
    have hlist : first ∈ [[], ['.'], ['.', '.']] := by
      have hmap := List.mem_map_of_mem (f := String.toList) hin
      rwa [String.toList_ofList] at hmap
    simp [hne, hdot, hdots] at hlist
  · rw [names, hsplit, List.filter_cons_of_pos (by simp [hne]), String.toList_ofList]
  · obtain ⟨hrestIn, hsome⟩ := List.mem_filter.1 hin
    have hnone := (List.filterMap_eq_nil_iff.1 hrest) dot hrestIn
    rw [decide_eq_true_iff] at hsome
    unfold Component.ofPiece? at hnone
    split at hnone
    · rename_i hshort
      exact hshort.resolve_left hsome
    · split at hnone <;> cases hnone

end Runbook.Path

namespace Runbook.Sandbox.FileSystem

variable {fs : FileSystem} {here id other directory : NodeId} {path name : String}
  {names more : List String} {fuel links : Nat} {spot : Spot} {place : Place}

/-! ### Ways without bounds -/

theorem Reaches.weaken (h : fs.Reaches fuel links here names place) {more left : Nat}
    (hfuel : fuel ≤ more) (hlinks : links ≤ left) : fs.Reaches more left here names place := by
  have hsucc {least bound : Nat} (h : least + 1 ≤ bound) : ∃ n, bound = n + 1 ∧ least ≤ n :=
    ⟨bound - 1, by omega, by omega⟩
  induction h generalizing more left with
  | here =>
    obtain ⟨more, rfl, -⟩ := hsucc hfuel
    exact .here
  | stay hname hhere _ ih =>
    obtain ⟨more, rfl, hmore⟩ := hsucc hfuel
    exact .stay hname hhere (ih hmore hlinks)
  | up hname hhere _ ih =>
    obtain ⟨more, rfl, hmore⟩ := hsucc hfuel
    exact .up hname hhere (ih hmore hlinks)
  | free hname hhere hfree hlast =>
    obtain ⟨more, rfl, -⟩ := hsucc hfuel
    exact .free hname hhere hfree hlast
  | link hname hid hlink _ ih =>
    obtain ⟨more, rfl, hmore⟩ := hsucc hfuel
    obtain ⟨left, rfl, hleft⟩ := hsucc hlinks
    exact .link hname hid hlink (ih hmore hleft)
  | down hname hid hplain _ ih =>
    obtain ⟨more, rfl, hmore⟩ := hsucc hfuel
    exact .down hname hid hplain (ih hmore hlinks)

/-- A way that goes on from where another one leads. -/
theorem Reaches.append (h : fs.Reaches fuel links here names (.node directory)) {beyond left : Nat}
    (hmore : fs.Reaches beyond left directory more place) :
    fs.Reaches (fuel + beyond) (links + left) here (names ++ more) place := by
  generalize hend : Place.node directory = between at h
  induction h with
  | here =>
    cases hend
    exact hmore.weaken (Nat.le_add_left _ _) (Nat.le_add_left _ _)
  | stay hname hhere _ ih =>
    rw [Nat.add_right_comm]
    exact .stay hname hhere (ih hend)
  | up hname hhere _ ih =>
    rw [Nat.add_right_comm]
    exact .up hname hhere (ih hend)
  | free => cases hend
  | link hname hid hlink _ ih =>
    rw [Nat.add_right_comm, Nat.add_right_comm _ 1]
    refine .link hname hid hlink ?_
    exact (List.append_assoc _ _ _) ▸ ih hend
  | down hname hid hplain _ ih =>
    rw [Nat.add_right_comm]
    exact .down hname hid hplain (ih hend)

/-- A path leads to a node, however long the way is. -/
def Leads (fs : FileSystem) (here : NodeId) (path : String) (id : NodeId) : Prop :=
  ∃ fuel links, fs.Reaches fuel links (start here path) (pieces path) (.node id)

/-- Two ways along the same names lead to the same place. -/
theorem Reaches.eq_of_reaches {beyond left : Nat} {further : Place}
    (h : fs.Reaches fuel links here names place)
    (hother : fs.Reaches beyond left here names further) : place = further :=
  (h.weaken (Nat.le_max_left fuel beyond) (Nat.le_max_left links left)).unique
    (hother.weaken (Nat.le_max_right fuel beyond) (Nat.le_max_right links left))

theorem Leads.unique (h : fs.Leads here path id) (hother : fs.Leads here path other) :
    id = other := by
  obtain ⟨_, _, h⟩ := h
  obtain ⟨_, _, hother⟩ := hother
  exact Place.node.inj (h.eq_of_reaches hother)

theorem leads_of_find (h : fs.find here path true = .ok id) : fs.Leads here path id :=
  ⟨_, _, (locate_eq_ok_node_iff.1 (find_eq_ok_iff.1 h)).2.1⟩

/-- A path goes on from another one by one name. -/
structure GoesOn (here : NodeId) (path name longer : String) : Prop where
  start : FileSystem.start here longer = FileSystem.start here path
  pieces : FileSystem.pieces longer = FileSystem.pieces path ++ [name]
  plain : isDots name = false

/-- The name of an entry is one name of a path, and that leads down. -/
theorem pieces_of_isEntryName {entry : String} (h : Path.IsEntryName entry) :
    pieces (ByteText.ofText entry) = [ByteText.ofText entry] ∧
      isDots (ByteText.ofText entry) = false ∧ Path.isAbsolute entry = false := by
  have hne : entry.toList ≠ [] := h.toList_ne List.mem_cons_self
  refine ⟨?_, ?_, h.isAbsolute_eq⟩
  · rw [pieces_ofText, Path.names_of_notMem h.slash_notMem hne, List.map_singleton]
    rfl
  · by_contra hdots
    rw [Bool.not_eq_false] at hdots
    have hentry : entry = ByteText.ofText entry :=
      String.toList_injective ((spelled_eq_dots_iff hdots).1 rfl)
    rw [← hentry] at hdots
    refine h.ne (List.mem_cons_of_mem _ ?_)
    simpa [isDots] using hdots

/-- An entry below a path. -/
theorem goesOn_join {base entry : String} (h : Path.IsEntryName entry) :
    GoesOn here (ByteText.ofText base) (ByteText.ofText entry)
      (ByteText.ofText (Path.join base entry)) := by
  obtain ⟨hpieces, hdots, habsolute⟩ := pieces_of_isEntryName h
  exact ⟨start_join habsolute, (pieces_join habsolute).trans (by rw [hpieces]), hdots⟩

theorem endsInSlash_join {base entry : String} (h : Path.IsEntryName entry) :
    endsInSlash (ByteText.ofText (Path.join base entry)) = false := by
  have hne : entry.toList ≠ [] := h.toList_ne List.mem_cons_self
  have hlast : (Path.join base entry).toList.getLast? = entry.toList.getLast? := by
    rw [Path.join, if_neg (by rw [(pieces_of_isEntryName h).2.2]; exact Bool.false_ne_true)]
    split <;> simp only [String.toList_append, List.getLast?_append_of_ne_nil _ hne]
  refine decide_eq_false fun hslash ↦ ?_
  rw [ByteText.toList_ofText, ByteText.getLast?_spelled_eq_slash_iff, hlast] at hslash
  exact h.slash_notMem (List.mem_of_getLast? hslash)

/-- The name of a plain path, with the full stops after it. -/
theorem pieces_of_components {path name : String}
    (h : Path.components path = [.normal name]) :
    ∃ dots, pieces (ByteText.ofText path) = ByteText.ofText name :: dots ∧
      ∀ dot ∈ dots, dot = "." := by
  obtain ⟨-, -, dots, hnames, hdots⟩ := Path.names_of_components h
  refine ⟨dots.map fun dot ↦ String.ofList (ByteText.spelled dot), ?_, fun dot hin ↦ ?_⟩
  · rw [pieces_ofText, hnames, List.map_cons]
    rfl
  · obtain ⟨text, htext, rfl⟩ := List.mem_map.1 hin
    exact (spelled_eq_dots_iff rfl).2 (hdots text htext)

/-- Where a name is free, a way ends. -/
theorem Reaches.of_free (h : fs.Reaches fuel links directory (name :: names) place)
    (hname : isDots name = false) (hfree : fs.named (directory, name) = none) :
    place = .free directory name ∧ names = [] := by
  obtain ⟨hone, htwo⟩ := isDots_eq_false_iff.1 hname
  cases h with
  | stay hother => exact absurd hother hone
  | up hother => exact absurd hother htwo
  | free _ _ _ hlast => exact ⟨rfl, hlast⟩
  | link _ hid => cases hfree.symm.trans hid
  | down _ hid => cases hfree.symm.trans hid

namespace Leads

variable {longer : String} (h : fs.Leads here path directory)
include h

/-- One name further. -/
theorem down (hlonger : GoesOn here path name longer) (hid : fs.named (directory, name) = some id)
    (hplain : ∀ target, fs.content id ≠ .link target) : fs.Leads here longer id := by
  obtain ⟨fuel, links, h⟩ := h
  refine ⟨fuel + 2, links + 0, ?_⟩
  rw [hlonger.start, hlonger.pieces]
  exact h.append (.down hlonger.plain hid hplain .here)

/-- One name further, and then full stops, where a directory has the name. -/
theorem down_stays {dots : List String} (hstart : start here longer = start here path)
    (hpieces : pieces longer = pieces path ++ name :: dots) (hdots : ∀ dot ∈ dots, dot = ".")
    (hname : isDots name = false) (hid : fs.named (directory, name) = some id)
    (hdirectory : fs.isDirectory id = true) : fs.Leads here longer id := by
  have hplain (target : String) : fs.content id ≠ .link target := by
    rw [content_of_isDirectory hdirectory]
    exact nofun
  have hstays : ∃ fuel, fs.Reaches fuel 0 id dots (.node id) := by
    clear hpieces
    induction dots with
    | nil => exact ⟨1, .here⟩
    | cons dot dots ih =>
      obtain ⟨hdot, hrest⟩ := List.forall_mem_cons.1 hdots
      obtain ⟨fuel, hreaches⟩ := ih hrest
      exact ⟨fuel + 1, .stay hdot hdirectory hreaches⟩
  obtain ⟨beyond, hstays⟩ := hstays
  obtain ⟨fuel, links, h⟩ := h
  refine ⟨fuel + (beyond + 1), links + 0, ?_⟩
  rw [hstart, hpieces]
  exact h.append (.down hname hid hplain hstays)

/-- The last name of a path stands where the names before it lead. -/
theorem spot_eq (hlonger : GoesOn here path name longer) (hspot : fs.spot here longer = .ok spot) :
    spot = (directory, name) := by
  obtain ⟨fuel, links, h⟩ := h
  obtain ⟨-, hholder, -, hlast⟩ := spot_eq_ok_iff.1 hspot
  rw [hlonger.pieces, List.dropLast_concat, hlonger.start] at hholder
  rw [hlonger.pieces, List.getLast?_concat] at hlast
  exact Prod.ext (Place.node.inj (hholder.eq_of_reaches h)) hlast.symm

/-- A longer way goes on from where a path leads. -/
theorem rest (hfurther : fs.Reaches fuel links (start here path) (pieces path ++ more) place) :
    ∃ fuel links, fs.Reaches fuel links directory more place := by
  obtain ⟨beyond, left, h⟩ := h
  exact (h.weaken (Nat.le_max_left beyond fuel) (Nat.le_max_left left links)).rest
    (hfurther.weaken (Nat.le_max_right beyond fuel) (Nat.le_max_right left links))

/-- A path whose last name is free leads there. -/
theorem locate_eq (hlonger : GoesOn here path name longer)
    (hfree : fs.named (directory, name) = none) (hplace : fs.locate here longer true = .ok place) :
    place = .free directory name := by
  obtain ⟨-, hreaches⟩ := reaches_of_locate hplace
  rw [hlonger.start, hlonger.pieces] at hreaches
  obtain ⟨_, _, hrest⟩ := h.rest hreaches
  exact (hrest.of_free hlonger.plain hfree).1

/-- A path leads to the node that has its last name, unless that is a link. -/
theorem find_eq (hlonger : GoesOn here path name longer)
    (hid : fs.named (directory, name) = some id) (hplain : ∀ target, fs.content id ≠ .link target)
    (hfind : fs.find here longer true = .ok other) : other = id :=
  (leads_of_find hfind).unique (h.down hlonger hid hplain)

end Leads

/-! ### Links at the end of a path -/

/-- Where a link at the end is not followed, a way leads to that link or to where it leads
anyway. -/
theorem reaches_or_link_of_walk (h : fs.walk false fuel links here names = .ok place) :
    fs.Reaches fuel links here names place ∨
      ∃ before last directory id target, names = before ++ [last] ∧
        fs.Reaches fuel links here before (.node directory) ∧
          fs.named (directory, last) = some id ∧ fs.content id = .link target ∧
            place = .node id := by
  induction fuel generalizing links here names with
  | zero => cases h
  | succ fuel ih =>
    cases walkStep_of_walk h with
    | here => exact .inl .here
    | stay hname hhere h =>
      rcases ih h with hreaches | ⟨before, last, directory, id, target, rfl, hbefore, hrest⟩
      · exact .inl (.stay hname hhere hreaches)
      · exact .inr ⟨_, last, directory, id, target, rfl, .stay hname hhere hbefore, hrest⟩
    | up hname hhere h =>
      rcases ih h with hreaches | ⟨before, last, directory, id, target, rfl, hbefore, hrest⟩
      · exact .inl (.up hname hhere hreaches)
      · exact .inr ⟨_, last, directory, id, target, rfl, .up hname hhere hbefore, hrest⟩
    | free hname hhere hfree hlast => exact .inl (.free hname hhere hfree hlast)
    | @link _ _ _ _ name _ names _ hname hid hlink hnames h =>
      rcases ih h with hreaches | ⟨before, last, directory, id, target, hall, hbefore, hrest⟩
      · exact .inl (.link hname hid hlink hreaches)
      · -- The link is on the way, so the last name stays the last one.
        obtain ⟨rest, final, rfl⟩ := (List.eq_nil_or_concat' names).resolve_left (hnames rfl)
        rw [← List.append_assoc] at hall
        obtain ⟨rfl, hfinal⟩ := List.append_inj' hall rfl
        exact .inr ⟨name :: rest, last, directory, id, target, hfinal ▸ rfl,
          .link hname hid hlink hbefore, hrest⟩
    | @last _ _ _ id name target _ hid hlink _ =>
      exact .inr ⟨[], name, here, id, target, rfl, .here, hid, hlink, rfl⟩
    | down hname hid hplain h =>
      rcases ih h with hreaches | ⟨before, last, directory, id, target, rfl, hbefore, hrest⟩
      · exact .inl (.down hname hid hplain hreaches)
      · exact .inr ⟨_, last, directory, id, target, rfl, .down hname hid hplain hbefore, hrest⟩

/-- A way that can be followed to the end can be followed without the link there. -/
theorem Reaches.exists_walk (h : fs.Reaches fuel links here names place)
    (hplace : place = .node id) :
    ∃ other, fs.walk false fuel links here names = .ok (.node other) := by
  induction h with
  | here => exact ⟨_, rfl⟩
  | stay hname hhere _ ih =>
    obtain ⟨other, hother⟩ := ih hplace
    exact ⟨other, by simp only [walk, content_of_isDirectory hhere, if_pos hname, hother]⟩
  | up hname hhere _ ih =>
    obtain ⟨other, hother⟩ := ih hplace
    obtain ⟨entries, hcontent, -⟩ := frame?_eq_some_iff.1 hhere
    subst hname
    exact ⟨other, by simp only [walk, hcontent, String.reduceEq, if_false, if_true, hother]⟩
  | free => cases hplace
  | @link fuel links here found name target names place hname hid hlink _ ih =>
    obtain ⟨other, hother⟩ := ih hplace
    obtain ⟨hone, htwo⟩ := isDots_eq_false_iff.1 hname
    have hhere : fs.isDirectory here = true := isDirectory_of_named hid
    change (fs.entries here).lookup name = some found at hid
    simp only [walk, content_of_isDirectory hhere, if_neg hone, if_neg htwo, hid, hlink]
    split
    · exact ⟨found, rfl⟩
    · simp only [Nat.add_one_ne_zero, if_false, Nat.add_sub_cancel]
      exact ⟨other, hother⟩
  | @down fuel links here found name names place hname hid hplain _ ih =>
    obtain ⟨other, hother⟩ := ih hplace
    obtain ⟨hone, htwo⟩ := isDots_eq_false_iff.1 hname
    have hhere : fs.isDirectory here = true := isDirectory_of_named hid
    change (fs.entries here).lookup name = some found at hid
    simp only [walk, content_of_isDirectory hhere, if_neg hone, if_neg htwo, hid]
    exact ⟨other, hother⟩

/-- What a path leads to can be looked at without following the link there. -/
theorem exists_find_of_find (h : fs.find here path true = .ok id) :
    ∃ other, fs.find here path false = .ok other := by
  obtain ⟨hpath, hreaches, hslash⟩ := locate_eq_ok_node_iff.1 (find_eq_ok_iff.1 h)
  cases hends : endsInSlash path with
  | true =>
    refine ⟨id, find_eq_ok_iff.2 ?_⟩
    rw [locate, if_neg hpath, hends]
    dsimp only
    rw [Bool.or_true, walk_of_reaches hreaches]
    simp only [hslash hends, Bool.not_true, Bool.and_false, Bool.false_eq_true, if_false]
  | false =>
    obtain ⟨other, hother⟩ := hreaches.exists_walk rfl
    refine ⟨other, find_eq_ok_iff.2 ?_⟩
    rw [locate, if_neg hpath, hends]
    dsimp only
    rw [Bool.or_false, hother]
    rfl

/-- A way that is followed to the end does not end at a link. -/
theorem Reaches.content_ne_link (h : fs.Reaches fuel links here names place) (hsound : fs.Sound)
    (hhere : fs.isDirectory here = true) (hplace : place = .node id) (target : String) :
    fs.content id ≠ .link target := by
  have hdirectory {id : NodeId} (hid : fs.isDirectory id = true) :
      fs.content id ≠ .link target := by
    rw [content_of_isDirectory hid]
    exact nofun
  induction h with
  | here =>
    cases hplace
    exact hdirectory hhere
  | stay _ _ _ ih => exact ih hhere hplace
  | up _ hframe _ ih => exact ih (hsound.parent _ _ _ hframe) hplace
  | free => cases hplace
  | link _ _ _ _ ih => exact ih (hsound.isDirectory_start hhere _) hplace
  | @down _ _ _ found _ _ _ _ _ hplain hrest ih =>
    cases hfound : fs.isDirectory found with
    | true => exact ih hfound hplace
    | false =>
      cases hplace.symm.trans (hrest.of_plain hfound)
      exact hplain target

/-- A path that leads to something else than a link leads there also when links are followed. -/
theorem find_follow (h : fs.find here path false = .ok id)
    (hplain : ∀ target, fs.content id ≠ .link target) : fs.find here path true = .ok id := by
  rw [find_eq_ok_iff, locate] at h
  rw [find_eq_ok_iff, locate_eq_ok_node_iff]
  split at h
  · cases h
  · rename_i hpath
    dsimp only at h
    refine ⟨hpath, ?_⟩
    cases hslash : endsInSlash path with
    | true =>
      rw [hslash, Bool.or_true] at h
      split at h
      · rename_i found hwalk
        split at h
        · cases h
        · rename_i hdirectory
          cases h
          rw [Bool.true_and, Bool.not_eq_true', Bool.not_eq_false] at hdirectory
          exact ⟨walk_eq_ok_iff.1 hwalk, fun _ ↦ hdirectory⟩
      · rename_i hother
        exact absurd h (hother id)
    | false =>
      rw [hslash, Bool.or_false] at h
      refine ⟨?_, nofun⟩
      split at h
      · rename_i found hwalk
        cases h
        rcases reaches_or_link_of_walk hwalk with
          hreaches | ⟨_, _, _, _, target, _, _, _, hlink, hfound⟩
        · exact hreaches
        · cases hfound
          exact absurd hlink (hplain target)
      · rename_i hother
        exact absurd h (hother id)

/-- What a link points to that has the last name of a path. -/
theorem Leads.content_of_readLink {longer text : String} (h : fs.Leads here path directory)
    (hsound : fs.Sound) (hhere : fs.isDirectory here = true)
    (hlonger : GoesOn here path name longer) (hslash : endsInSlash longer = false)
    (hid : fs.named (directory, name) = some id)
    (hread : fs.readLink here longer = .ok text) : fs.content id = .link text := by
  unfold FileSystem.readLink at hread
  obtain ⟨found, hfind, hread⟩ := exists_of_bind_ok hread
  split at hread
  · rename_i target hfound
    cases hread
    rw [find_eq_ok_iff, locate] at hfind
    obtain ⟨-, hfind⟩ := of_unless_ok hfind
    dsimp only at hfind
    rw [hslash, Bool.or_false] at hfind
    split at hfind
    · rename_i other hwalk
      cases hfind
      rcases reaches_or_link_of_walk hwalk with
        hreaches | ⟨before, last, holder, other, _, hnames, hbefore, hother, -, hsame⟩
      · exact absurd hfound (hreaches.content_ne_link hsound
          (hsound.isDirectory_start hhere longer) rfl text)
      · cases hsame
        rw [hlonger.pieces] at hnames
        obtain ⟨rfl, hlast⟩ := List.append_inj' hnames rfl
        cases hlast
        obtain ⟨fuel, links, h⟩ := h
        rw [hlonger.start] at hbefore
        cases hbefore.eq_of_reaches h
        cases hid.symm.trans hother
        exact hfound
    · rename_i hother
      exact absurd hfind (hother found)
  · cases hread

end Runbook.Sandbox.FileSystem
