import Mathlib.Data.List.Basic
import Mathlib.Data.List.Induction
import Mathlib.Data.Set.List
import Mathlib.Logic.Function.Iterate
import Runbook.Path.Basic
import Runbook.Proofs.Text.Line
/-!
# Where paths lead

A path leads somewhere whatever is found on the way, as long as no entry on it is a link: from the
root, or from the directory that relative paths start in, up some steps and then down through some
names. That is its `place`. Two paths with the same place are two spellings of one entry.

Places compose as paths are joined (`place_join`): the second path is followed from the place of the
first. `IsWithin` and `IsBelow` compare places by what can be told without looking at any entry.
A path without steps up and without a full stop at its start has one spelling, so its components
are known from its place (`components_eq_of_place_eq`).
-/

set_option autoImplicit false

namespace Runbook.Path

open Text

/-! ### Places -/

/-- What a place is counted from. -/
inductive Anchor where
  | root
  /-- The directory some steps above the one that relative paths start in. -/
  | above (steps : Nat)
deriving DecidableEq, Repr

/-- Where a path leads. -/
structure Place where
  anchor : Anchor
  /-- The names on the way down. -/
  names : List String
deriving DecidableEq, Repr

namespace Place

/-- Where relative paths start. -/
def here : Place := ⟨.above 0, []⟩

/-- The place above. Above the root is the root. -/
def up (place : Place) : Place :=
  if place.names = [] then
    match place.anchor with
    | .root => place
    | .above steps => ⟨.above (steps + 1), []⟩
  else ⟨place.anchor, place.names.dropLast⟩

/-- The place that some names lead to. -/
def down (place : Place) (names : List String) : Place := ⟨place.anchor, place.names ++ names⟩

/-- The place that a component leads to. -/
def step (place : Place) : Component → Place
  | .root => ⟨.root, []⟩
  | .current => place
  | .parent => place.up
  | .normal name => place.down [name]

/-- The place that another place is when it is counted from a place. -/
def append (place further : Place) : Place :=
  match further.anchor with
  | .root => further
  | .above steps => (up^[steps] place).down further.names

/-- A place is another one or can be told to be in it. -/
def IsWithin (place base : Place) : Prop :=
  place.anchor = base.anchor ∧ base.names <+: place.names ∨
    ∃ lower higher, place.anchor = .above lower ∧ base = ⟨.above higher, []⟩ ∧ lower < higher

/-- A place is not another one but can be told to be in it. -/
def IsBelow (place base : Place) : Prop := place.IsWithin base ∧ place ≠ base

theorem down_nil (place : Place) : place.down [] = place := by
  rw [down, List.append_nil]

theorem down_down (place : Place) (first second : List String) :
    (place.down first).down second = place.down (first ++ second) := by
  rw [down, down, down, List.append_assoc]

/-- One step up takes back one name. -/
theorem up_down_concat (place : Place) (names : List String) (name : String) :
    (place.down (names ++ [name])).up = place.down names := by
  rw [down, up, if_neg (by simp), ← List.append_assoc, List.dropLast_concat]
  rfl

theorem isWithin_refl (place : Place) : place.IsWithin place := .inl ⟨rfl, List.prefix_refl _⟩

/-- What is in a place stays in it on the way down. -/
theorem IsWithin.down {place base : Place} (h : place.IsWithin base) (names : List String) :
    (place.down names).IsWithin base :=
  h.imp (fun hnames ↦ ⟨hnames.1, hnames.2.trans (List.prefix_append _ _)⟩) fun hhigher ↦ hhigher

theorem IsWithin.trans {place middle base : Place} (h : place.IsWithin middle)
    (hmiddle : middle.IsWithin base) : place.IsWithin base := by
  rcases h with ⟨hanchor, hnames⟩ | ⟨lower, higher, hplace, rfl, hlt⟩
  · rcases hmiddle with ⟨hsame, hrest⟩ | ⟨lower, higher, hlower, hbase, hlt⟩
    · exact .inl ⟨hanchor.trans hsame, hrest.trans hnames⟩
    · exact .inr ⟨lower, higher, hanchor.trans hlower, hbase, hlt⟩
  · rcases hmiddle with ⟨hsame, hrest⟩ | ⟨middle, highest, hmiddle, hbase, hlater⟩
    · obtain ⟨anchor, names⟩ := base
      obtain rfl := List.prefix_nil.1 hrest
      cases hsame
      exact .inr ⟨lower, higher, hplace, rfl, hlt⟩
    · cases hmiddle
      exact .inr ⟨lower, highest, hplace, hbase, hlt.trans hlater⟩

/-- Of two places that one place is in, one is in the other. -/
theorem IsWithin.total {place first second : Place} (hfirst : place.IsWithin first)
    (hsecond : place.IsWithin second) : first.IsWithin second ∨ second.IsWithin first := by
  rcases hfirst with ⟨hanchor, hnames⟩ | ⟨lower, higher, hplace, rfl, hlt⟩
  · rcases hsecond with ⟨hsame, hothers⟩ | ⟨lower, higher, hplace, hbase, hlt⟩
    · rcases List.prefix_or_prefix_of_prefix hothers hnames with hprefix | hprefix
      · exact .inl (.inl ⟨hanchor.symm.trans hsame, hprefix⟩)
      · exact .inr (.inl ⟨hsame.symm.trans hanchor, hprefix⟩)
    · exact .inl (.inr ⟨lower, higher, hanchor.symm.trans hplace, hbase, hlt⟩)
  · rcases hsecond with ⟨hsame, -⟩ | ⟨low, highest, hlow, rfl, hless⟩
    · exact .inr (.inr ⟨lower, higher, hsame.symm.trans hplace, rfl, hlt⟩)
    · rcases Nat.lt_trichotomy higher highest with hlater | rfl | hlater
      · exact .inl (.inr ⟨higher, highest, rfl, rfl, hlater⟩)
      · exact .inl (isWithin_refl _)
      · exact .inr (.inr ⟨highest, higher, rfl, rfl, hlater⟩)

/-- Some names lead into what others lead to when they begin with them. -/
theorem isWithin_down_iff {place : Place} {names others : List String} (h : others ≠ []) :
    (place.down names).IsWithin (place.down others) ↔ others <+: names := by
  constructor
  · rintro (⟨-, hnames⟩ | ⟨lower, higher, -, hbase, -⟩)
    · exact (List.prefix_append_right_inj place.names).1 hnames
    · exact absurd (List.append_eq_nil_iff.1 (congrArg Place.names hbase)).2 h
  · exact fun hnames ↦ .inl ⟨rfl, (List.prefix_append_right_inj place.names).2 hnames⟩

theorem up_of_names_eq_nil {steps : Nat} {place : Place} (h : place = ⟨.above steps, []⟩) :
    place.up = ⟨.above (steps + 1), []⟩ := by
  rw [h]
  rfl

theorem iterate_up_here (steps : Nat) : up^[steps] here = ⟨.above steps, []⟩ := by
  induction steps with
  | zero => rfl
  | succ steps ih => rw [Function.iterate_succ_apply', up_of_names_eq_nil ih]

theorem here_append (place : Place) : here.append place = place := by
  obtain ⟨_ | steps, names⟩ := place
  · rfl
  · rw [append]
    simp only [iterate_up_here]
    rfl

/-- A step from a place that is counted from another one. -/
theorem append_step (place further : Place) (component : Component) :
    place.append (further.step component) = (place.append further).step component := by
  obtain ⟨anchor, names⟩ := further
  cases component with
  | root => rfl
  | current => rfl
  | normal name =>
    cases anchor with
    | root => rfl
    | above steps => exact (down_down _ _ _).symm
  | parent =>
    rcases List.eq_nil_or_concat' names with rfl | ⟨before, last, rfl⟩
    · cases anchor with
      | root => rfl
      | above steps =>
        change (up^[steps + 1] place).down [] = ((up^[steps] place).down []).up
        rw [down_nil, down_nil, Function.iterate_succ_apply']
    · have hup : step ⟨anchor, before ++ [last]⟩ .parent = ⟨anchor, before⟩ :=
        up_down_concat ⟨anchor, []⟩ before last
      rw [hup]
      cases anchor with
      | root => exact hup.symm
      | above steps => exact (up_down_concat _ before last).symm

/-- Components that are followed from a place. -/
theorem foldl_step (components : List Component) (place : Place) :
    components.foldl step place = place.append (components.foldl step here) := by
  induction components using List.reverseRecOn with
  | nil => exact (down_nil place).symm
  | append_singleton components last ih =>
    rw [List.foldl_append, List.foldl_append, ih]
    exact (append_step place _ last).symm

end Place

/-- The place that a path leads to. -/
def place (path : String) : Place := (components path).foldl Place.step .here

/-! ### Components -/

/-- The start of a path among its components. -/
def start (path : String) : List Component :=
  if isAbsolute path then [Component.root]
  else if (splitAt '/' path.toList).head? = some ['.'] then [Component.current] else []

/-- The components of a path but for its start. -/
def pieces (path : String) : List Component :=
  (splitAt '/' path.toList).filterMap Component.ofPiece?

theorem components_eq (path : String) : components path = start path ++ pieces path := rfl

/-- The start of a path that is cut at a slash depends on what stands before the slash. -/
theorem start_eq {path : String} {before after : List Char}
    (h : path.toList = before ++ '/' :: after) :
    start path = if before = [] then [Component.root] else start (String.ofList before) := by
  split
  · next hbefore =>
    subst hbefore
    rw [start, if_pos (by rw [isAbsolute, h]; rfl)]
  · next hbefore =>
    have hhead : (splitAt '/' (before ++ '/' :: after)).head? = (splitAt '/' before).head? := by
      rw [splitAt_append_cons, List.head?_append_of_ne_nil _ (splitAt_ne_nil '/' before)]
    have habsolute : isAbsolute path = isAbsolute (String.ofList before) := by
      rw [isAbsolute, isAbsolute, h, String.toList_ofList, List.head?_append_of_ne_nil _ hbefore]
    rw [start, start, habsolute, h, hhead, String.toList_ofList]

/-- The pieces of a path that is cut at a slash. -/
theorem pieces_eq {path : String} {before after : List Char}
    (h : path.toList = before ++ '/' :: after) :
    pieces path = pieces (String.ofList before) ++ pieces (String.ofList after) := by
  simp only [pieces, h, String.toList_ofList, splitAt_append_cons, List.filterMap_append]

theorem empty_join (path : String) : join "" path = path := by
  rw [join]
  split
  · rfl
  · exact String.empty_append

/-- The components of a path below another one. -/
theorem components_join {base path : String} (hbase : base ≠ "") (h : isAbsolute path = false) :
    components (join base path) = components base ++ pieces path := by
  rw [join, if_neg (by rw [h]; exact Bool.false_ne_true), components_eq, components_eq,
    List.append_assoc]
  split
  · next hslash =>
    rw [Bool.or_eq_true, String.isEmpty_iff, or_iff_right hbase, decide_eq_true_iff] at hslash
    obtain ⟨before, hbefore⟩ := List.getLast?_eq_some_iff.1 hslash
    have hjoined : (base ++ path).toList = before ++ '/' :: path.toList := by
      rw [String.toList_append, hbefore, List.append_assoc, List.singleton_append]
    have hnone : pieces (String.ofList []) = [] := rfl
    rw [start_eq hjoined, start_eq hbefore, pieces_eq hjoined, pieces_eq hbefore,
      String.ofList_toList, hnone, List.append_nil]
  · have hjoined : (base ++ "/" ++ path).toList = base.toList ++ '/' :: path.toList := by
      rw [String.toList_append, String.toList_append, List.append_assoc]
      rfl
    have hne : base.toList ≠ [] := fun hnil ↦ hbase (String.toList_eq_nil_iff.1 hnil)
    rw [start_eq hjoined, pieces_eq hjoined, if_neg hne, String.ofList_toList,
      String.ofList_toList]

/-- The components of a path that leads down from the root along some texts. -/
theorem components_intercalate (texts : List String) :
    components ("/" ++ "/".intercalate texts) = .root :: texts.flatMap pieces := by
  have hpieces (texts : List String) : pieces ("/".intercalate texts) = texts.flatMap pieces := by
    induction texts with
    | nil => rfl
    | cons text texts ih =>
      cases texts with
      | nil => exact (List.flatMap_singleton _ _).symm
      | cons next texts =>
        have htext : ("/".intercalate (text :: next :: texts)).toList =
            text.toList ++ '/' :: ("/".intercalate (next :: texts)).toList := by
          rw [String.intercalate_cons_cons, String.toList_append, String.toList_append,
            List.append_assoc]
          rfl
        rw [pieces_eq htext, String.ofList_toList, String.ofList_toList, ih]
        exact List.flatMap_cons.symm
  have habsolute : ("/" ++ "/".intercalate texts).toList =
      [] ++ '/' :: ("/".intercalate texts).toList := String.toList_append
  have hnone : pieces (String.ofList []) = [] := rfl
  rw [components_eq, start_eq habsolute, if_pos rfl, pieces_eq habsolute, hnone,
    String.ofList_toList, hpieces]
  rfl

/-! ### Places of paths -/

/-- A path is followed from the place of the path that it is put below. -/
theorem place_join (base path : String) :
    place (join base path) = (place base).append (place path) := by
  have hfollowed : (place base).append (place path) =
      (components path).foldl Place.step (place base) := (Place.foldl_step _ _).symm
  by_cases habsolute : isAbsolute path = true
  · rw [hfollowed, join, if_pos habsolute, place, components_eq, start, if_pos habsolute]
    rfl
  · rw [Bool.not_eq_true] at habsolute
    by_cases hbase : base = ""
    · subst hbase
      rw [empty_join]
      exact (Place.here_append _).symm
    · have hstart : (start path).foldl Place.step (place base) = place base := by
        rw [start, if_neg (by rw [habsolute]; exact Bool.false_ne_true)]
        split <;> rfl
      rw [hfollowed, place, components_join hbase habsolute, components_eq path, List.foldl_append,
        List.foldl_append, ← place, hstart]

theorem foldl_normal (names : List String) (place : Place) :
    (names.map Component.normal).foldl Place.step place = place.down names := by
  induction names generalizing place with
  | nil => exact (place.down_nil).symm
  | cons name names ih => exact (ih _).trans (place.down_down [name] names)

theorem down_injective {place : Place} {first second : List String}
    (h : place.down first = place.down second) : first = second :=
  List.append_cancel_left (congrArg Place.names h)

/-- The pieces of a path without steps up are names. -/
theorem exists_pieces_eq {path : String} (h : Component.parent ∉ components path) :
    ∃ names : List String, pieces path = names.map Component.normal := by
  have hpieces : ∀ component ∈ pieces path, ∃ name, Component.normal name = component := by
    intro component hcomponent
    have hne : component ≠ .parent := fun hparent ↦
      h (List.mem_append_right _ (hparent ▸ hcomponent))
    obtain ⟨piece, -, hpiece⟩ := List.mem_filterMap.1 hcomponent
    unfold Component.ofPiece? at hpiece
    split at hpiece
    · cases hpiece
    · split at hpiece
      · cases hpiece
        exact absurd rfl hne
      · cases hpiece
        exact ⟨_, rfl⟩
  obtain ⟨names, hnames⟩ : pieces path ∈ Set.range (List.map Component.normal) := by
    rw [Set.range_list_map]
    exact hpieces
  exact ⟨names, hnames.symm⟩

theorem place_of_pieces {path : String} {names : List String}
    (h : pieces path = names.map Component.normal) :
    place path = ⟨if isAbsolute path then .root else .above 0, names⟩ := by
  rw [place, components_eq, h, List.foldl_append, foldl_normal, start]
  split
  · rfl
  · split <;> rfl

/-- A path without full stops as components, so that it is followed down only. -/
structure IsDirect (path : String) : Prop where
  parent_notMem : Component.parent ∉ components path
  current_notMem : Component.current ∉ components path

theorem IsDirect.start_eq {path : String} (h : IsDirect path) :
    start path = if isAbsolute path then [Component.root] else [] := by
  have hstart : Component.current ∉ start path := fun hmem ↦
    h.current_notMem (List.mem_append_left _ hmem)
  rw [start] at hstart ⊢
  split
  · rfl
  · split
    · next habsolute hcurrent =>
      rw [if_neg habsolute, if_pos hcurrent] at hstart
      exact absurd List.mem_cons_self hstart
    · rfl

/-- Paths that go on in names after one start have one spelling. -/
theorem components_eq_of_append {path other : String} {before : List Component}
    {names others : List String} (hpath : components path = before ++ names.map Component.normal)
    (hother : components other = before ++ others.map Component.normal)
    (h : place path = place other) : components path = components other := by
  rw [place, place, hpath, hother, List.foldl_append, List.foldl_append, foldl_normal,
    foldl_normal] at h
  rw [hpath, hother, down_injective h]

/-- A path that is followed down only has one spelling. -/
theorem components_eq_of_place_eq {path other : String} (hpath : IsDirect path)
    (hother : IsDirect other) (h : place path = place other) :
    components path = components other := by
  obtain ⟨names, hnames⟩ := exists_pieces_eq hpath.parent_notMem
  obtain ⟨others, hothers⟩ := exists_pieces_eq hother.parent_notMem
  have hanchor := congrArg Place.anchor h
  rw [place_of_pieces hnames, place_of_pieces hothers] at hanchor
  have hstart : start path = start other := by
    rw [hpath.start_eq, hother.start_eq]
    cases hfirst : isAbsolute path with
    | false =>
      cases hsecond : isAbsolute other with
      | false => rfl
      | true =>
        rw [hfirst, hsecond] at hanchor
        cases hanchor
    | true =>
      cases hsecond : isAbsolute other with
      | false =>
        rw [hfirst, hsecond] at hanchor
        cases hanchor
      | true => rfl
  have hcomponents : components path = start path ++ names.map Component.normal := by
    rw [components_eq, hnames]
  have hothersComponents : components other = start path ++ others.map Component.normal := by
    rw [components_eq, hothers, hstart]
  exact components_eq_of_append hcomponents hothersComponents h

/-- A path below another one that is not followed up. -/
theorem exists_components_join_eq {base path : String} (hbase : base ≠ "")
    (h : isAbsolute path = false) (hup : Component.parent ∉ components path) :
    ∃ names : List String, components (join base path) =
      components base ++ names.map Component.normal := by
  obtain ⟨names, hnames⟩ := exists_pieces_eq hup
  exact ⟨names, by rw [components_join hbase h, hnames]⟩

/-! ### Plain paths -/

/-- A path whose only component is a name. -/
def IsPlain (path : String) : Prop := ∃ name, components path = [Component.normal name]

theorem IsPlain.exists_place_eq {path : String} (h : IsPlain path) :
    ∃ name, place path = ⟨.above 0, [name]⟩ := by
  obtain ⟨name, hname⟩ := h
  exact ⟨name, by rw [place, hname]; rfl⟩

theorem IsPlain.exists_place_join_eq {path : String} (h : IsPlain path) (base : String) :
    ∃ name, place (join base path) = (place base).down [name] := by
  obtain ⟨name, hname⟩ := h.exists_place_eq
  exact ⟨name, by rw [place_join, hname]; rfl⟩

/-- A piece that does not end in a full stop is a name. -/
theorem ofPiece?_concat (text : List Char) {c : Char} (h : c ≠ '.') :
    Component.ofPiece? (text ++ [c]) = some (.normal (String.ofList (text ++ [c]))) := by
  have hends : ∀ other : List Char, other.getLast? = some '.' → text ++ [c] ≠ other := by
    rintro other hother rfl
    rw [List.getLast?_concat] at hother
    exact h (Option.some.inj hother)
  have hnil : text ++ [c] ≠ [] := List.append_ne_nil_of_right_ne_nil _ (List.cons_ne_nil _ _)
  rw [Component.ofPiece?, if_neg (not_or.2 ⟨hnil, hends _ rfl⟩), if_neg (hends _ rfl)]

/-- A path without slashes has at most one component. -/
theorem components_of_slash_notMem {path : String} (h : '/' ∉ path.toList) :
    components path = (if path.toList = ['.'] then [Component.current] else []) ++
      (Component.ofPiece? path.toList).toList := by
  have habsolute : isAbsolute path = false :=
    decide_eq_false fun hhead ↦ h (List.mem_of_head? hhead)
  rw [components_eq, start, pieces, splitAt_of_not_mem h, habsolute]
  cases hpiece : Component.ofPiece? path.toList <;> simp [hpiece]

/-- A name that an entry of a directory can have. -/
structure IsEntryName (name : String) : Prop where
  slash_notMem : '/' ∉ name.toList
  ne : name ∉ ["", ".", ".."]

namespace IsEntryName

variable {name : String}

theorem isAbsolute_eq (h : IsEntryName name) : isAbsolute name = false :=
  decide_eq_false fun hhead ↦ h.slash_notMem (List.mem_of_head? hhead)

theorem ne_empty (h : IsEntryName name) : name ≠ "" :=
  fun hempty ↦ h.ne (hempty ▸ List.mem_cons_self)

theorem toList_ne {text : String} (h : IsEntryName name) (htext : text ∈ ["", ".", ".."]) :
    name.toList ≠ text.toList :=
  fun hsame ↦ h.ne (String.toList_injective hsame ▸ htext)

theorem ofPiece?_eq (h : IsEntryName name) :
    Component.ofPiece? name.toList = some (.normal name) := by
  have hempty : name.toList ≠ [] := h.toList_ne List.mem_cons_self
  have hone : name.toList ≠ ['.'] := h.toList_ne (List.mem_cons_of_mem _ List.mem_cons_self)
  have htwo : name.toList ≠ ['.', '.'] := h.toList_ne (List.mem_of_getLast? rfl)
  rw [Component.ofPiece?, if_neg (not_or.2 ⟨hempty, hone⟩), if_neg htwo, String.ofList_toList]

theorem pieces_eq (h : IsEntryName name) : pieces name = [.normal name] := by
  rw [pieces, splitAt_of_not_mem h.slash_notMem, List.filterMap_cons_some h.ofPiece?_eq,
    List.filterMap_nil]

theorem components_eq (h : IsEntryName name) : components name = [.normal name] := by
  have hone : name.toList ≠ ['.'] := h.toList_ne (List.mem_cons_of_mem _ List.mem_cons_self)
  rw [components_of_slash_notMem h.slash_notMem, if_neg hone, h.ofPiece?_eq]
  rfl

theorem place_eq (h : IsEntryName name) : place name = ⟨.above 0, [name]⟩ := by
  rw [place, h.components_eq]
  rfl

end IsEntryName

/-- A plain path without slashes is a name that an entry can have. -/
theorem IsPlain.isEntryName {path : String} (h : IsPlain path) (hslash : '/' ∉ path.toList) :
    IsEntryName path := by
  refine ⟨hslash, fun hin ↦ ?_⟩
  have hnone : ∀ text ∈ ["", ".", ".."], ∀ name, components text ≠ [.normal name] := by
    refine List.forall_mem_cons.2 ⟨nofun, List.forall_mem_cons.2 ⟨nofun,
      List.forall_mem_singleton.2 nofun⟩⟩
  obtain ⟨name, hname⟩ := h
  exact hnone path hin name hname

/-- A path without slashes that does not end in a full stop is plain. -/
theorem isPlain_of_slash_notMem {path : String} (h : '/' ∉ path.toList) {text : List Char}
    {c : Char} (hlast : path.toList = text ++ [c]) (hstop : c ≠ '.') : IsPlain path := by
  have hone : path.toList ≠ ['.'] := fun hone ↦
    hstop (List.singleton_inj.1 (List.append_inj' (hlast.symm.trans hone : _ = [] ++ _) rfl).2)
  refine ⟨path, ?_⟩
  rw [components_of_slash_notMem h, if_neg hone, hlast, ofPiece?_concat text hstop, ← hlast,
    String.ofList_toList]
  rfl

/-- A path that ends in neither a slash nor a full stop has pieces. -/
theorem pieces_ne_nil {path : String} {text : List Char} {c : Char}
    (hlast : path.toList = text ++ [c]) (hslash : c ≠ '/') (hstop : c ≠ '.') :
    pieces path ≠ [] := by
  obtain ⟨piece, hpiece⟩ := exists_concat_mem_splitAt hslash text
  rw [pieces, hlast]
  exact List.ne_nil_of_mem (List.mem_filterMap.2 ⟨_, hpiece, ofPiece?_concat piece hstop⟩)

/-- A plain path has no slash, unless it ends in one or in a full stop. -/
theorem IsPlain.slash_notMem {path : String} (h : IsPlain path) {text : List Char} {c : Char}
    (hlast : path.toList = text ++ [c]) (hslash : c ≠ '/') (hstop : c ≠ '.') :
    '/' ∉ path.toList := by
  intro hmem
  obtain ⟨name, hname⟩ := h
  obtain ⟨before, after, hsplit, hbefore⟩ := List.eq_append_cons_of_mem hmem
  have hafter : pieces (String.ofList after) ≠ [] := by
    rcases List.eq_nil_or_concat' after with rfl | ⟨rest, last, rfl⟩
    · have hends := (List.append_inj' (hlast.symm.trans hsplit) rfl).2
      exact absurd (List.singleton_inj.1 hends) hslash
    · rw [← List.cons_append, ← List.append_assoc, hlast] at hsplit
      obtain rfl := List.singleton_inj.1 (List.append_inj' hsplit rfl).2
      exact pieces_ne_nil String.toList_ofList hslash hstop
  rw [components_eq, start_eq hsplit, pieces_eq hsplit, ← List.append_assoc] at hname
  -- The name is the last piece, so nothing is left for what stands before the slash.
  rcases List.append_eq_singleton_iff.1 hname with ⟨hfirst, -⟩ | ⟨-, hlater⟩
  · split at hfirst
    · cases hfirst
    · next hne =>
      rw [← components_eq, components_of_slash_notMem (by rwa [String.toList_ofList]),
        String.toList_ofList, List.append_eq_nil_iff, Component.ofPiece?] at hfirst
      obtain ⟨hstart, hpiece⟩ := hfirst
      split at hpiece
      · next hshort =>
        rw [if_pos (hshort.resolve_left hne)] at hstart
        cases hstart
      · split at hpiece <;> cases hpiece
  · exact hafter hlater

end Runbook.Path
