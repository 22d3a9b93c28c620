import Mathlib.Data.List.Lex
import Mathlib.Data.List.Nodup
import Mathlib.Data.List.Pairwise
import Mathlib.Data.Prod.Lex
import Mathlib.Data.String.Basic
import Runbook.Build.Progress
/-!
# Lineages

The lineages of chapters have the chapters of each directory together, in order: `Grouped` says that
every lineage holds exactly the chapters of its directory, that every chapter has a lineage, and
that no two lineages have the same directory. `lineages_grouped` is shown by adding one chapter
after the other.

A chapter is added to the first lineage with its directory, or as a lineage of its own before the
first one whose directory comes later. That there is none with its directory further on rests on the
order of the lineages. Directories are compared by their components, and `Path.sortKey` puts this
order down to that of numbers, texts and lists.
-/

set_option autoImplicit false

namespace Runbook

/-! ### The order of paths -/

namespace Path

/-- The place of a component in the order of components: its kind and then its text. -/
def Component.sortKey (component : Component) : Nat ×ₗ String :=
  toLex (component.rank, component.text)

theorem Component.sortKey_injective : Function.Injective Component.sortKey := by
  intro first second h
  have hboth := toLex.injective h
  cases first <;> cases second <;> simp_all [Component.rank, Component.text]

theorem Component.isBefore_iff {first second : Component} :
    first.isBefore second = true ↔ first.sortKey < second.sortKey := by
  unfold Component.isBefore Component.sortKey
  rw [Prod.Lex.toLex_lt_toLex]
  split
  · next hrank => simp [hrank]
  · next hrank => simp [hrank]

theorem componentsBefore_iff {first second : List Component} :
    componentsBefore first second = true ↔
      first.map Component.sortKey < second.map Component.sortKey := by
  induction first generalizing second with
  | nil => cases second <;> simp [componentsBefore]
  | cons a first ih =>
    cases second with
    | nil => simp [componentsBefore]
    | cons b second =>
      rw [componentsBefore, List.map_cons, List.map_cons, List.cons_lt_cons_iff]
      split
      · next hsame => simp [hsame, ih]
      · next hdiffer => simp [Component.isBefore_iff, Component.sortKey_injective.ne hdiffer]

/-- The place of a path in the order of paths. -/
def sortKey (path : String) : List (Nat ×ₗ String) := (components path).map Component.sortKey

theorem isBefore_iff {first second : String} :
    isBefore first second = true ↔ sortKey first < sortKey second :=
  componentsBefore_iff

theorem sortKey_eq_iff {first second : String} :
    sortKey first = sortKey second ↔ components first = components second :=
  (List.map_injective_iff.2 Component.sortKey_injective).eq_iff

end Path

namespace Build

/-! ### Numbered chapters -/

section Numbered

variable {index : Nat} {chapters : List Chapter} {numbered : Numbered}

theorem mem_numberedFrom_iff : numbered ∈ numberedFrom index chapters ↔
    ∃ place, numbered.index = index + place ∧ chapters[place]? = some numbered.chapter := by
  induction chapters generalizing index with
  | nil => simp [numberedFrom]
  | cons chapter chapters ih =>
    rw [numberedFrom, List.mem_cons, ih]
    constructor
    · rintro (rfl | ⟨place, hindex, hchapter⟩)
      · exact ⟨0, rfl, rfl⟩
      · exact ⟨place + 1, by omega, hchapter⟩
    · rintro ⟨_ | place, hindex, hchapter⟩
      · left
        obtain ⟨number, found⟩ := numbered
        cases hchapter
        exact congrArg (Numbered.mk · found) hindex
      · exact .inr ⟨place, by omega, hchapter⟩

theorem length_numberedFrom (index : Nat) (chapters : List Chapter) :
    (numberedFrom index chapters).length = chapters.length := by
  induction chapters generalizing index with
  | nil => rfl
  | cons chapter chapters ih => exact congrArg (· + 1) (ih (index + 1))

theorem getElem?_numberedFrom (index : Nat) (chapters : List Chapter) (place : Nat) :
    (numberedFrom index chapters)[place]? = chapters[place]?.map (Numbered.mk (index + place)) := by
  induction chapters generalizing index place with
  | nil => rfl
  | cons chapter chapters ih =>
    cases place with
    | zero => rfl
    | succ place =>
      have hindex : index + 1 + place = index + (place + 1) := by omega
      have hrest := ih (index + 1) place
      rw [hindex] at hrest
      exact hrest

/-- Chapters are numbered in order. -/
theorem numberedFrom_pairwise (index : Nat) (chapters : List Chapter) :
    (numberedFrom index chapters).Pairwise fun first second ↦ first.index < second.index := by
  induction chapters generalizing index with
  | nil => exact .nil
  | cons chapter chapters ih =>
    refine List.pairwise_cons.2 ⟨fun later hlater ↦ ?_, ih (index + 1)⟩
    obtain ⟨place, hplace, -⟩ := mem_numberedFrom_iff.1 hlater
    change index < later.index
    omega

end Numbered

/-! ### Groups -/

/-- A chapter is run in the directory of a lineage. -/
def Lineage.Owns (lineage : Lineage) (numbered : Numbered) : Prop :=
  Path.components numbered.chapter.workdir = Path.components lineage.workdir

instance (lineage : Lineage) : DecidablePred lineage.Owns := fun _ ↦
  inferInstanceAs (Decidable (_ = _))

/-- Lineages in the order of their directories, no two with the same. -/
def Ordered (groups : List Lineage) : Prop :=
  groups.Pairwise fun first second ↦ Path.sortKey first.workdir < Path.sortKey second.workdir

/-- The lineages that hold some chapters, each of them those of its directory, in order. -/
structure Grouped (added : List Numbered) (groups : List Lineage) : Prop where
  ordered : Ordered groups
  chapters_eq : ∀ lineage ∈ groups, lineage.chapters = added.filter fun numbered ↦
    lineage.Owns numbered
  complete : ∀ numbered ∈ added, ∃ lineage ∈ groups, lineage.Owns numbered

section Groups

variable {added : List Numbered} {groups : List Lineage} {lineage other : Lineage}
  {numbered : Numbered}

/-- Of ordered lineages one at most owns a chapter. -/
theorem Ordered.eq_of_owns (h : Ordered groups) (hlineage : lineage ∈ groups)
    (hother : other ∈ groups) (howns : lineage.Owns numbered) (hotherOwns : other.Owns numbered) :
    lineage = other := by
  have hkey : Path.sortKey lineage.workdir = Path.sortKey other.workdir :=
    Path.sortKey_eq_iff.2 (howns.symm.trans hotherOwns)
  obtain ⟨place, hplace, rfl⟩ := List.getElem_of_mem hlineage
  obtain ⟨second, hsecond, rfl⟩ := List.getElem_of_mem hother
  rcases lt_trichotomy place second with hlt | rfl | hlt
  · exact absurd hkey (List.pairwise_iff_getElem.1 h place second hplace hsecond hlt).ne
  · rfl
  · exact absurd hkey (List.pairwise_iff_getElem.1 h second place hsecond hplace hlt).ne'

/-- A chapter is added to the lineage that owns it, or between the lineages of the directories
before and after its own when there is none. -/
theorem add_cases (h : Ordered groups) (numbered : Numbered) :
    (∃ before lineage after, groups = before ++ lineage :: after ∧ lineage.Owns numbered ∧
      Lineage.add numbered groups =
        before ++ { lineage with chapters := lineage.chapters ++ [numbered] } :: after) ∨
    ∃ before after, groups = before ++ after ∧ (∀ lineage ∈ groups, ¬lineage.Owns numbered) ∧
      Lineage.add numbered groups =
        before ++ ⟨numbered.chapter.workdir, [numbered]⟩ :: after ∧
      Ordered (Lineage.add numbered groups) := by
  induction groups with
  | nil => exact .inr ⟨[], [], rfl, nofun, rfl, List.pairwise_singleton _ _⟩
  | cons first rest ih =>
    obtain ⟨hfirst, hrest⟩ := List.pairwise_cons.1 h
    rw [Lineage.add]
    split
    · next howns => exact .inl ⟨[], first, rest, rfl, howns, rfl⟩
    · next howns =>
      split
      · next hbefore =>
        -- No later lineage owns the chapter, since its directory comes before theirs.
        have hkey := Path.isBefore_iff.1 hbefore
        have hlater : ∀ lineage ∈ first :: rest,
            Path.sortKey numbered.chapter.workdir < Path.sortKey lineage.workdir := by
          intro lineage hlineage
          rcases List.mem_cons.1 hlineage with rfl | hlineage
          · exact hkey
          · exact hkey.trans (hfirst lineage hlineage)
        exact .inr ⟨[], first :: rest, rfl,
          fun lineage hlineage hsame ↦ (hlater lineage hlineage).ne (Path.sortKey_eq_iff.2 hsame),
          rfl, List.pairwise_cons.2 ⟨hlater, h⟩⟩
      · next hbefore =>
        have hkey : Path.sortKey first.workdir < Path.sortKey numbered.chapter.workdir := by
          have hle := not_lt.1 fun hlt ↦ hbefore (Path.isBefore_iff.2 hlt)
          exact lt_of_le_of_ne hle fun hsame ↦ howns (Path.sortKey_eq_iff.1 hsame).symm
        rcases ih hrest with ⟨before, lineage, after, rfl, hlineage, hadd⟩ |
          ⟨before, after, rfl, hnone, hadd, hordered⟩
        · exact .inl ⟨first :: before, lineage, after, rfl, hlineage, congrArg (first :: ·) hadd⟩
        · refine .inr ⟨first :: before, after, rfl, ?_, congrArg (first :: ·) hadd, ?_⟩
          · intro lineage hlineage
            rcases List.mem_cons.1 hlineage with rfl | hlineage
            · exact howns
            · exact hnone lineage hlineage
          · refine List.pairwise_cons.2 ⟨fun lineage hlineage ↦ ?_, hordered⟩
            rw [hadd] at hlineage
            rcases List.mem_append.1 hlineage with hlineage | hlineage
            · exact hfirst lineage (List.mem_append_left _ hlineage)
            · rcases List.mem_cons.1 hlineage with rfl | hlineage
              · exact hkey
              · exact hfirst lineage (List.mem_append_right _ hlineage)

theorem grouped_nil : Grouped [] [] := ⟨.nil, nofun, nofun⟩

/-- A lineage that does not own the chapter that is added keeps its chapters. -/
theorem Grouped.chapters_eq_concat (h : Grouped added groups) (hlineage : lineage ∈ groups)
    (howns : ¬lineage.Owns numbered) :
    lineage.chapters = (added ++ [numbered]).filter fun other ↦ lineage.Owns other := by
  rw [List.filter_append, ← h.chapters_eq lineage hlineage, List.filter_cons_of_neg (by simpa),
    List.filter_nil, List.append_nil]

/-- A lineage that owns the chapter that is added grows by it and the others stay as they are. -/
theorem Grouped.grow {before after : List Lineage}
    (h : Grouped added (before ++ lineage :: after)) (howns : lineage.Owns numbered) :
    Grouped (added ++ [numbered])
      (before ++ { lineage with chapters := lineage.chapters ++ [numbered] } :: after) := by
  obtain ⟨hbefore, hrest, hcross⟩ := List.pairwise_append.1 h.ordered
  obtain ⟨hlineage, hafter⟩ := List.pairwise_cons.1 hrest
  refine ⟨?_, fun other hother ↦ ?_, fun other hother ↦ ?_⟩
  · refine List.pairwise_append.2 ⟨hbefore, List.pairwise_cons.2 ⟨hlineage, hafter⟩, ?_⟩
    intro first hfirst second hsecond
    rcases List.mem_cons.1 hsecond with rfl | hsecond
    · exact hcross first hfirst lineage List.mem_cons_self
    · exact hcross first hfirst second (List.mem_cons_of_mem _ hsecond)
  · rcases List.mem_append.1 hother with hother | hother
    · refine h.chapters_eq_concat (List.mem_append_left _ hother) fun hsame ↦ ?_
      exact (hcross other hother lineage List.mem_cons_self).ne
        (Path.sortKey_eq_iff.2 (hsame.symm.trans howns))
    rcases List.mem_cons.1 hother with rfl | hother
    · have hchapters := h.chapters_eq lineage (List.mem_append_right _ List.mem_cons_self)
      change lineage.chapters ++ [numbered] =
        (added ++ [numbered]).filter fun other ↦ lineage.Owns other
      rw [List.filter_append, ← hchapters, List.filter_cons_of_pos (by simpa), List.filter_nil]
    · refine h.chapters_eq_concat
        (List.mem_append_right _ (List.mem_cons_of_mem _ hother)) fun hsame ↦ ?_
      exact (hlineage other hother).ne (Path.sortKey_eq_iff.2 (howns.symm.trans hsame))
  · rcases List.mem_append.1 hother with hother | hother
    · obtain ⟨owner, howner, hother⟩ := h.complete other hother
      rcases List.mem_append.1 howner with howner | howner
      · exact ⟨owner, List.mem_append_left _ howner, hother⟩
      rcases List.mem_cons.1 howner with rfl | howner
      · exact ⟨_, List.mem_append_right _ List.mem_cons_self, hother⟩
      · exact ⟨owner, List.mem_append_right _ (List.mem_cons_of_mem _ howner), hother⟩
    · obtain rfl := List.mem_singleton.1 hother
      exact ⟨_, List.mem_append_right _ List.mem_cons_self, howns⟩

/-- A chapter that no lineage owns gets one of its own. -/
theorem Grouped.insert {before after : List Lineage} (h : Grouped added (before ++ after))
    (hnone : ∀ lineage ∈ before ++ after, ¬lineage.Owns numbered)
    (hordered : Ordered (before ++ ⟨numbered.chapter.workdir, [numbered]⟩ :: after)) :
    Grouped (added ++ [numbered])
      (before ++ ⟨numbered.chapter.workdir, [numbered]⟩ :: after) := by
  have howns : Lineage.Owns ⟨numbered.chapter.workdir, [numbered]⟩ numbered := rfl
  refine ⟨hordered, fun other hother ↦ ?_, fun other hother ↦ ?_⟩
  · have hold (hmem : other ∈ before ++ after) := h.chapters_eq_concat hmem (hnone other hmem)
    rcases List.mem_append.1 hother with hother | hother
    · exact hold (List.mem_append_left _ hother)
    rcases List.mem_cons.1 hother with rfl | hother
    · -- A chapter with this directory would have had a lineage that owns the new one.
      have hnew : added.filter (fun other ↦
          Lineage.Owns ⟨numbered.chapter.workdir, [numbered]⟩ other) = [] := by
        refine List.filter_eq_nil_iff.2 fun other hother hsame ↦ ?_
        obtain ⟨owner, howner, hown⟩ := h.complete other hother
        have hdirectory : Lineage.Owns ⟨numbered.chapter.workdir, [numbered]⟩ other :=
          of_decide_eq_true hsame
        exact hnone owner howner (hdirectory.symm.trans hown)
      rw [List.filter_append, hnew, List.filter_cons_of_pos (by simpa using howns)]
      rfl
    · exact hold (List.mem_append_right _ hother)
  · rcases List.mem_append.1 hother with hother | hother
    · obtain ⟨owner, howner, hother⟩ := h.complete other hother
      rcases List.mem_append.1 howner with howner | howner
      · exact ⟨owner, List.mem_append_left _ howner, hother⟩
      · exact ⟨owner, List.mem_append_right _ (List.mem_cons_of_mem _ howner), hother⟩
    · obtain rfl := List.mem_singleton.1 hother
      exact ⟨_, List.mem_append_right _ List.mem_cons_self, howns⟩

theorem Grouped.add (h : Grouped added groups) (numbered : Numbered) :
    Grouped (added ++ [numbered]) (Lineage.add numbered groups) := by
  rcases add_cases h.ordered numbered with ⟨before, lineage, after, rfl, howns, hadd⟩ |
    ⟨before, after, rfl, hnone, hadd, hordered⟩
  · rw [hadd]
    exact h.grow howns
  · rw [hadd] at hordered ⊢
    exact h.insert hnone hordered

/-- The lineages of chapters have those of each directory together. -/
theorem lineages_grouped (chapters : List Chapter) :
    Grouped (numberedFrom 0 chapters) (lineages chapters) := by
  have hfold (later : List Numbered) {added : List Numbered} {groups : List Lineage}
      (h : Grouped added groups) : Grouped (added ++ later)
        (later.foldl (fun groups numbered ↦ Lineage.add numbered groups) groups) := by
    induction later generalizing added groups with
    | nil =>
      rw [List.append_nil]
      exact h
    | cons numbered later ih =>
      rw [List.append_cons]
      exact ih (h.add numbered)
  exact hfold (numberedFrom 0 chapters) grouped_nil

/-- A chapter is in a lineage when it is run in its directory. -/
theorem mem_lineage_iff {chapters : List Chapter} (hlineage : lineage ∈ lineages chapters) :
    numbered ∈ lineage.chapters ↔
      chapters[numbered.index]? = some numbered.chapter ∧ lineage.Owns numbered := by
  rw [(lineages_grouped chapters).chapters_eq lineage hlineage, List.mem_filter,
    mem_numberedFrom_iff, decide_eq_true_iff]
  refine and_congr_left fun _ ↦ ⟨?_, fun hchapter ↦ ⟨_, (Nat.zero_add _).symm, hchapter⟩⟩
  rintro ⟨place, hindex, hchapter⟩
  rw [hindex, Nat.zero_add]
  exact hchapter

theorem mem_of_mem_lineage {chapters : List Chapter} (hlineage : lineage ∈ lineages chapters)
    (hnumbered : numbered ∈ lineage.chapters) : numbered.chapter ∈ chapters :=
  List.mem_of_getElem? ((mem_lineage_iff hlineage).1 hnumbered).1

/-- Each chapter is in a lineage. -/
theorem exists_mem_lineage {chapters : List Chapter} {index : Nat} {chapter : Chapter}
    (h : chapters[index]? = some chapter) :
    ∃ lineage ∈ lineages chapters, ⟨index, chapter⟩ ∈ lineage.chapters := by
  have hmem : ⟨index, chapter⟩ ∈ numberedFrom 0 chapters :=
    mem_numberedFrom_iff.2 ⟨index, (Nat.zero_add index).symm, h⟩
  obtain ⟨lineage, hlineage, howns⟩ := (lineages_grouped chapters).complete _ hmem
  exact ⟨lineage, hlineage, (mem_lineage_iff hlineage).2 ⟨h, howns⟩⟩

/-- The chapters of a lineage are in order. -/
theorem lineage_pairwise {chapters : List Chapter} (hlineage : lineage ∈ lineages chapters) :
    lineage.chapters.Pairwise fun first second ↦ first.index < second.index := by
  rw [(lineages_grouped chapters).chapters_eq lineage hlineage]
  exact (numberedFrom_pairwise 0 chapters).filter _

/-- A number belongs to one lineage. -/
theorem place_eq_of_index {chapters : List Chapter} {place otherPlace : Nat} {second : Numbered}
    (hlineage : (lineages chapters)[place]? = some lineage)
    (hother : (lineages chapters)[otherPlace]? = some other) (hmem : numbered ∈ lineage.chapters)
    (hsecond : second ∈ other.chapters) (hindex : numbered.index = second.index) :
    place = otherPlace := by
  have hordered := (lineages_grouped chapters).ordered
  have hin := List.mem_of_getElem? hlineage
  have hotherIn := List.mem_of_getElem? hother
  obtain ⟨hchapter, howns⟩ := (mem_lineage_iff hin).1 hmem
  obtain ⟨hsecondChapter, hsecondOwns⟩ := (mem_lineage_iff hotherIn).1 hsecond
  rw [hindex] at hchapter
  have hsame : second.chapter = numbered.chapter :=
    Option.some.inj (hsecondChapter.symm.trans hchapter)
  have hotherOwns : other.Owns numbered := by
    unfold Lineage.Owns at hsecondOwns ⊢
    rw [← hsame]
    exact hsecondOwns
  obtain rfl := hordered.eq_of_owns hin hotherIn howns hotherOwns
  have hnodup : (lineages chapters).Nodup := by
    refine List.Pairwise.imp (fun hlt heq ↦ ?_) hordered
    rw [heq] at hlt
    exact lt_irrefl _ hlt
  obtain ⟨hplace, -⟩ := List.getElem?_eq_some_iff.1 hlineage
  exact (List.getElem?_inj hplace hnodup).1 (hlineage.trans hother.symm)

/-- Together the lineages hold every chapter once. -/
theorem flatMap_chapters_perm (chapters : List Chapter) :
    ((lineages chapters).flatMap Lineage.chapters).Perm (numberedFrom 0 chapters) := by
  have hdistinct {numbers : List Numbered}
      (h : numbers.Pairwise fun first second ↦ first.index < second.index) : numbers.Nodup :=
    h.imp fun hlt heq ↦ hlt.ne (congrArg Numbered.index heq)
  have hdisjoint : (lineages chapters).Pairwise
      (Function.onFun List.Disjoint Lineage.chapters) := by
    refine List.Pairwise.imp_of_mem (fun hfirst hsecond hlt ↦ ?_)
      (lineages_grouped chapters).ordered
    intro numbered hmem hother
    have howns := ((mem_lineage_iff hfirst).1 hmem).2
    have hotherOwns := ((mem_lineage_iff hsecond).1 hother).2
    exact hlt.ne (Path.sortKey_eq_iff.2 (howns.symm.trans hotherOwns))
  refine (List.perm_ext_iff_of_nodup ?_ (hdistinct (numberedFrom_pairwise 0 chapters))).2 ?_
  · exact List.nodup_flatMap.2
      ⟨fun lineage hlineage ↦ hdistinct (lineage_pairwise hlineage), hdisjoint⟩
  · intro numbered
    rw [List.mem_flatMap, mem_numberedFrom_iff]
    constructor
    · rintro ⟨lineage, hlineage, hmem⟩
      exact ⟨_, (Nat.zero_add _).symm, ((mem_lineage_iff hlineage).1 hmem).1⟩
    · rintro ⟨place, hindex, hchapter⟩
      obtain ⟨lineage, hlineage, hmem⟩ := exists_mem_lineage hchapter
      rw [Nat.zero_add] at hindex
      rw [← hindex] at hmem
      exact ⟨lineage, hlineage, hmem⟩

end Groups

end Build

end Runbook
