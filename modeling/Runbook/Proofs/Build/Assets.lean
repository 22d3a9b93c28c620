import Runbook.Proofs.Build.Validation
import Runbook.Proofs.Session.Assets
import Runbook.Proofs.Session.Exit
/-!
# Assets of chapters

Each chapter keeps its screenshots and its checkpoints in a directory that is named after it, and
the blocks of a chapter change no other of these directories (`Chapter.confined`). So two chapters
cannot meddle with the assets of each other when their directories are apart and where they should
be (`Isolated`).

Chapters that are found have different names, but names are paths: they can be two spellings of one
place, lead into each other or lead out of the directories of assets. `isolated_iff` says which
names keep two chapters apart, and `chapters_assets_respelled` shows two that do not.
-/

set_option autoImplicit false

namespace Runbook.Build

open Block Document Machine Runbook.Path Session

/-! ### Directories of assets -/

/-- The names of the directories of assets, one for each kind. -/
def assetKinds : List String := ["screenshots", "checkpoints"]

/-- The directory in which a chapter keeps its assets of a kind. -/
def Chapter.assets (settings : Settings) (chapter : Chapter) (kind : String) : String :=
  join (join settings.assetsDir kind) chapter.basename

/-- The directories of assets of two chapters are where they should be, and none of one chapter is
in one of the other. -/
structure Isolated (settings : Settings) (first second : Chapter) : Prop where
  below : ∀ chapter ∈ [first, second], ∀ kind ∈ assetKinds,
    (place (chapter.assets settings kind)).IsBelow (place (join settings.assetsDir kind))
  apart : ∀ kind ∈ assetKinds, ∀ other ∈ assetKinds,
    ¬(place (first.assets settings kind)).IsWithin (place (second.assets settings other)) ∧
      ¬(place (second.assets settings other)).IsWithin (place (first.assets settings kind))

section Directories

variable {settings : Settings} {chapter first second : Chapter}

theorem place_root (settings : Settings) {kind : String} (h : kind ∈ assetKinds) :
    place (join settings.assetsDir kind) = (place settings.assetsDir).down [kind] := by
  have hkind : ∀ kind ∈ assetKinds, place kind = ⟨.above 0, [kind]⟩ := by decide +kernel
  rw [place_join, hkind kind h]
  rfl

/-- A name that leads down leads from the directory of each kind. -/
theorem place_assets {names : List String} (h : place chapter.basename = ⟨.above 0, names⟩)
    {kind : String} (hkind : kind ∈ assetKinds) :
    place (chapter.assets settings kind) = (place settings.assetsDir).down (kind :: names) := by
  rw [Chapter.assets, place_join, place_root settings hkind, h]
  exact Place.down_down _ [kind] names

/-- A name that does not lead down leads to one place from the directories of all kinds. -/
theorem place_assets_eq (h : ∀ names, place chapter.basename ≠ ⟨.above 0, names⟩) :
    ∃ found, ∀ kind ∈ assetKinds, place (chapter.assets settings kind) = found := by
  rcases hplace : place chapter.basename with ⟨_ | _ | steps, names⟩
  · refine ⟨⟨.root, names⟩, fun kind hkind ↦ ?_⟩
    rw [Chapter.assets, place_join, hplace]
    rfl
  · exact (h names hplace).elim
  · refine ⟨(Place.up^[steps] (place settings.assetsDir)).down names, fun kind hkind ↦ ?_⟩
    have hup := Place.up_down_concat (place settings.assetsDir) [] kind
    rw [List.nil_append, Place.down_nil] at hup
    rw [Chapter.assets, place_join, place_root settings hkind, hplace, Place.append]
    simp only [Function.iterate_succ_apply, hup]

/-- The directories of a chapter are below those of all chapters when its name leads down. -/
theorem below_iff : (∀ kind ∈ assetKinds, (place (chapter.assets settings kind)).IsBelow
      (place (join settings.assetsDir kind))) ↔
    ∃ names, names ≠ [] ∧ place chapter.basename = ⟨.above 0, names⟩ := by
  constructor
  · intro hbelow
    by_cases hdown : ∃ names, place chapter.basename = ⟨.above 0, names⟩
    · obtain ⟨names, hnames⟩ := hdown
      refine ⟨names, ?_, hnames⟩
      rintro rfl
      have hkind : "screenshots" ∈ assetKinds := List.mem_cons_self
      refine (hbelow _ hkind).2 ?_
      rw [place_assets hnames hkind, place_root settings hkind]
    · -- One place would have to be below two directories that stand side by side.
      obtain ⟨found, hfound⟩ := place_assets_eq (not_exists.1 hdown)
      have hwithin : ∀ kind ∈ assetKinds,
          found.IsWithin ((place settings.assetsDir).down [kind]) := by
        intro kind hkind
        rw [← hfound kind hkind, ← place_root settings hkind]
        exact (hbelow kind hkind).1
      have hnested := (hwithin "screenshots" (by decide)).total (hwithin "checkpoints" (by decide))
      rw [Place.isWithin_down_iff (List.cons_ne_nil _ _),
        Place.isWithin_down_iff (List.cons_ne_nil _ _)] at hnested
      exact absurd hnested (by decide)
  · rintro ⟨names, hne, hnames⟩ kind hkind
    rw [place_assets hnames hkind, place_root settings hkind]
    refine ⟨(Place.isWithin_down_iff (List.cons_ne_nil kind [])).2 ?_, fun hsame ↦ ?_⟩
    · exact List.cons_prefix_cons.2 ⟨rfl, List.nil_prefix⟩
    · exact hne (List.cons.inj (down_injective hsame)).2

/-- Two chapters are kept apart when both names lead down and neither leads into the other. -/
theorem isolated_iff : Isolated settings first second ↔ ∃ names others,
    place first.basename = ⟨.above 0, names⟩ ∧ place second.basename = ⟨.above 0, others⟩ ∧
      ¬names <+: others ∧ ¬others <+: names := by
  constructor
  · intro h
    obtain ⟨names, -, hnames⟩ := below_iff.1 (h.below first List.mem_cons_self)
    obtain ⟨others, -, hothers⟩ := below_iff.1 (h.below second (List.mem_of_getLast? rfl))
    have hkind : "screenshots" ∈ assetKinds := List.mem_cons_self
    have hapart := h.apart _ hkind _ hkind
    rw [place_assets hnames hkind, place_assets hothers hkind,
      Place.isWithin_down_iff (List.cons_ne_nil _ _),
      Place.isWithin_down_iff (List.cons_ne_nil _ _), List.prefix_cons_inj,
      List.prefix_cons_inj] at hapart
    exact ⟨names, others, hnames, hothers, hapart.2, hapart.1⟩
  · rintro ⟨names, others, hnames, hothers, hfirst, hsecond⟩
    have hne : names ≠ [] := fun hnil ↦ hfirst (hnil ▸ List.nil_prefix)
    have hne' : others ≠ [] := fun hnil ↦ hsecond (hnil ▸ List.nil_prefix)
    refine ⟨List.forall_mem_cons.2 ⟨below_iff.2 ⟨names, hne, hnames⟩,
      List.forall_mem_singleton.2 (below_iff.2 ⟨others, hne', hothers⟩)⟩,
      fun kind hkind other hother ↦ ?_⟩
    rw [place_assets hnames hkind, place_assets hothers hother,
      Place.isWithin_down_iff (List.cons_ne_nil _ _),
      Place.isWithin_down_iff (List.cons_ne_nil _ _), List.cons_prefix_cons, List.cons_prefix_cons]
    exact ⟨fun hprefix ↦ hsecond hprefix.2, fun hprefix ↦ hfirst hprefix.2⟩

end Directories

/-! ### Names of chapters that are found -/

section Names

variable {settings : Settings} {before chapters : List Chapter} {finding : Finding}
  {findings : List Finding} {chapter : Chapter}

/-- A chapter has another name than those before it. -/
theorem basename_notMem_of_ofFinding (h : Chapter.ofFinding settings before finding = .ok chapter) :
    chapter.basename ∉ before.map Chapter.basename := by
  obtain ⟨path, cause | source⟩ | cause := finding
  · cases h
  · simp only [Chapter.ofFinding, Chapter.ofSource] at h
    split at h
    · cases h
    split at h
    · cases h
    next hfree =>
      split at h
      · cases h
      · cases h
        rintro htaken
        obtain ⟨other, hother, hsame⟩ := List.mem_map.1 htaken
        exact List.find?_eq_none.1 hfree other hother (decide_eq_true hsame)
  · cases h

/-- Chapters that are found have different names. -/
theorem nodup_chaptersFrom (hbefore : (before.map Chapter.basename).Nodup)
    (h : chaptersFrom settings before findings = .ok chapters) :
    (chapters.map Chapter.basename).Nodup := by
  induction findings generalizing before with
  | nil =>
    cases h
    exact hbefore
  | cons finding findings ih =>
    rw [chaptersFrom] at h
    split at h
    · cases h
    · next chapter hchapter =>
      refine ih ?_ h
      rw [List.map_append, List.nodup_append_comm]
      exact List.nodup_cons.2 ⟨basename_notMem_of_ofFinding hchapter, hbefore⟩

theorem nodup_of_discover {σ : Type} {host : Host σ} {state : σ}
    (h : ((discover settings).on host state).1 = .ok chapters) :
    (chapters.map Chapter.basename).Nodup := by
  have hnone : (([] : List Chapter).map Chapter.basename).Nodup := List.nodup_nil
  rw [discover_on] at h
  split at h
  · exact nodup_chaptersFrom hnone h
  · cases h

/-- Chapters with different names that are those of entries are kept apart. -/
theorem isolated_of_isEntryName {first second : Chapter} (hfirst : IsEntryName first.basename)
    (hsecond : IsEntryName second.basename) (hne : first.basename ≠ second.basename) :
    Isolated settings first second := by
  refine isolated_iff.2 ⟨[first.basename], [second.basename], hfirst.place_eq, hsecond.place_eq, ?_⟩
  have hnot {name other : String} (h : name ≠ other) : ¬[name] <+: [other] := fun hprefix ↦
    h (List.cons_prefix_cons.1 hprefix).1
  exact ⟨hnot hne, hnot hne.symm⟩

end Names

/-! ### Blocks of chapters -/

section Blocks

variable {settings : Settings} {chapter first second : Chapter} {plan : List PlannedBlock}

theorem mem_assetKinds {action : Action} {kind : String} (h : assetKind? action = some kind) :
    kind ∈ assetKinds := by
  cases action with
  | screenshot block =>
    cases h
    exact List.mem_cons_self
  | checkpoint block =>
    cases h
    exact List.mem_of_getLast? rfl
  | _ => cases h

/-- A block of a chapter that makes assets changes only the directory of the chapter. -/
theorem Chapter.confined (hplan : chapter.document.plan settings.scope = .ok plan)
    {block : PlannedBlock} (hblock : block ∈ plan) {kind : String}
    (hkind : assetKind? block.action = some kind) :
    (runAction block.action).Confined (chapter.options settings)
      ((chapter.options settings).Owns kind) fun _ ↦ True := by
  obtain ⟨node, -, hof⟩ := (enumerates_of_plan hplan).sound block hblock
  obtain ⟨code, runnable, -, -, haction⟩ := hof.action_eq
  exact confined_runAction _ haction hkind

/-- No block of a chapter that makes assets changes anything in a directory of assets of another
chapter, or a place that such a directory is in. -/
def Chapter.Spares (settings : Settings) (chapter other : Chapter) : Prop :=
  ∀ plan, chapter.document.plan settings.scope = .ok plan → ∀ block ∈ plan,
    (assetKind? block.action).isSome = true →
    (runAction block.action).Confined (chapter.options settings)
      (fun path ↦ ∀ kind ∈ assetKinds, ¬(place path).IsWithin (place (other.assets settings kind)) ∧
        ¬(place (other.assets settings kind)).IsWithin (place path)) fun _ ↦ True

theorem Isolated.symm (h : Isolated settings first second) : Isolated settings second first := by
  obtain ⟨names, others, hnames, hothers, hfirst, hsecond⟩ := isolated_iff.1 h
  exact isolated_iff.2 ⟨others, names, hothers, hnames, hsecond, hfirst⟩

theorem Isolated.spares (h : Isolated settings first second) : first.Spares settings second := by
  intro plan hplan block hblock hassets
  obtain ⟨kind, hkind⟩ := Option.isSome_iff_exists.1 hassets
  refine (Chapter.confined hplan hblock hkind).allow fun path hpath other hother ↦ ?_
  obtain ⟨name, hname, -, hwithin⟩ := hpath
  cases hname
  obtain ⟨hinside, haround⟩ := h.apart kind (mem_assetKinds hkind) other hother
  refine ⟨fun hpath ↦ ?_, fun hpath ↦ haround (hpath.trans hwithin)⟩
  exact (hwithin.total hpath).elim hinside haround

end Blocks

/-! ### Two chapters -/

section Chapters

variable {σ : Type} {host : Host σ} {settings : Settings} {state : σ} {chapters : List Chapter}
  {index other : Nat} {first second : Chapter}

/-- What keeps the assets of two chapters that are found apart. Their names are different, and the
blocks of each change only the directories of their own chapter. These directories are where they
should be and apart from those of the other chapter exactly when both names lead down and neither
leads into the other, as names do that entries can have. Then neither chapter changes anything in
the directories of the other, nor a place that they are in. -/
theorem chapters_assets (h : ((discover settings).on host state).1 = .ok chapters)
    (hfirst : chapters[index]? = some first) (hsecond : chapters[other]? = some second)
    (hne : index ≠ other) :
    first.basename ≠ second.basename ∧
    (∀ plan, first.document.plan settings.scope = .ok plan → ∀ block ∈ plan, ∀ kind,
      assetKind? block.action = some kind →
      (runAction block.action).Confined (first.options settings)
        ((first.options settings).Owns kind) fun _ ↦ True) ∧
    (Isolated settings first second ↔ ∃ names others,
      place first.basename = ⟨.above 0, names⟩ ∧ place second.basename = ⟨.above 0, others⟩ ∧
        ¬names <+: others ∧ ¬others <+: names) ∧
    (IsEntryName first.basename → IsEntryName second.basename →
      Isolated settings first second) ∧
    (Isolated settings first second →
      first.Spares settings second ∧ second.Spares settings first) := by
  have hnames : first.basename ≠ second.basename := by
    intro hsame
    have hplaces : (chapters.map Chapter.basename)[index]? =
        (chapters.map Chapter.basename)[other]? := by
      rw [List.getElem?_map, List.getElem?_map, hfirst, hsecond]
      exact congrArg some hsame
    have hindex : index < (chapters.map Chapter.basename).length := by
      rw [List.length_map]
      exact (List.getElem?_eq_some_iff.1 hfirst).1
    exact hne ((List.getElem?_inj hindex (nodup_of_discover h)).1 hplaces)
  exact ⟨hnames, fun plan hplan block hblock kind hkind ↦ Chapter.confined hplan hblock hkind,
    isolated_iff, fun hentry hentry' ↦ isolated_of_isEntryName hentry hentry' hnames,
    fun hisolated ↦ ⟨hisolated.spares, hisolated.symm.spares⟩⟩

/-- Two chapters, one of which names itself, on a machine on which all goes well. -/
theorem chapters_assets_named :
    let host : Host Unit := .answering (fun state _ ↦ (0, state)) fun
      | .entries _ => Except.ok [("a.md", .file), ("b.md", .file)]
      | .readText path => Except.ok (if path = "chapters/a.md"
          then "---\nbasename: intro\n---\n```run:checkpoint name=start\n```\n"
          else "```run:checkpoint name=start\n```\n")
      | request => request.easyReply
    ∃ first second, ((discover Settings.default).on host ()).1 = .ok [first, second] ∧
      first.assets Settings.default "checkpoints" = "dist/assets/checkpoints/intro" ∧
      second.assets Settings.default "checkpoints" = "dist/assets/checkpoints/b" ∧
      Isolated Settings.default first second ∧ first.Spares Settings.default second ∧
      second.Spares Settings.default first := by
  intro host
  obtain ⟨chapters, hchapters, hnames⟩ : ∃ chapters,
      ((discover Settings.default).on host ()).1 = .ok chapters ∧
        chapters.map Chapter.basename = ["intro", "b"] :=
    exists_chapters_answering rfl rfl rfl (fun _ ↦ rfl)
      (by decide +kernel : ∀ name ∈ ["a.md", "b.md"], isChapterName name = true)
      (by decide +kernel) (by decide +kernel) ()
  obtain ⟨first, rest, rfl, hfirst, hrest⟩ := List.map_eq_cons_iff.1 hnames
  obtain ⟨second, rest, rfl, hsecond, hrest⟩ := List.map_eq_cons_iff.1 hrest
  obtain rfl := List.map_eq_nil_iff.1 hrest
  obtain ⟨-, -, -, hentries, hspares⟩ := chapters_assets hchapters (rfl : _[0]? = some first)
    (rfl : _[1]? = some second) (by decide)
  have hisolated := hentries (hfirst ▸ ⟨by decide +kernel, by decide +kernel⟩)
    (hsecond ▸ ⟨by decide +kernel, by decide +kernel⟩)
  refine ⟨first, second, hchapters, ?_, ?_, hisolated, hspares hisolated⟩
  · rw [Chapter.assets, hfirst]
    decide +kernel
  · rw [Chapter.assets, hsecond]
    decide +kernel

/-- Two spellings of one name. Both chapters are found, and they take checkpoints of one name in one
place. -/
theorem chapters_assets_respelled :
    let host : Host Unit := .answering (fun state _ ↦ (0, state)) fun
      | .entries _ => Except.ok [("a.md", .file), ("b.md", .file)]
      | .readText path => Except.ok (if path = "chapters/a.md"
          then "---\nbasename: intro\n---\n```run:checkpoint name=start exclude=.git\n```\n"
          else "---\nbasename: ./intro\n---\n```run:checkpoint name=start exclude=.git\n```\n")
      | request => request.easyReply
    let takes := fun (chapter : Chapter) ↦
      (chapter.document.plan Settings.default.scope).toOption.map (·.map PlannedBlock.action)
    ∃ first second, ((discover Settings.default).on host ()).1 = .ok [first, second] ∧
      (∀ chapter ∈ [first, second], takes chapter = some [.checkpoint ⟨"start", [".git"]⟩]) ∧
      place (first.assets Settings.default "checkpoints") =
        place (second.assets Settings.default "checkpoints") ∧
      ¬Isolated Settings.default first second := by
  intro host takes
  obtain ⟨chapters, hchapters, hfound⟩ : ∃ chapters,
      ((discover Settings.default).on host ()).1 = .ok chapters ∧
        (chapters.map Chapter.basename, chapters.map takes) =
        (["intro", "./intro"], List.replicate 2 (some [.checkpoint ⟨"start", [".git"]⟩])) :=
    exists_chapters_answering rfl rfl rfl (fun _ ↦ rfl)
      (by decide +kernel : ∀ name ∈ ["a.md", "b.md"], isChapterName name = true)
      (by decide +kernel) (by decide +kernel) ()
  obtain ⟨hnames, htakes⟩ := Prod.mk.inj hfound
  obtain ⟨first, rest, rfl, hfirst, hrest⟩ := List.map_eq_cons_iff.1 hnames
  obtain ⟨second, rest, rfl, hsecond, hrest⟩ := List.map_eq_cons_iff.1 hrest
  obtain rfl := List.map_eq_nil_iff.1 hrest
  have hplace : place (first.assets Settings.default "checkpoints") =
      place (second.assets Settings.default "checkpoints") := by
    rw [Chapter.assets, Chapter.assets, hfirst, hsecond]
    decide +kernel
  refine ⟨first, second, hchapters, fun chapter hchapter ↦ ?_, hplace, fun hisolated ↦ ?_⟩
  · have hmem : takes chapter ∈ [first, second].map takes := List.mem_map_of_mem hchapter
    rw [htakes] at hmem
    exact List.eq_of_mem_replicate hmem
  have hkind : "checkpoints" ∈ assetKinds := List.mem_of_getLast? rfl
  exact (hisolated.apart _ hkind _ hkind).1 (hplace ▸ Place.isWithin_refl _)

end Chapters

end Runbook.Build
