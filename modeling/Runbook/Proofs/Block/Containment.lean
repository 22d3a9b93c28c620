import Runbook.Block.Checkpoint
import Runbook.Block.File
import Runbook.Proofs.Block.Picture
/-!
# Paths that stay inside

A block names the files that it makes by paths that are put below a directory: a file block by a
path below its working directory, a screenshot or checkpoint block by a name below the directory
that it keeps its assets in. What is accepted leads down from that directory, whichever it is and
however the path is spelled (`LeadsDown`): a path to the directory itself or to something below it,
a name to something directly below it. Names that only begin or end in full stops are names like
all others. What is refused is empty, absolute or has two full stops as a component, and all of
that is refused (`accepted_leadsDown`).

A path that stays inside (`StaysInside`) has no step up, so its pieces are names of entries, and
following it adds these names to the place of the directory (`StaysInside.exists_leadsDown`). Places
are lexical: a link on the way can lead elsewhere.
-/

set_option autoImplicit false

namespace Runbook.Block

open Text

/-! ### Paths that lead down -/

/-- A path leads down through some names of entries from whatever directory it is put in. -/
def LeadsDown (path : String) (names : List String) : Prop :=
  (∀ name ∈ names, Path.IsEntryName name) ∧
    ∀ base, Path.place (Path.join base path) = (Path.place base).down names

/-- A path that stays where it is put: it does not start at the top and does not lead up. -/
structure StaysInside (path : String) : Prop where
  relative : Path.isAbsolute path = false
  down : Path.Component.parent ∉ Path.components path

section Paths

variable {path : String}

theorem root_mem_components_iff :
    Path.Component.root ∈ Path.components path ↔ Path.isAbsolute path = true := by
  have hpieces : Path.Component.root ∉ Path.pieces path := by
    intro hmem
    obtain ⟨piece, -, hpiece⟩ := List.mem_filterMap.1 hmem
    rw [Path.Component.ofPiece?] at hpiece
    split at hpiece
    · cases hpiece
    · split at hpiece <;> cases hpiece
  rw [Path.components_eq, List.mem_append, or_iff_left hpieces, Path.start]
  split
  · next habsolute => exact iff_of_true List.mem_cons_self habsolute
  · next hrelative => split <;> exact iff_of_false (by simp) hrelative

theorem isAbsolute_eq_false (h : Path.Component.root ∉ Path.components path) :
    Path.isAbsolute path = false :=
  Bool.eq_false_iff.2 (mt root_mem_components_iff.2 h)

/-- The names in a path are names that entries can have. -/
theorem isEntryName_of_mem_pieces {name : String}
    (h : Path.Component.normal name ∈ Path.pieces path) : Path.IsEntryName name := by
  obtain ⟨piece, hmem, hpiece⟩ := List.mem_filterMap.1 h
  rw [Path.Component.ofPiece?] at hpiece
  split at hpiece
  · cases hpiece
  · next hshort =>
    split at hpiece
    · cases hpiece
    · next hparent =>
      cases hpiece
      obtain ⟨hempty, hcurrent⟩ := not_or.1 hshort
      refine ⟨by rw [String.toList_ofList]; exact notMem_of_mem_splitAt hmem, ?_⟩
      -- A piece is one of the three texts exactly when it consists of their characters.
      have hne {text : String} (htext : piece ≠ text.toList) : String.ofList piece ≠ text :=
        fun hsame ↦ htext (by rw [← hsame, String.toList_ofList])
      simp only [List.mem_cons, List.not_mem_nil, or_false, not_or]
      exact ⟨hne hempty, hne hcurrent, hne hparent⟩

/-- The names that a path leads down through are those of its own place. -/
theorem LeadsDown.names_eq {names : List String} (h : LeadsDown path names) :
    (Path.place path).names = names := by
  have hplace : Path.place path = (Path.place "").down names := Path.empty_join path ▸ h.2 ""
  rw [hplace]
  rfl

/-- A path that stays inside leads down through the names in it. -/
theorem StaysInside.exists_leadsDown (h : StaysInside path) : ∃ names, LeadsDown path names := by
  obtain ⟨names, hnames⟩ := Path.exists_pieces_eq h.down
  refine ⟨names, fun name hname ↦ ?_, fun base ↦ ?_⟩
  · refine @isEntryName_of_mem_pieces path _ ?_
    rw [hnames]
    exact List.mem_map_of_mem hname
  · rw [Path.place_join, Path.place_of_pieces hnames, h.relative]
    rfl

/-- A path with a single component that is a name leads one step down. -/
theorem exists_leadsDown_of_isPlain (h : Path.IsPlain path) : ∃ entry, LeadsDown path [entry] := by
  obtain ⟨entry, hentry⟩ := h
  have hinside : StaysInside path := ⟨isAbsolute_eq_false (by rw [hentry]; simp),
    by rw [hentry]; simp⟩
  obtain ⟨names, hnames⟩ := hinside.exists_leadsDown
  have hsame : (Path.place path).names = [entry] := by
    rw [Path.place, hentry]
    rfl
  exact ⟨entry, hsame ▸ hnames.names_eq ▸ hnames⟩

/-- Two full stops are a component of a path exactly when they stand between slashes. -/
theorem parent_mem_components_iff :
    Path.Component.parent ∈ Path.components path ↔ ['.', '.'] ∈ splitAt '/' path.toList := by
  have hstart : Path.Component.parent ∉ Path.start path := by
    rw [Path.start]
    split
    · simp
    · split <;> simp
  rw [Path.components_eq, List.mem_append, or_iff_right hstart, Path.pieces, List.mem_filterMap]
  constructor
  · rintro ⟨piece, hmem, hpiece⟩
    rw [Path.Component.ofPiece?] at hpiece
    split at hpiece
    · cases hpiece
    · split at hpiece
      · next hparent => exact hparent ▸ hmem
      · cases hpiece
  · exact fun hmem ↦ ⟨_, hmem, rfl⟩

end Paths

/-! ### What the checks accept -/

section Checks

variable {field value path name : String}

theorem all_isNormal_or_current_iff :
    ((Path.components value).all fun c ↦ c.isNormal || c = .current) = true ↔
      StaysInside value := by
  rw [List.all_eq_true]
  refine ⟨fun h ↦ ⟨isAbsolute_eq_false fun hin ↦ ?_, fun hin ↦ ?_⟩, fun h c hc ↦ ?_⟩
  · exact absurd (h _ hin) (by decide)
  · exact absurd (h _ hin) (by decide)
  · cases c with
    | root => exact absurd (root_mem_components_iff.1 hc) (Bool.eq_false_iff.1 h.relative)
    | current => rfl
    | parent => exact absurd hc h.down
    | normal name => rfl

/-- A path is accepted, as it is, exactly when it is not empty and stays inside. -/
theorem insidePath_eq_ok_iff :
    insidePath field value = .ok path ↔ path = value ∧ value ≠ "" ∧ StaysInside value := by
  rw [insidePath]
  split
  · next haccepted =>
    rw [Bool.and_eq_true, Bool.not_eq_true', ← Bool.not_eq_true, String.isEmpty_iff,
      all_isNormal_or_current_iff] at haccepted
    exact ⟨fun h ↦ ⟨(Except.ok.inj h).symm, haccepted⟩, fun h ↦ congrArg _ h.1.symm⟩
  · next hrefused =>
    rw [Bool.and_eq_true, Bool.not_eq_true', ← Bool.not_eq_true, String.isEmpty_iff,
      all_isNormal_or_current_iff] at hrefused
    exact iff_of_false nofun fun h ↦ hrefused h.2

/-- A path is refused exactly when it is empty or absolute or has two full stops between slashes,
and the refusal names it. -/
theorem insidePath_eq_error_iff {error : FieldError} :
    insidePath field value = .error error ↔ error = .notInside field value ∧
      (value = "" ∨ Path.isAbsolute value = true ∨ ['.', '.'] ∈ splitAt '/' value.toList) := by
  have hinside : (value = "" ∨ Path.isAbsolute value = true ∨
      ['.', '.'] ∈ splitAt '/' value.toList) ↔ ¬(value ≠ "" ∧ StaysInside value) := by
    rw [not_and_or, not_not, ← parent_mem_components_iff]
    refine or_congr_right ⟨?_, fun h ↦ ?_⟩
    · rintro (habsolute | hup) hstays
      · exact Bool.eq_false_iff.1 hstays.relative habsolute
      · exact hstays.down hup
    · by_contra hneither
      obtain ⟨hrelative, hdown⟩ := not_or.1 hneither
      exact h ⟨Bool.eq_false_iff.2 hrelative, hdown⟩
  rw [hinside]
  cases hresult : insidePath field value with
  | ok path =>
    exact iff_of_false nofun fun h ↦ h.2 (insidePath_eq_ok_iff.1 hresult).2
  | error other =>
    have hrefused : ¬(value ≠ "" ∧ StaysInside value) := fun h ↦
      nomatch hresult.symm.trans (insidePath_eq_ok_iff.2 ⟨rfl, h⟩)
    rw [insidePath] at hresult
    split at hresult
    · cases hresult
    · cases hresult
      exact ⟨fun h ↦ ⟨(Except.error.inj h).symm, hrefused⟩, fun h ↦ congrArg _ h.1.symm⟩

/-- The path of a file block stays inside the directory of the block. -/
theorem staysInside_of_insidePath (h : insidePath field value = .ok path) : StaysInside path := by
  obtain ⟨rfl, -, hinside⟩ := insidePath_eq_ok_iff.1 h
  exact hinside

theorem eq_of_plainName (h : plainName field value = .ok name) : name = value := by
  rw [plainName] at h
  split at h
  · exact (Except.ok.inj h).symm
  · cases h

end Checks

/-! ### What the blocks accept -/

section Blocks

variable {arguments body : String}

theorem CreateFile.staysInside {block : CreateFile}
    (h : CreateFile.parse arguments body = .ok block) : StaysInside block.path := by
  unfold CreateFile.parse at h
  obtain ⟨given, -, h⟩ := exists_of_bind_ok h
  obtain ⟨path, hpath, h⟩ := exists_of_bind_ok h
  cases h
  exact staysInside_of_insidePath (of_mapError_ok hpath)

/-- The path of a block that patches a file is the one in the field or else the one that the patch
names, and has been checked in either case. -/
theorem PatchFile.exists_insidePath {block : PatchFile}
    (h : PatchFile.parse arguments body = .ok block) :
    ∃ given, Arguments.parse PatchFile.schema arguments = .ok given ∧
      Patch.parse body = .ok block.patch ∧
      (given.text? "path").or block.patch.target = some block.path ∧
      insidePath "path" block.path = .ok block.path := by
  unfold PatchFile.parse at h
  obtain ⟨given, hgiven, h⟩ := exists_of_bind_ok h
  obtain ⟨patch, hpatch, h⟩ := exists_of_bind_ok h
  split at h
  · cases h
  · next value hvalue =>
    obtain ⟨path, hpath, h⟩ := exists_of_bind_ok h
    cases h
    have hchecked := of_mapError_ok hpath
    obtain ⟨rfl, -⟩ := insidePath_eq_ok_iff.1 hchecked
    exact ⟨given, of_mapError_ok hgiven, of_mapError_ok hpatch, hvalue, hchecked⟩

theorem PatchFile.staysInside {block : PatchFile}
    (h : PatchFile.parse arguments body = .ok block) : StaysInside block.path := by
  obtain ⟨given, -, -, -, hpath⟩ := exists_insidePath h
  exact staysInside_of_insidePath hpath

/-- The name of a checkpoint is one component of a path. -/
theorem Checkpoint.isPlain_name {block : Checkpoint}
    (h : Checkpoint.parse arguments = .ok block) : Path.IsPlain block.name := by
  unfold Checkpoint.parse at h
  obtain ⟨given, -, h⟩ := exists_of_bind_ok h
  obtain ⟨name, hname, h⟩ := exists_of_bind_ok h
  cases h
  exact isPlain_of_plainName (of_mapError_ok hname)

end Blocks

/-- Wherever it is put, a path that is accepted leads down through names of entries, or nowhere
else: also the path of a block that creates or patches a file, be it given in a field or named by
the patch. A name that is accepted leads one step down, and so does the name of the file that a
screenshot block writes or of the directory that a checkpoint block makes. A path is refused exactly
when it is empty or absolute or has two full stops between slashes. -/
theorem accepted_leadsDown :
    (∀ field value path, insidePath field value = .ok path →
      path = value ∧ ∃ names, LeadsDown path names) ∧
    (∀ arguments body block, CreateFile.parse arguments body = .ok block →
      ∃ names, LeadsDown block.path names) ∧
    (∀ arguments body block, PatchFile.parse arguments body = .ok block →
      (∃ given, Arguments.parse PatchFile.schema arguments = .ok given ∧
        Patch.parse body = .ok block.patch ∧
        (given.text? "path").or block.patch.target = some block.path) ∧
      ∃ names, LeadsDown block.path names) ∧
    (∀ field value name, plainName field value = .ok name →
      name = value ∧ ∃ entry, LeadsDown name [entry]) ∧
    (∀ arguments body block, Picture.parse arguments body = .ok block →
      ∃ entry, LeadsDown block.outputName [entry]) ∧
    (∀ arguments block, Checkpoint.parse arguments = .ok block →
      ∃ entry, LeadsDown block.name [entry]) ∧
    ∀ field value error, insidePath field value = .error error ↔
      error = .notInside field value ∧
        (value = "" ∨ Path.isAbsolute value = true ∨ ['.', '.'] ∈ splitAt '/' value.toList) := by
  refine ⟨fun field value path h ↦ ?_, fun arguments body block h ↦ ?_,
    fun arguments body block h ↦ ?_, fun field value name h ↦ ?_, fun arguments body block h ↦ ?_,
    fun arguments block h ↦ ?_, fun field value error ↦ insidePath_eq_error_iff⟩
  · exact ⟨(insidePath_eq_ok_iff.1 h).1, (staysInside_of_insidePath h).exists_leadsDown⟩
  · exact (CreateFile.staysInside h).exists_leadsDown
  · obtain ⟨given, hgiven, hpatch, hvalue, hpath⟩ := PatchFile.exists_insidePath h
    exact ⟨⟨given, hgiven, hpatch, hvalue⟩, (staysInside_of_insidePath hpath).exists_leadsDown⟩
  · exact ⟨eq_of_plainName h, exists_leadsDown_of_isPlain (isPlain_of_plainName h)⟩
  · exact exists_leadsDown_of_isPlain (Picture.isPlain_outputName h)
  · exact exists_leadsDown_of_isPlain (Checkpoint.isPlain_name h)

/-- A path with full stops and slashes in many places, named by a patch, leads down through its two
names; a name with a slash and a full stop after it leads one step down; and a step up behind a
name is refused although it would stay inside. -/
theorem accepted_leadsDown_dotted :
    (∃ block, PatchFile.parse "" "--- a/x\n+++ b/./.d.//..e/.\n@@ -0,0 +1 @@\n+x\n" = .ok block ∧
      block.path = "./.d.//..e/." ∧ LeadsDown block.path [".d.", "..e"]) ∧
    (∃ block, Checkpoint.parse "name=v1.0/." = .ok block ∧ LeadsDown block.name ["v1.0"]) ∧
    insidePath "path" "a/.." = .error (.notInside "path" "a/..") := by
  obtain ⟨-, -, hpatch, -, -, hcheckpoint, hrefused⟩ := accepted_leadsDown
  refine ⟨?_, ?_, (hrefused _ _ _).2 ⟨rfl, .inr (.inr (by decide))⟩⟩
  · have hevaluated : (PatchFile.parse ""
        "--- a/x\n+++ b/./.d.//..e/.\n@@ -0,0 +1 @@\n+x\n").toOption.map (fun block ↦ block.path) =
        some "./.d.//..e/." := by decide +kernel
    obtain ⟨block, hblock, hpath⟩ := exists_of_toOption_map hevaluated
    obtain ⟨-, names, hnames⟩ := hpatch _ _ _ hblock
    have hsame : (Path.place block.path).names = [".d.", "..e"] := by
      rw [hpath]
      decide +kernel
    exact ⟨block, hblock, hpath, hsame ▸ hnames.names_eq ▸ hnames⟩
  · have hevaluated : (Checkpoint.parse "name=v1.0/.").toOption.map (fun block ↦ block.name) =
        some "v1.0/." := by decide +kernel
    obtain ⟨block, hblock, hname⟩ := exists_of_toOption_map hevaluated
    obtain ⟨entry, hentry⟩ := hcheckpoint _ _ hblock
    have hsame : (Path.place block.name).names = ["v1.0"] := by
      rw [hname]
      decide +kernel
    exact ⟨block, hblock, hsame ▸ hentry.names_eq ▸ hentry⟩

end Runbook.Block
