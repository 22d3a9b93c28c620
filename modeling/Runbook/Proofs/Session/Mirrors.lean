import Mathlib.Data.Set.Card
import Runbook.Proofs.Session.Tree
/-!
# Copies of trees

A copy of a tree holds the entries that are kept (`Copying.Mirrors`): those that neither have an
excluded name nor lead below a directory that is skipped, and that are in no directory which does.
Each is alike what it was copied from, and nothing else is in the copy.

What is said about a directory follows from what is said about the entries in it, each of which is
left out or has a copy of its own (`Copying.CopiesAll`, `Copying.CopiesAll.mirrors`).
-/

set_option autoImplicit false

namespace Runbook.Session

open Sandbox

/-- What a copy depends on: the files when it is begun, the directory that is filled, and what is
left out. -/
structure Copying where
  files : FileSystem
  /-- The directory that relative paths start from. -/
  here : NodeId
  /-- The directory that the copy is put into. -/
  staging : NodeId
  /-- The names that are left out. -/
  exclude : List String
  /-- The path below which all is left out. -/
  skip : String

/-- Two nodes hold the same, or both are directories. -/
inductive Alike : Content → Content → Prop where
  | file {bytes : Bytes} : Alike (.file bytes) (.file bytes)
  | link {target : String} : Alike (.link target) (.link target)
  | directory {parent other : NodeId} {entries twins : List (String × NodeId)} :
    Alike (.directory parent entries) (.directory other twins)

namespace Copying

section

variable (job : Copying)

/-- An entry is left out: it has an excluded name, or its path leads below the one to be skipped. -/
def LeftOut (path name : String) : Prop :=
  name ∈ job.exclude ∨ ∃ place, job.files.canonical job.here (ByteText.ofText path) = .ok place ∧
    Path.isBelow (ByteText.toText place) job.skip = true

/-- Neither what some names lead down to below a path is left out nor anything on the way. -/
def Kept : String → List String → Prop
  | _, [] => True
  | path, name :: names =>
    ¬job.LeftOut (Path.join path name) name ∧ Kept (Path.join path name) names

/-- A node is a copy of another one, to which a path leads, with all that is kept below it. -/
structure Mirrors (source : String) (id : NodeId) (after : FileSystem) (copy number : Nat) :
    Prop where
  /-- All that is kept has been copied. -/
  alike : ∀ names original, job.files.descend id (names.map ByteText.ofText) = some original →
    job.Kept source names → ∃ twin, after.descend copy (names.map ByteText.ofText) = some twin ∧
      Alike (job.files.content original) (after.content twin)
  /-- Nothing else is in the copy, and so not the copy itself. -/
  only : ∀ path twin, after.descend copy path = some twin → ∃ names original,
    path = names.map ByteText.ofText ∧ job.Kept source names ∧
      job.files.descend id path = some original ∧ original ≠ job.staging
  /-- The number is that of the files in the copy. -/
  files : (after.filesBelow copy).encard = number

end

variable {job : Copying} {source : String} {id copy : NodeId} {after later : FileSystem}
  {name : String} {names : List String} {number : Nat}

/-- A copy stays one as long as it stays as it is. -/
theorem Mirrors.congr (h : job.Mirrors source id after copy number)
    (hdescend : ∀ path, later.descend copy path = after.descend copy path)
    (hnode : ∀ path twin, after.descend copy path = some twin → later.node twin = after.node twin) :
    job.Mirrors source id later copy number where
  alike names original horiginal hkept := by
    obtain ⟨twin, htwin, halike⟩ := h.alike names original horiginal hkept
    refine ⟨twin, (hdescend _).trans htwin, ?_⟩
    rw [FileSystem.content, FileSystem.content, hnode _ twin htwin]
    exact halike
  only path twin htwin := h.only path twin ((hdescend path).symm.trans htwin)
  files := by
    rw [← h.files]
    congr 1
    ext path
    refine exists_congr fun twin ↦ exists_congr fun bytes ↦ ?_
    rw [hdescend]
    refine and_congr_right fun htwin ↦ ?_
    rw [FileSystem.content, hnode path twin htwin, ← FileSystem.content]

/-- A file or a link is its own copy. -/
theorem mirrors_of_plain (hid : job.files.isDirectory id = false)
    (hcopy : after.isDirectory copy = false)
    (halike : Alike (job.files.content id) (after.content copy)) (hne : id ≠ job.staging)
    (hfiles : (after.filesBelow copy).encard = number) :
    job.Mirrors source id after copy number where
  alike names original horiginal _ := by
    obtain ⟨hnil, rfl⟩ := FileSystem.eq_of_descend_plain hid horiginal
    exact ⟨copy, by rw [hnil]; rfl, halike⟩
  only path twin htwin := by
    obtain ⟨rfl, rfl⟩ := FileSystem.eq_of_descend_plain hcopy htwin
    exact ⟨[], id, rfl, trivial, rfl, hne⟩
  files := hfiles

/-! ### Directories -/

/-- The names that lead down to files and start with one of some names. -/
def filesUnder (files : FileSystem) (id : NodeId) (names : List String) : Set (List String) :=
  {path ∈ files.filesBelow id | ∃ name ∈ names, path.head? = some name}

theorem filesUnder_nil : filesUnder after copy [] = ∅ :=
  Set.eq_empty_of_forall_notMem fun _ hpath ↦ by
    obtain ⟨_, hname, _⟩ := hpath.2
    cases hname

theorem filesUnder_cons_of_none (hnone : after.named (copy, name) = none) :
    filesUnder after copy (name :: names) = filesUnder after copy names := by
  ext path
  refine and_congr_right fun hpath ↦ ?_
  rw [List.exists_mem_cons_iff, or_iff_right]
  intro hhead
  obtain ⟨rest, rfl⟩ := List.head?_eq_some_iff.1 hhead
  obtain ⟨file, bytes, hfile, -⟩ := hpath
  obtain ⟨child, hchild, -⟩ := FileSystem.exists_named_of_descend hfile
  cases hnone.symm.trans hchild

theorem filesUnder_cons_of_some {twin : NodeId} (htwin : after.named (copy, name) = some twin) :
    filesUnder after copy (name :: names) =
      (List.cons name '' after.filesBelow twin) ∪ filesUnder after copy names := by
  ext path
  constructor
  · rintro ⟨hpath, hin⟩
    rcases (List.exists_mem_cons_iff _ _ _).1 hin with hhead | hin
    · obtain ⟨rest, rfl⟩ := List.head?_eq_some_iff.1 hhead
      exact .inl ⟨rest, (FileSystem.mem_filesBelow_cons htwin).1 hpath, rfl⟩
    · exact .inr ⟨hpath, hin⟩
  · rintro (⟨rest, hrest, rfl⟩ | ⟨hpath, hin⟩)
    · exact ⟨(FileSystem.mem_filesBelow_cons htwin).2 hrest, name, List.mem_cons_self, rfl⟩
    · exact ⟨hpath, (List.exists_mem_cons_iff _ _ _).2 (.inr hin)⟩

/-- Each of some entries of a directory is left out of a copy of it or has a copy there. -/
inductive CopiesAll (job : Copying) (source : String) (id : NodeId) (after : FileSystem)
    (copy : NodeId) : List String → Nat → Prop where
  | nil : CopiesAll job source id after copy [] 0
  | leftOut {name : String} {rest : List String} {number : Nat}
    (hout : job.LeftOut (Path.join source name) name)
    (hnone : after.named (copy, ByteText.ofText name) = none)
    (hrest : CopiesAll job source id after copy rest number) :
    CopiesAll job source id after copy (name :: rest) number
  | kept {name : String} {rest : List String} {child twin : NodeId} {number more : Nat}
    (hkept : ¬job.LeftOut (Path.join source name) name)
    (hchild : job.files.named (id, ByteText.ofText name) = some child)
    (htwin : after.named (copy, ByteText.ofText name) = some twin)
    (hmirrors : job.Mirrors (Path.join source name) child after twin number)
    (hrest : CopiesAll job source id after copy rest more) :
    CopiesAll job source id after copy (name :: rest) (number + more)

namespace CopiesAll

theorem of_mem (h : job.CopiesAll source id after copy names number) (hname : name ∈ names) :
    (job.LeftOut (Path.join source name) name ∧
      after.named (copy, ByteText.ofText name) = none) ∨
    (¬job.LeftOut (Path.join source name) name ∧ ∃ child twin number,
      job.files.named (id, ByteText.ofText name) = some child ∧
        after.named (copy, ByteText.ofText name) = some twin ∧
          job.Mirrors (Path.join source name) child after twin number) := by
  induction h with
  | nil => cases hname
  | leftOut hout hnone _ ih =>
    rcases List.mem_cons.1 hname with rfl | hname
    · exact .inl ⟨hout, hnone⟩
    · exact ih hname
  | kept hkept hchild htwin hmirrors _ ih =>
    rcases List.mem_cons.1 hname with rfl | hname
    · exact .inr ⟨hkept, _, _, _, hchild, htwin, hmirrors⟩
    · exact ih hname

/-- The number of files that are below the copies of some entries. -/
theorem encard_filesUnder (h : job.CopiesAll source id after copy names number)
    (hnodup : (names.map ByteText.ofText).Nodup) :
    (filesUnder after copy (names.map ByteText.ofText)).encard = number := by
  induction h with
  | nil =>
    rw [List.map_nil, filesUnder_nil, Set.encard_empty]
    rfl
  | @leftOut name rest number _ hnone _ ih =>
    rw [List.map_cons, filesUnder_cons_of_none hnone]
    exact ih (List.nodup_cons.1 hnodup).2
  | @kept name rest child twin number more _ _ htwin hmirrors _ ih =>
    obtain ⟨hname, hrest⟩ := List.nodup_cons.1 hnodup
    rw [List.map_cons, filesUnder_cons_of_some htwin, Set.encard_union_eq, ih hrest,
      List.cons_injective.encard_image, hmirrors.files, Nat.cast_add]
    -- No two names are the same, so no path is counted twice.
    refine Set.disjoint_left.2 ?_
    rintro path ⟨below, -, rfl⟩ ⟨-, hin⟩
    obtain ⟨other, hother, hhead⟩ := hin
    exact hname (Option.some.inj hhead ▸ hother)

/-- A directory is copied when each of its entries is left out or copied. -/
theorem mirrors (h : job.CopiesAll source id after copy names number)
    (hid : job.files.isDirectory id = true) (hcopy : after.isDirectory copy = true)
    (hne : id ≠ job.staging) (hnodup : (names.map ByteText.ofText).Nodup)
    (hall : ∀ name child, job.files.named (id, name) = some child →
      ∃ text ∈ names, ByteText.ofText text = name)
    (honly : ∀ name twin, after.named (copy, name) = some twin →
      ∃ text ∈ names, ByteText.ofText text = name) :
    job.Mirrors source id after copy number where
  alike path original horiginal hkept := by
    cases path with
    | nil =>
      cases horiginal
      refine ⟨copy, rfl, ?_⟩
      rw [FileSystem.content_of_isDirectory hid, FileSystem.content_of_isDirectory hcopy]
      exact .directory
    | cons name path =>
      obtain ⟨hname, hpath⟩ := hkept
      obtain ⟨child, hchild, hbelow⟩ := FileSystem.exists_named_of_descend horiginal
      obtain ⟨text, htext, hspelled⟩ := hall _ child hchild
      obtain rfl := ByteText.ofText_injective hspelled
      rcases h.of_mem htext with ⟨hout, -⟩ | ⟨-, found, twin, count, hfound, htwin, hmirrors⟩
      · exact absurd hout hname
      · cases hfound.symm.trans hchild
        obtain ⟨last, hlast, halike⟩ := hmirrors.alike path original hbelow hpath
        exact ⟨last, (FileSystem.descend_cons htwin _).trans hlast, halike⟩
  only path twin htwin := by
    cases path with
    | nil => exact ⟨[], id, rfl, trivial, rfl, hne⟩
    | cons name path =>
      obtain ⟨child, hchild, hbelow⟩ := FileSystem.exists_named_of_descend htwin
      obtain ⟨text, htext, rfl⟩ := honly name child hchild
      rcases h.of_mem htext with
        ⟨-, hnone⟩ | ⟨hkept, found, other, count, hfound, hother, hmirrors⟩
      · cases hnone.symm.trans hchild
      · cases hother.symm.trans hchild
        obtain ⟨names, original, rfl, hnames, horiginal, hstaging⟩ := hmirrors.only path twin hbelow
        exact ⟨text :: names, original, rfl, ⟨hkept, hnames⟩,
          (FileSystem.descend_cons hfound _).trans horiginal, hstaging⟩
  files := by
    rw [← h.encard_filesUnder hnodup]
    congr 1
    ext path
    refine ⟨fun hpath ↦ ⟨hpath, ?_⟩, And.left⟩
    cases path with
    | nil => exact absurd hpath (FileSystem.nil_notMem_filesBelow hcopy)
    | cons name path =>
      obtain ⟨file, bytes, hfile, -⟩ := hpath
      obtain ⟨child, hchild, -⟩ := FileSystem.exists_named_of_descend hfile
      obtain ⟨text, htext, rfl⟩ := honly name child hchild
      exact ⟨_, List.mem_map_of_mem htext, rfl⟩

end CopiesAll

end Copying

end Runbook.Session
