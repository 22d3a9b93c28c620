import Runbook.Proofs.Build.Lineages
import Runbook.Proofs.Build.Validation
import Runbook.Proofs.Text.Line
/-!
# Chapters are found in the order of their paths

Which chapters a project has is said in terms of what the machine answers, without reading a tree:
names lead from the directory of chapters to a file (`Leads`, `IsChapterFile`), links followed.
`discover_finds` says that finding chapters comes to this. Each chapter file is found once, in the
order of the paths, unless something cannot be looked at (`Obstructed`) or two chapter files have
the same basename.

Entries are put in order within each directory only. That this is the order of whole paths is shown
along the tree. `Lists` says of some entries of a directory that what is found through them are the
chapter files whose names start with theirs, in the order of the lists of names. It holds of one
entry by what is known of the directory below, it adds up along the entries (`Lists.append`), and
a directory is done when it holds of all of them (`exists_findsAll`). Paths stand in the order of
their names (`Path.isBefore_along_iff`).

A tree without cycles is read to its end because of two facts: no directory is at the place of one
that it is in, so no link is refused, and paths grow with every step, so the bound on the depth is
only met where a path would be too long to be listed (`ListsNames.short`). A link that leads nowhere
makes the whole fail (`discover_dangling`).
-/

set_option autoImplicit false

namespace Runbook

/-! ### Paths along names -/

namespace Path

/-- The path that leads from another one along some names. -/
def along (base : String) (names : List String) : String := names.foldl join base

variable {base name : String} {names : List String}

/-- A name makes a path longer. -/
theorem length_lt_length_join (base : String) (h : IsEntryName name) :
    base.length < (join base name).length := by
  have hname : 0 < name.length := Nat.pos_of_ne_zero (mt String.length_eq_zero_iff.1 h.ne_empty)
  rw [join, if_neg (by rw [h.isAbsolute_eq]; exact Bool.false_ne_true)]
  split
  · rw [String.length_append]
    omega
  · rw [String.length_append, String.length_append]
    omega

theorem join_ne_empty (base : String) (h : IsEntryName name) : join base name ≠ "" := by
  intro hempty
  have hlength := length_lt_length_join base h
  rw [hempty] at hlength
  exact Nat.not_lt_zero _ hlength

theorem length_le_length_along (h : ∀ name ∈ names, IsEntryName name) :
    base.length + names.length ≤ (along base names).length := by
  induction names generalizing base with
  | nil => exact Nat.le_refl _
  | cons name names ih =>
    obtain ⟨hname, hnames⟩ := List.forall_mem_cons.1 h
    have hrest : (join base name).length + names.length ≤
        (along (join base name) names).length := ih hnames
    have hlength := length_lt_length_join base hname
    change _ ≤ (along (join base name) names).length
    rw [List.length_cons]
    omega

theorem components_along (hbase : base ≠ "") (h : ∀ name ∈ names, IsEntryName name) :
    components (along base names) = components base ++ names.map .normal := by
  induction names generalizing base with
  | nil => exact (List.append_nil _).symm
  | cons name names ih =>
    obtain ⟨hname, hnames⟩ := List.forall_mem_cons.1 h
    change components (along (join base name) names) = _
    rw [ih (join_ne_empty base hname) hnames, components_join hbase hname.isAbsolute_eq,
      hname.pieces_eq, List.append_assoc]
    rfl

/-- The components of a path that starts with its first name are its names. -/
theorem components_along_empty (h : ∀ name ∈ names, IsEntryName name) :
    components (along "" names) = names.map .normal := by
  cases names with
  | nil => rfl
  | cons name names =>
    obtain ⟨hname, hnames⟩ := List.forall_mem_cons.1 h
    change components (along (join "" name) names) = _
    rw [empty_join, components_along hname.ne_empty hnames, hname.components_eq]
    rfl

/-- Paths along names stand in the order of their names. -/
theorem isBefore_along_iff {first second : List String} (hfirst : ∀ name ∈ first, IsEntryName name)
    (hsecond : ∀ name ∈ second, IsEntryName name) :
    isBefore (along "" first) (along "" second) = true ↔ first < second := by
  rw [isBefore, components_along_empty hfirst, components_along_empty hsecond]
  clear hfirst hsecond
  induction first generalizing second with
  | nil => cases second <;> simp [componentsBefore]
  | cons a first ih =>
    cases second with
    | nil => simp [componentsBefore]
    | cons b second =>
      rw [List.map_cons, List.map_cons, componentsBefore, List.cons_lt_cons_iff, ← ih]
      by_cases hsame : a = b
      · rw [if_pos (congrArg _ hsame)]
        simp [hsame]
      · rw [if_neg fun h ↦ hsame (Component.normal.inj h)]
        simp [Component.isBefore, Component.rank, Component.text, hsame]

end Path

namespace Build

open Document Machine

/-! ### What stands in a directory -/

section Standing

variable (reply : (request : Request) → request.Reply)

/-- What something is that a directory lists as an entry of some kind, links followed. -/
def follow (path : String) : EntryKind → Except IoError EntryKind
  | .link => reply (.entryKind path true)
  | kind => .ok kind

/-- A directory has an entry with a name, which is of some kind when links are followed. -/
def HasEntry (directory name : String) (kind : EntryKind) : Prop :=
  ∃ listed given, reply (.entries directory) = Except.ok listed ∧ (name, given) ∈ listed ∧
    follow reply (Path.join directory name) given = .ok kind

/-- Names lead from a directory to something of some kind, links followed. -/
inductive Leads : String → List String → EntryKind → Prop where
  | here (directory : String) : Leads directory [] .directory
  | entry {directory name : String} {kind : EntryKind} (h : HasEntry reply directory name kind)
      (hkind : kind ≠ .directory) : Leads directory [name] kind
  | down {directory name : String} {names : List String} {kind : EntryKind}
      (h : HasEntry reply directory name .directory)
      (hrest : Leads (Path.join directory name) names kind) : Leads directory (name :: names) kind

/-- Something in a directory or below it cannot be looked at: a directory is not listed or has no
place, or a link leads nowhere. -/
inductive Obstructed : String → Prop where
  | unlisted {directory : String} {error : IoError}
      (h : reply (.entries directory) = Except.error error) : Obstructed directory
  | unplaced {directory : String} {error : IoError}
      (h : reply (.canonical directory) = Except.error error) : Obstructed directory
  | dangling {directory name : String} {given : EntryKind} {error : IoError}
      {listed : List (String × EntryKind)} (hlisted : reply (.entries directory) = Except.ok listed)
      (hentry : (name, given) ∈ listed)
      (h : follow reply (Path.join directory name) given = .error error) : Obstructed directory
  | inside {directory name : String} (h : HasEntry reply directory name .directory)
      (hrest : Obstructed (Path.join directory name)) : Obstructed directory

/-- No directory below another one, links followed, is at the place of a directory that it is in. -/
def Acyclic (directory : String) : Prop :=
  ∀ names more place, Leads reply directory names .directory →
    Leads reply (Path.along directory names) more .directory → more ≠ [] →
    reply (.canonical (Path.along directory names)) = Except.ok place →
    reply (.canonical (Path.along (Path.along directory names) more)) ≠ Except.ok place

/-- Names lead to a file whose extension is that of chapters. -/
def IsChapterFile (directory : String) (names : List String) : Prop :=
  Leads reply directory names .file ∧ ∀ name ∈ names.getLast?, isChapterName name = true

/-- The directories of a file system: each lists different names, which are names of entries, and
its path is shorter than the greatest length of a path. -/
structure ListsNames : Prop where
  nodup : ∀ path listed, reply (.entries path) = Except.ok listed →
    (listed.map Prod.fst).Nodup
  isEntryName : ∀ path listed, reply (.entries path) = Except.ok listed →
    ∀ entry ∈ listed, Path.IsEntryName entry.1
  short : ∀ path listed, reply (.entries path) = Except.ok listed →
    path.utf8ByteSize < Session.maxWalkDepth

end Standing

section Reading

variable {reply : (request : Request) → request.Reply} {directory name : String}
  {names : List String} {kind given : EntryKind} {listed : List (String × EntryKind)}

/-- The kind under which a directory lists an entry is the only one. -/
theorem hasEntry_iff (hnames : ListsNames reply)
    (hlisted : reply (.entries directory) = Except.ok listed) (hentry : (name, given) ∈ listed) :
    HasEntry reply directory name kind ↔
      follow reply (Path.join directory name) given = .ok kind := by
  constructor
  · rintro ⟨others, other, hothers, hother, hfollow⟩
    obtain rfl : listed = others := Except.ok.inj (hlisted.symm.trans hothers)
    have hsame : (name, given) = (name, other) :=
      List.inj_on_of_nodup_map (hnames.nodup directory listed hlisted) hentry hother rfl
    rw [(Prod.mk.inj hsame).2]
    exact hfollow
  · exact fun hfollow ↦ ⟨listed, given, hlisted, hentry, hfollow⟩

theorem HasEntry.isEntryName (h : HasEntry reply directory name kind) (hnames : ListsNames reply) :
    Path.IsEntryName name := by
  obtain ⟨listed, given, hlisted, hentry, -⟩ := h
  exact hnames.isEntryName directory listed hlisted _ hentry

theorem Leads.isEntryName (h : Leads reply directory names kind) (hnames : ListsNames reply) :
    ∀ name ∈ names, Path.IsEntryName name := by
  induction h with
  | here directory => exact nofun
  | entry hentry => exact List.forall_mem_singleton.2 (hentry.isEntryName hnames)
  | down hentry hrest ih => exact List.forall_mem_cons.2 ⟨hentry.isEntryName hnames, ih⟩

/-- Names that lead to something other than a directory start with an entry, which it is or which
is a directory that the others lead down from. -/
theorem leads_cons_iff {rest : List String} (hkind : kind ≠ .directory) :
    Leads reply directory (name :: rest) kind ↔
      (rest = [] ∧ HasEntry reply directory name kind) ∨
        (HasEntry reply directory name .directory ∧
          Leads reply (Path.join directory name) rest kind) := by
  constructor
  · intro h
    cases h with
    | entry hentry => exact .inl ⟨rfl, hentry⟩
    | down hentry hrest => exact .inr ⟨hentry, hrest⟩
  · rintro (⟨rfl, hentry⟩ | ⟨hentry, hrest⟩)
    · exact .entry hentry hkind
    · exact .down hentry hrest

/-- A chapter's names start with an entry, which is a file or a directory that the others lead down
from. -/
theorem isChapterFile_cons_iff {rest : List String} :
    IsChapterFile reply directory (name :: rest) ↔
      (rest = [] ∧ HasEntry reply directory name .file ∧ isChapterName name = true) ∨
        (HasEntry reply directory name .directory ∧
          IsChapterFile reply (Path.join directory name) rest) := by
  have hfile : (EntryKind.file : EntryKind) ≠ .directory := nofun
  unfold IsChapterFile
  rw [leads_cons_iff hfile]
  cases rest with
  | nil =>
    have hnone : ¬Leads reply (Path.join directory name) [] .file := nofun
    simp [hnone]
  | cons next rest => simp [and_assoc]

theorem not_isChapterFile_nil : ¬IsChapterFile reply directory [] := fun h ↦ nomatch h.1

/-! ### Entries that are read -/

variable {ancestors : List Ancestor} {enter : String → String → Act DocsTree}

/-- Reads one entry of a directory, given how to read a directory. -/
def readEntry (ancestors : List Ancestor) (enter : String → String → Act DocsTree)
    (directory name : String) : EntryKind → Act DocsTree
  | .file => readChapter (Path.join directory name) name
  | .directory => enter (Path.join directory name) name
  | .link => readLinked ancestors enter (Path.join directory name) name
  | .special => pure (.other name)

/-- Entries are read one after the other. -/
theorem under_readEntries (entries : List (String × EntryKind)) :
    (readEntries ancestors enter directory entries).under reply = entries.map fun entry ↦
      (readEntry ancestors enter directory entry.1 entry.2).under reply := by
  induction entries with
  | nil => rfl
  | cons entry rest ih =>
    obtain ⟨name, kind⟩ := entry
    have hcons : readEntries ancestors enter directory ((name, kind) :: rest) =
        readEntry ancestors enter directory name kind >>= fun first ↦
          readEntries ancestors enter directory rest >>= fun more ↦ pure (first :: more) := by
      cases kind <;> rfl
    rw [hcons, Act.under_bind, Act.under_bind, ih]
    rfl

theorem under_readEntry_error {error : IoError}
    (h : follow reply (Path.join directory name) given = .error error) :
    (readEntry ancestors enter directory name given).under reply =
      .failed (.io (Path.join directory name) error) := by
  cases given with
  | link =>
    change reply (.entryKind (Path.join directory name) true) = .error error at h
    rw [readEntry, readLinked, Act.under_bind, Act.under_request, h]
    rfl
  | _ => cases h

theorem under_readEntry_file (h : follow reply (Path.join directory name) given = .ok .file) :
    (readEntry ancestors enter directory name given).under reply =
      (readChapter (Path.join directory name) name).under reply := by
  cases given with
  | file => rfl
  | link =>
    change reply (.entryKind (Path.join directory name) true) = .ok .file at h
    rw [readEntry, readLinked, Act.under_bind, Act.under_request, h]
  | _ => cases h

theorem under_readEntry_other (h : follow reply (Path.join directory name) given = .ok kind)
    (hfile : kind ≠ .file) (hdirectory : kind ≠ .directory) :
    (readEntry ancestors enter directory name given).under reply = .other name := by
  cases given with
  | file => exact absurd (Except.ok.inj h).symm hfile
  | directory => exact absurd (Except.ok.inj h).symm hdirectory
  | special => rfl
  | link =>
    change reply (.entryKind (Path.join directory name) true) = .ok kind at h
    rw [readEntry, readLinked, Act.under_bind, Act.under_request, h]
    cases kind with
    | file => exact absurd rfl hfile
    | directory => exact absurd rfl hdirectory
    | _ => rfl

/-- A directory is entered, or it has no place, or its place is that of a directory on the way. -/
theorem under_readEntry_directory
    (h : follow reply (Path.join directory name) given = .ok .directory) :
    (readEntry ancestors enter directory name given).under reply =
        (enter (Path.join directory name) name).under reply ∨
      ∃ cause, (readEntry ancestors enter directory name given).under reply = .failed cause ∧
        ∀ place, reply (.canonical (Path.join directory name)) = Except.ok place →
          ∃ ancestor ∈ ancestors, ancestor.place = place := by
  cases given with
  | directory => exact .inl rfl
  | link =>
    change reply (.entryKind (Path.join directory name) true) = .ok .directory at h
    rw [readEntry, readLinked, Act.under_bind, Act.under_request, h]
    dsimp only
    rw [Act.under_bind, Act.under_request]
    cases hplace : (reply (.canonical (Path.join directory name)) : Except IoError String) with
    | error error => exact .inr ⟨_, rfl, nofun⟩
    | ok place =>
      dsimp only
      cases hfind : ancestors.find? fun ancestor ↦ ancestor.place = place with
      | none => exact .inl rfl
      | some ancestor =>
        refine .inr ⟨_, rfl, fun other hother ↦ ⟨ancestor, List.mem_of_find?_eq_some hfind, ?_⟩⟩
        have hsame := List.find?_some hfind
        rw [decide_eq_true_iff] at hsame
        rw [hsame, Except.ok.inj hother]
  | _ => cases h

/-- The entries of a directory are read in the order of their names. -/
theorem under_readDirectory {depth : Nat} {path place : String}
    (hlisted : reply (.entries path) = Except.ok listed)
    (hplace : reply (.canonical path) = Except.ok place) :
    (readDirectory (depth + 1) ancestors path name).under reply = .directory name
      ((inOrder listed).map fun entry ↦ (readEntry (⟨path, place⟩ :: ancestors)
        (readDirectory depth (⟨path, place⟩ :: ancestors)) path entry.1 entry.2).under reply) := by
  rw [readDirectory, Act.under_bind, Act.under_bind, Act.under_request, Act.under_request, hlisted,
    hplace]
  dsimp only
  rw [Act.under_bind, under_readEntries]
  rfl

/-- A directory has entries and a place, or it is not read. -/
theorem listed_or_failed (depth : Nat) (ancestors : List Ancestor) (path name : String) :
    (∃ listed place, reply (.entries path) = Except.ok listed ∧
      reply (.canonical path) = Except.ok place) ∨
    Obstructed reply path ∧ ∃ cause,
      (readDirectory (depth + 1) ancestors path name).under reply = .failed cause := by
  rw [readDirectory, Act.under_bind, Act.under_bind, Act.under_request, Act.under_request]
  cases hlisted : (reply (.entries path) : Except IoError (List (String × EntryKind))) with
  | error error => exact .inr ⟨.unlisted hlisted, _, rfl⟩
  | ok listed =>
    cases hplace : (reply (.canonical path) : Except IoError String) with
    | error error => exact .inr ⟨.unplaced hplace, _, rfl⟩
    | ok place => exact .inl ⟨listed, place, rfl, rfl⟩

end Reading

/-! ### What is found on the way -/

section Finding

variable {reply : (request : Request) → request.Reply} {directory name : String}
  {given : EntryKind} {listed : List (String × EntryKind)} {ancestors : List Ancestor}

/-- What is found where names lead from a directory to a chapter. Its path leads along the same
names from another path. -/
def chapterFinding (reply : (request : Request) → request.Reply) (above directory : String)
    (names : List String) : Finding :=
  .chapter (Path.along above names) (reply (.readText (Path.along directory names)))

/-- Findings are those of the chapter files that are reached through entries with some names, in the
order of the names that lead to them. -/
structure Lists (reply : (request : Request) → request.Reply) (directory : String)
    (starts : List String) (files : List (List String)) (findings : String → List Finding) :
    Prop where
  sorted : files.Pairwise (· < ·)
  mem_iff : ∀ file, file ∈ files ↔
    IsChapterFile reply directory file ∧ ∃ name ∈ starts, file.head? = some name
  findings_eq : ∀ above, findings above = files.map (chapterFinding reply above directory)

theorem lists_nil (reply : (request : Request) → request.Reply) (directory : String) :
    Lists reply directory [] [] fun _ ↦ [] :=
  ⟨.nil, by simp, fun _ ↦ rfl⟩

/-- Files that are reached through earlier names stand before those that are reached through later
ones. -/
theorem Lists.append {first second : List String} {files others : List (List String)}
    {findings more : String → List Finding} (h : Lists reply directory first files findings)
    (hothers : Lists reply directory second others more)
    (hlt : ∀ name ∈ first, ∀ other ∈ second, name < other) :
    Lists reply directory (first ++ second) (files ++ others)
      fun above ↦ findings above ++ more above where
  sorted := by
    refine List.pairwise_append.2 ⟨h.sorted, hothers.sorted, fun file hfile other hother ↦ ?_⟩
    obtain ⟨-, name, hname, hhead⟩ := (h.mem_iff file).1 hfile
    obtain ⟨-, otherName, hotherName, hotherHead⟩ := (hothers.mem_iff other).1 hother
    obtain ⟨rest, rfl⟩ := List.head?_eq_some_iff.1 hhead
    obtain ⟨otherRest, rfl⟩ := List.head?_eq_some_iff.1 hotherHead
    exact List.cons_lt_cons_iff.2 (.inl (hlt name hname otherName hotherName))
  mem_iff file := by
    rw [List.mem_append, h.mem_iff, hothers.mem_iff, ← and_or_left]
    simp only [List.mem_append, or_and_right, exists_or]
  findings_eq above := by rw [h.findings_eq, hothers.findings_eq, List.map_append]

/-- What is found through one entry is known from the ways that start with its name. -/
theorem mem_iff_of_cons {files : List (List String)}
    (hhead : ∀ file ∈ files, file.head? = some name)
    (hcons : ∀ rest, name :: rest ∈ files ↔ IsChapterFile reply directory (name :: rest))
    (file : List String) :
    file ∈ files ↔
      IsChapterFile reply directory file ∧ ∃ start ∈ [name], file.head? = some start := by
  constructor
  · intro hfile
    obtain ⟨rest, rfl⟩ := List.head?_eq_some_iff.1 (hhead file hfile)
    exact ⟨(hcons rest).1 hfile, name, List.mem_singleton_self name, rfl⟩
  · rintro ⟨hfile, start, hstart, hfirst⟩
    obtain rfl := List.mem_singleton.1 hstart
    obtain ⟨rest, rfl⟩ := List.head?_eq_some_iff.1 hfirst
    exact (hcons rest).2 hfile

/-- Through an entry that is a file at most its own name leads to a chapter. -/
theorem lists_file (hentry : ∀ kind, HasEntry reply directory name kind ↔ kind = .file) :
    ∃ files, Lists reply directory [name] files
      ((readChapter (Path.join directory name) name).under reply).findings := by
  have hchapter (rest : List String) : IsChapterFile reply directory (name :: rest) ↔
      rest = [] ∧ isChapterName name = true := by
    rw [isChapterFile_cons_iff, hentry, hentry]
    simp
  unfold readChapter
  split
  · next hname =>
    refine ⟨[[name]], List.pairwise_singleton _ _, mem_iff_of_cons ?_ fun rest ↦ ?_, fun _ ↦ rfl⟩
    · exact List.forall_mem_singleton.2 rfl
    · rw [hchapter, and_iff_left hname, List.mem_singleton, List.cons.injEq, and_iff_right rfl]
  · next hname =>
    refine ⟨[], .nil, mem_iff_of_cons nofun fun rest ↦ ?_, fun _ ↦ rfl⟩
    rw [hchapter]
    exact iff_of_false List.not_mem_nil fun h ↦ hname h.2

/-- Nothing is found through an entry that is neither a file nor a directory. -/
theorem lists_other {kind : EntryKind} (hfile : kind ≠ .file) (hdirectory : kind ≠ .directory)
    (hentry : ∀ other, HasEntry reply directory name other ↔ other = kind) :
    Lists reply directory [name] [] (DocsTree.other name).findings where
  sorted := .nil
  mem_iff := by
    refine mem_iff_of_cons nofun fun rest ↦ ?_
    rw [isChapterFile_cons_iff, hentry, hentry]
    simp [hfile.symm, hdirectory.symm]
  findings_eq _ := rfl

/-- What is found in a directory: its chapter files in the order of the names that lead to them. -/
structure FindsAll (reply : (request : Request) → request.Reply) (directory : String)
    (trees : List DocsTree) (files : List (List String)) : Prop where
  sorted : files.Pairwise (· < ·)
  mem_iff : ∀ file, file ∈ files ↔ IsChapterFile reply directory file
  findings_eq : ∀ above, findingsOf above trees =
    files.map (chapterFinding reply above directory)

/-- Through an entry that is a directory its own chapters are found. -/
theorem lists_directory {trees : List DocsTree} {files : List (List String)}
    (hentry : ∀ kind, HasEntry reply directory name kind ↔ kind = .directory)
    (h : FindsAll reply (Path.join directory name) trees files) :
    Lists reply directory [name] (files.map (name :: ·))
      (DocsTree.directory name trees).findings where
  sorted := List.pairwise_map.2 (h.sorted.imp fun hlt ↦ List.cons_lt_cons_iff.2 (.inr ⟨rfl, hlt⟩))
  mem_iff := by
    refine mem_iff_of_cons (List.forall_mem_map.2 fun _ _ ↦ rfl) fun rest ↦ ?_
    rw [isChapterFile_cons_iff, hentry, hentry, List.mem_map_of_injective List.cons_injective,
      h.mem_iff]
    simp
  findings_eq above := by
    rw [DocsTree.findings, h.findings_eq, List.map_map]
    rfl

/-- Entries in the order of their names, each of which lists what is found through it, together list
what is found through all of them. -/
theorem lists_entries {tree : String × EntryKind → DocsTree} {entries : List (String × EntryKind)}
    (hsorted : entries.Pairwise fun first second ↦ first.1 < second.1)
    (h : ∀ entry ∈ entries, ∃ files, Lists reply directory [entry.1] files (tree entry).findings) :
    ∃ files, Lists reply directory (entries.map Prod.fst) files
      fun above ↦ findingsOf above (entries.map tree) := by
  induction entries with
  | nil => exact ⟨[], lists_nil reply directory⟩
  | cons entry entries ih =>
    obtain ⟨hfirst, hrest⟩ := List.pairwise_cons.1 hsorted
    obtain ⟨⟨files, hfiles⟩, hentries⟩ := List.forall_mem_cons.1 h
    obtain ⟨others, hothers⟩ := ih hrest hentries
    refine ⟨files ++ others, hfiles.append hothers fun name hname other hother ↦ ?_⟩
    obtain rfl := List.mem_singleton.1 hname
    obtain ⟨later, hlater, rfl⟩ := List.mem_map.1 hother
    exact hfirst later hlater

/-- Entries with different names are put in strict order. -/
theorem pairwise_inOrder {entries : List (String × EntryKind)}
    (h : (entries.map Prod.fst).Nodup) :
    (inOrder entries).Pairwise fun first second ↦ first.1 < second.1 := by
  have hperm : (inOrder entries).Perm entries := List.mergeSort_perm _ _
  have hnodup : (inOrder entries).Pairwise fun first second ↦ first.1 ≠ second.1 :=
    List.pairwise_map.1 ((hperm.map Prod.fst).nodup_iff.2 h)
  have hle : ∀ first second : String × EntryKind,
      (!decide (second.1 < first.1)) = true ↔ first.1 ≤ second.1 := fun first second ↦ by
    rw [Bool.not_eq_true', decide_eq_false_iff_not, not_lt]
  have hsorted : (inOrder entries).Pairwise fun first second ↦
      (!decide (second.1 < first.1)) = true := by
    refine List.pairwise_mergeSort (fun first second third h hlater ↦ ?_) (fun first second ↦ ?_) _
    · exact (hle first third).2 (((hle first second).1 h).trans ((hle second third).1 hlater))
    · rw [Bool.or_eq_true, hle, hle]
      exact le_total _ _
  exact (hsorted.and hnodup).imp fun h ↦ lt_of_le_of_ne ((hle _ _).1 h.1) h.2

/-- Everything that is found in a tree of a list is found in the list. -/
theorem mem_findingsOf {above : String} {finding : Finding} {tree : DocsTree}
    {trees : List DocsTree} (h : tree ∈ trees) (hfinding : finding ∈ tree.findings above) :
    finding ∈ findingsOf above trees := by
  induction trees with
  | nil => cases h
  | cons first rest ih =>
    rw [findingsOf, List.mem_append]
    rcases List.mem_cons.1 h with rfl | h
    · exact .inl hfinding
    · exact .inr (ih h)

/-- A directory in which something cannot be looked at is not read without a failure. -/
theorem exists_failed_of_obstructed {path : String} (h : Obstructed reply path) (depth : Nat)
    (ancestors : List Ancestor) (name above : String) :
    ∃ cause, .failed cause ∈
      ((readDirectory depth ancestors path name).under reply).findings above := by
  induction depth generalizing path ancestors name above with
  | zero => exact ⟨_, List.mem_singleton_self _⟩
  | succ depth ih =>
    rcases listed_or_failed depth ancestors path name with
      ⟨listed, place, hlisted, hplace⟩ | ⟨-, cause, hfailed⟩
    case inr =>
      rw [hfailed]
      exact ⟨cause, List.mem_singleton_self _⟩
    rw [under_readDirectory hlisted hplace, DocsTree.findings]
    -- An entry that fails, or below which something fails, makes the directory fail.
    have hentry {entryName : String} {given : EntryKind} (hmem : (entryName, given) ∈ listed)
        (cause : Block.WalkError) (hfails : .failed cause ∈ ((readEntry (⟨path, place⟩ :: ancestors)
          (readDirectory depth (⟨path, place⟩ :: ancestors)) path entryName given).under
            reply).findings (Path.join above name)) :
        ∃ cause, .failed cause ∈ findingsOf (Path.join above name)
          ((inOrder listed).map fun entry ↦ (readEntry (⟨path, place⟩ :: ancestors)
            (readDirectory depth (⟨path, place⟩ :: ancestors)) path entry.1 entry.2).under
              reply) := by
      refine ⟨cause, mem_findingsOf (List.mem_map.2 ⟨(entryName, given), ?_, rfl⟩) hfails⟩
      exact (List.mergeSort_perm _ _).mem_iff.2 hmem
    cases h with
    | unlisted h =>
      rw [hlisted] at h
      cases h
    | unplaced h =>
      rw [hplace] at h
      cases h
    | @dangling _ entryName given error _ hothers hmem herror =>
      obtain rfl := Except.ok.inj (hlisted.symm.trans hothers)
      refine hentry hmem (.io (Path.join path entryName) error) ?_
      rw [under_readEntry_error herror]
      exact List.mem_singleton_self _
    | inside hfound hrest =>
      obtain ⟨others, given, hothers, hmem, hfollow⟩ := hfound
      obtain rfl := Except.ok.inj (hlisted.symm.trans hothers)
      rcases under_readEntry_directory hfollow with hentered | ⟨cause, hfailed, -⟩
      · obtain ⟨cause, hcause⟩ := ih hrest (⟨path, place⟩ :: ancestors) _ (Path.join above name)
        refine hentry hmem cause ?_
        rw [hentered]
        exact hcause
      · refine hentry hmem cause ?_
        rw [hfailed]
        exact List.mem_singleton_self _

/-- No directory below, links followed, is at the place of one of the directories on the way. -/
def Apart (reply : (request : Request) → request.Reply) (path : String)
    (ancestors : List Ancestor) : Prop :=
  ∀ ancestor ∈ ancestors, ∀ names, Leads reply path names .directory →
    reply (.canonical (Path.along path names)) ≠ Except.ok ancestor.place

theorem Acyclic.below {path entryName : String} (h : Acyclic reply path)
    (hentry : HasEntry reply path entryName .directory) :
    Acyclic reply (Path.join path entryName) :=
  fun names more place hnames hmore hne hplace ↦
    h (entryName :: names) more place (.down hentry hnames) hmore hne hplace

/-- What is below a directory is apart from it, too. -/
theorem Apart.below {path entryName place : String} (h : Apart reply path ancestors)
    (hentry : HasEntry reply path entryName .directory) (hacyclic : Acyclic reply path)
    (hplace : reply (.canonical path) = Except.ok place) :
    Apart reply (Path.join path entryName) (⟨path, place⟩ :: ancestors) := by
  refine List.forall_mem_cons.2 ⟨fun names hnames ↦ ?_, fun ancestor hancestor names hnames ↦ ?_⟩
  · exact hacyclic [] (entryName :: names) place (.here path) (.down hentry hnames)
      (List.cons_ne_nil _ _) hplace
  · exact h ancestor hancestor (entryName :: names) (.down hentry hnames)

/-- A directory that is apart from those on the way is entered. -/
theorem Apart.under_readEntry {path entryName : String} {enter : String → String → Act DocsTree}
    (h : Apart reply (Path.join path entryName) ancestors)
    (hclear : ¬Obstructed reply (Path.join path entryName))
    (hfollow : follow reply (Path.join path entryName) given = .ok .directory) :
    (readEntry ancestors enter path entryName given).under reply =
      (enter (Path.join path entryName) entryName).under reply := by
  rcases under_readEntry_directory hfollow with hentered | ⟨cause, -, htaken⟩
  · exact hentered
  cases hplace : (reply (.canonical (Path.join path entryName)) : Except IoError String) with
  | error error => exact absurd (.unplaced hplace) hclear
  | ok place =>
    obtain ⟨ancestor, hancestor, hsame⟩ := htaken place hplace
    rw [← hsame] at hplace
    exact absurd hplace (h ancestor hancestor [] (.here _))

/-- What is found through an entry of a directory in which everything can be looked at, given what
is found when a directory is entered. -/
theorem exists_lists {path entryName : String} {enter : String → String → Act DocsTree}
    (hnames : ListsNames reply) (hlisted : reply (.entries path) = Except.ok listed)
    (hmem : (entryName, given) ∈ listed) (hclear : ¬Obstructed reply path)
    (hbelow : HasEntry reply path entryName .directory →
      Apart reply (Path.join path entryName) ancestors ∧
        ∃ trees files, (enter (Path.join path entryName) entryName).under reply =
            .directory entryName trees ∧
          FindsAll reply (Path.join path entryName) trees files) :
    ∃ files, Lists reply path [entryName] files
      ((readEntry ancestors enter path entryName given).under reply).findings := by
  cases hfollow : follow reply (Path.join path entryName) given with
  | error error => exact absurd (.dangling hlisted hmem hfollow) hclear
  | ok found =>
    have hentry (kind : EntryKind) : HasEntry reply path entryName kind ↔ kind = found := by
      rw [hasEntry_iff hnames hlisted hmem, hfollow]
      exact ⟨fun h ↦ (Except.ok.inj h).symm, fun h ↦ congrArg _ h.symm⟩
    by_cases hfile : found = .file
    · rw [hfile] at hfollow hentry
      rw [under_readEntry_file hfollow]
      exact lists_file hentry
    by_cases hdirectory : found = .directory
    · rw [hdirectory] at hfollow hentry
      have hfound : HasEntry reply path entryName .directory := (hentry _).2 rfl
      obtain ⟨hapart, trees, files, hread, hfinds⟩ := hbelow hfound
      rw [hapart.under_readEntry (fun h ↦ hclear (.inside hfound h)) hfollow, hread]
      exact ⟨_, lists_directory hentry hfinds⟩
    · rw [under_readEntry_other hfollow hfile hdirectory]
      exact ⟨[], lists_other hfile hdirectory hentry⟩

/-- The way to a chapter file starts with a name that is listed. -/
theorem IsChapterFile.exists_mem {path : String} {file : List String}
    (h : IsChapterFile reply path file) (hlisted : reply (.entries path) = Except.ok listed) :
    ∃ entryName ∈ listed.map Prod.fst, file.head? = some entryName := by
  cases file with
  | nil => exact absurd h not_isChapterFile_nil
  | cons first rest =>
    obtain ⟨kind, others, given, hothers, hmem, -⟩ : ∃ kind, HasEntry reply path first kind := by
      rcases isChapterFile_cons_iff.1 h with ⟨-, hfound, -⟩ | ⟨hfound, -⟩
      · exact ⟨_, hfound⟩
      · exact ⟨_, hfound⟩
    obtain rfl := Except.ok.inj (hlisted.symm.trans hothers)
    exact ⟨first, List.mem_map_of_mem hmem, rfl⟩

/-- A directory in which everything can be looked at is read, and all its chapter files are found.
Assumes: the depth suffices for every path that is not too long. -/
theorem exists_findsAll (hnames : ListsNames reply) {path : String} (depth : Nat)
    (hdepth : Session.maxWalkDepth ≤ depth + path.length) (hclear : ¬Obstructed reply path)
    (hacyclic : Acyclic reply path) (ancestors : List Ancestor)
    (hapart : Apart reply path ancestors) (name : String) :
    ∃ trees files, (readDirectory depth ancestors path name).under reply = .directory name trees ∧
      FindsAll reply path trees files := by
  induction depth generalizing path ancestors name with
  | zero =>
    -- A path on which nothing can be read any more would be too long to be listed.
    cases hlisted : (reply (.entries path) : Except IoError (List (String × EntryKind))) with
    | error error => exact absurd (.unlisted hlisted) hclear
    | ok listed =>
      have hshort := hnames.short path listed hlisted
      have hlength : path.length ≤ path.utf8ByteSize := Text.length_le_utf8ByteSize path
      omega
  | succ depth ih =>
    rcases listed_or_failed depth ancestors path name with
      ⟨listed, place, hlisted, hplace⟩ | ⟨hobstructed, -⟩
    case inr => exact absurd hobstructed hclear
    have hperm : (inOrder listed).Perm listed := List.mergeSort_perm _ _
    have hentries : ∀ entry ∈ inOrder listed, ∃ files, Lists reply path [entry.1] files
        ((readEntry (⟨path, place⟩ :: ancestors)
          (readDirectory depth (⟨path, place⟩ :: ancestors)) path entry.1 entry.2).under
            reply).findings := by
      intro entry hentry
      refine exists_lists hnames hlisted (hperm.mem_iff.1 hentry) hclear fun hfound ↦ ?_
      have hlonger := Path.length_lt_length_join path (hfound.isEntryName hnames)
      have hbelow := hapart.below hfound hacyclic hplace
      exact ⟨hbelow, ih (by omega) (fun h ↦ hclear (.inside hfound h)) (hacyclic.below hfound) _
        hbelow entry.1⟩
    obtain ⟨files, hfiles⟩ := lists_entries (pairwise_inOrder (hnames.nodup path listed hlisted))
      hentries
    refine ⟨_, files, under_readDirectory hlisted hplace, hfiles.sorted, fun file ↦ ?_,
      hfiles.findings_eq⟩
    rw [hfiles.mem_iff, and_iff_left_iff_imp]
    intro hfile
    obtain ⟨first, hfirst, hhead⟩ := hfile.exists_mem hlisted
    exact ⟨first, (hperm.map Prod.fst).mem_iff.2 hfirst, hhead⟩

end Finding

/-- Looking for chapters where there is a directory for them judges what is found in it. -/
theorem under_discover {reply : (request : Request) → request.Reply} {settings : Settings}
    (h : reply (.entryKind settings.docsDir true) = Except.ok EntryKind.directory) :
    (discover settings).under reply = chaptersFrom settings []
      (((readTree settings.docsDir).under reply).findings "") := by
  rw [discover, Act.under_bind, Act.under_request, h]
  dsimp only
  rw [Act.under_bind]
  rfl

/-! ### Which chapters are found -/

/-- The document in a chapter file, if its text can be read and parsed. -/
def document? (reply : (request : Request) → request.Reply) (directory : String)
    (file : List String) : Option Document :=
  match (reply (.readText (Path.along directory file)) : Except IoError String) with
  | .error _ => none
  | .ok source => (Document.parse source).toOption

/-- The name under which the document in a chapter file keeps its assets. -/
def basename? (reply : (request : Request) → request.Reply) (directory : String)
    (file : List String) : Option String :=
  (document? reply directory file).map (Chapter.basenameOf (Path.along "" file))

section Finding

variable {reply : (request : Request) → request.Reply} {settings : Settings} {directory : String}
  {file : List String} {chapter : Chapter}

theorem Judged.file_eq (h : Judged settings (chapterFinding reply "" directory file) chapter) :
    Path.along "" file = chapter.path ∧ basename? reply directory file = some chapter.basename := by
  unfold chapterFinding at h
  unfold basename? document?
  generalize reply (.readText (Path.along directory file)) = answer at h ⊢
  cases h with
  | chapter hparse hplan => exact ⟨rfl, by simp only [hparse]; rfl⟩

/-- The paths and the basenames of chapters are those of the files that they are. -/
theorem map_eq_of_judged {files : List (List String)} {chapters : List Chapter}
    (h : List.Forall₂ (fun file ↦ Judged settings (chapterFinding reply "" directory file))
      files chapters) :
    files.map (Path.along "") = chapters.map Chapter.path ∧
      files.map (basename? reply directory) = (chapters.map Chapter.basename).map some := by
  rw [List.map_map, ← List.forall₂_eq_eq_eq, List.forall₂_map_left_iff,
    List.forall₂_map_right_iff, ← List.forall₂_eq_eq_eq, List.forall₂_map_left_iff,
    List.forall₂_map_right_iff]
  exact ⟨h.imp fun _ _ h ↦ h.file_eq.1, h.imp fun _ _ h ↦ h.file_eq.2⟩

/-- Where every finding is a chapter, there are the chapters that they are. -/
theorem exists_forall₂_judged {files : List (List String)}
    (h : ∀ file ∈ files, ∃ chapter,
      Judged settings (chapterFinding reply "" directory file) chapter) :
    ∃ chapters, List.Forall₂ (fun file ↦ Judged settings (chapterFinding reply "" directory file))
      files chapters := by
  induction files with
  | nil => exact ⟨[], .nil⟩
  | cons file files ih =>
    obtain ⟨⟨chapter, hchapter⟩, hrest⟩ := List.forall_mem_cons.1 h
    obtain ⟨chapters, hchapters⟩ := ih hrest
    exact ⟨chapter :: chapters, .cons hchapter hchapters⟩

end Finding

/-- Where a project has a directory for chapters and each chapter file in it can be planned, the
chapters are found exactly when everything in the directory can be looked at and no two chapter
files have the same basename. Then each chapter file is found once, in the order of the paths. -/
theorem discover_finds {σ : Type} {host : Host σ} {reply : (request : Request) → request.Reply}
    {settings : Settings}
    (hreply : ∀ state request, request.isLook = true →
      (host.answer state request).1 = reply request)
    (hnames : ListsNames reply)
    (hdocs : reply (.entryKind settings.docsDir true) = Except.ok EntryKind.directory)
    (hacyclic : Acyclic reply settings.docsDir)
    (hplanned : ∀ file, IsChapterFile reply settings.docsDir file →
      ∃ chapter, Judged settings (chapterFinding reply "" settings.docsDir file) chapter)
    (state : σ) :
    ((∃ chapters, ((discover settings).on host state).1 = .ok chapters) ↔
      ¬Obstructed reply settings.docsDir ∧ Set.InjOn (basename? reply settings.docsDir)
        {file | IsChapterFile reply settings.docsDir file}) ∧
    ∀ chapters, ((discover settings).on host state).1 = .ok chapters →
      chapters.Pairwise (fun first second ↦ Path.isBefore first.path second.path = true) ∧
        ∃ files, files.Nodup ∧
          (∀ file, file ∈ files ↔ IsChapterFile reply settings.docsDir file) ∧
          List.Forall₂ (fun file ↦ Judged settings (chapterFinding reply "" settings.docsDir file))
            files chapters := by
  rw [Act.on_eq_under (discover_looks settings) hreply, under_discover hdocs, readTree]
  by_cases hclear : Obstructed reply settings.docsDir
  · obtain ⟨cause, hfailed⟩ :=
      exists_failed_of_obstructed hclear Session.maxWalkDepth [] "" ""
    obtain ⟨earlier, later, hsplit⟩ := List.append_of_mem hfailed
    have hfault : Fault settings earlier (.failed cause) (.walk cause) := .walk cause
    obtain ⟨error, herror⟩ := exists_error_of_fault hsplit hfault
    rw [herror]
    refine ⟨iff_of_false ?_ fun h ↦ h.1 hclear, fun chapters h ↦ ?_⟩
    · rintro ⟨chapters, h⟩
      cases h
    · cases h
  obtain ⟨trees, files, hread, hfinds⟩ := exists_findsAll hnames Session.maxWalkDepth
    (Nat.le_add_right _ _) hclear hacyclic [] (List.forall_mem_nil _) ""
  obtain ⟨judged, hjudged⟩ := exists_forall₂_judged fun file hfile ↦
    hplanned file ((hfinds.mem_iff file).1 hfile)
  have hnodup : files.Nodup := hfinds.sorted.imp ne_of_lt
  have hfound (chapters : List Chapter) :
      chaptersFrom settings [] (files.map (chapterFinding reply "" settings.docsDir)) =
          .ok chapters ↔
        (judged.map Chapter.basename).Nodup ∧ chapters = judged :=
    @chaptersFrom_ok_iff settings _ [] judged (List.forall₂_map_left_iff.2 hjudged) List.nodup_nil
      chapters
  obtain ⟨hpaths, hbasenames⟩ := map_eq_of_judged hjudged
  rw [hread, DocsTree.findings, Path.empty_join, hfinds.findings_eq]
  simp only [hfound]
  constructor
  · rw [exists_and_left, and_iff_left exists_eq, and_iff_right hclear,
      ← List.nodup_map_iff (Option.some_injective String), ← hbasenames,
      List.nodup_map_iff_inj_on hnodup]
    simp only [hfinds.mem_iff]
    rfl
  · rintro chapters ⟨-, rfl⟩
    have hordered : (chapters.map Chapter.path).Pairwise
        fun first second ↦ Path.isBefore first second = true := by
      rw [← hpaths, List.pairwise_map]
      refine hfinds.sorted.imp_of_mem fun hfirst hsecond hlt ↦ ?_
      exact (Path.isBefore_along_iff (((hfinds.mem_iff _).1 hfirst).1.isEntryName hnames)
        (((hfinds.mem_iff _).1 hsecond).1.isEntryName hnames)).2 hlt
    exact ⟨List.pairwise_map.1 hordered, files, hnodup, hfinds.mem_iff, hjudged⟩

/-- Where each path is its own place, no directory is in itself. -/
theorem acyclic_of_canonical {reply : (request : Request) → request.Reply}
    (hnames : ListsNames reply) (h : ∀ path, reply (.canonical path) = Except.ok path)
    (directory : String) : Acyclic reply directory := by
  intro names more place hleads hmore hne hplace hsame
  rw [h] at hplace hsame
  have hpath := (Except.ok.inj hsame).trans (Except.ok.inj hplace).symm
  have hlength : (Path.along directory names).length + more.length ≤
      (Path.along (Path.along directory names) more).length :=
    Path.length_le_length_along (hmore.isEntryName hnames)
  rw [hpath] at hlength
  exact hne (List.eq_nil_of_length_eq_zero (by omega))

/-- The answers of a machine with a chapter and a link beside it, which leads to something. -/
def besideLink (target : Except IoError EntryKind) : (request : Request) → request.Reply
  | .entryKind path _ => if path = "chapters" then Except.ok .directory else target
  | .entries path =>
    if path = "chapters" then Except.ok [("a", .link), ("b.md", .file)]
    else if path = "chapters/a" then Except.ok [("c.md", .file)]
    else Except.error .notFile
  | .canonical path => Except.ok path
  | .readText _ => Except.ok "# A\n"
  | request => request.easyReply

theorem besideLink_listsNames (target : Except IoError EntryKind) :
    ListsNames (besideLink target) := by
  have hlisted {path : String} {listed : List (String × EntryKind)}
      (h : besideLink target (.entries path) = Except.ok listed) :
      (path = "chapters" ∧ listed = [("a", .link), ("b.md", .file)]) ∨
        (path = "chapters/a" ∧ listed = [("c.md", .file)]) := by
    by_cases htop : path = "chapters"
    · exact .inl ⟨htop, (Except.ok.inj ((if_pos htop).symm.trans h)).symm⟩
    have hbelow := (if_neg htop).symm.trans h
    by_cases hlinked : path = "chapters/a"
    · exact .inr ⟨hlinked, (Except.ok.inj ((if_pos hlinked).symm.trans hbelow)).symm⟩
    · cases (if_neg hlinked).symm.trans hbelow
  constructor
  · intro path listed h
    rcases hlisted h with ⟨-, rfl⟩ | ⟨-, rfl⟩ <;> decide
  · intro path listed h
    rcases hlisted h with ⟨-, rfl⟩ | ⟨-, rfl⟩
    · exact List.forall_mem_cons.2 ⟨⟨by decide, by decide⟩,
        List.forall_mem_singleton.2 ⟨by decide, by decide⟩⟩
    · exact List.forall_mem_singleton.2 ⟨by decide, by decide⟩
  · intro path listed h
    rcases hlisted h with ⟨rfl, -⟩ | ⟨rfl, -⟩ <;> decide

theorem exists_judged_besideLink (target : Except IoError EntryKind) (directory : String)
    (file : List String) : ∃ chapter,
      Judged Settings.default (chapterFinding (besideLink target) "" directory file) chapter := by
  have hparse : Document.parse "# A\n" = .ok ⟨none, [.markdown "# A\n"]⟩ := by decide +kernel
  have hplan : Document.plan ⟨none, [.markdown "# A\n"]⟩ Settings.default.scope = .ok [] := rfl
  exact ⟨_, .chapter hparse hplan⟩

theorem inOrder_besideLink :
    inOrder [("a", .link), ("b.md", .file)] = [("a", .link), ("b.md", .file)] :=
  List.mergeSort_of_pairwise (by decide +kernel)

/-- A link that leads to a directory is followed, and the chapter in it stands first. -/
theorem discover_finds_besideLink :
    let reply := besideLink (Except.ok .directory)
    let host : Host Unit := .answering (fun _ _ ↦ (0, ())) reply
    ∃ chapters, ((discover Settings.default).on host ()).1 = .ok chapters ∧
      chapters.map Chapter.path = ["a/c.md", "b.md"] ∧
      ¬Obstructed reply "chapters" ∧
      Set.InjOn (basename? reply "chapters") {file | IsChapterFile reply "chapters" file} ∧
      chapters.Pairwise fun first second ↦ Path.isBefore first.path second.path = true := by
  intro reply host
  have hbelow (depth : Nat) (ancestors : List Ancestor) :
      (readDirectory (depth + 1) ancestors "chapters/a" "a").under reply =
        .directory "a" [.chapter "c.md" (.ok "# A\n")] := by
    rw [under_readDirectory rfl rfl, inOrder, List.mergeSort_singleton]
    rfl
  have htree : (readTree "chapters").under reply = .directory ""
      [.directory "a" [.chapter "c.md" (.ok "# A\n")], .chapter "b.md" (.ok "# A\n")] := by
    rw [readTree, show Session.maxWalkDepth = 4094 + 1 + 1 from rfl, under_readDirectory rfl rfl,
      inOrder_besideLink, ← hbelow 4094]
    rfl
  have hfound : ((discover Settings.default).on host ()).1.toOption.map
      (List.map Chapter.path) = some ["a/c.md", "b.md"] := by
    rw [Act.on_eq_under (discover_looks _) fun _ _ _ ↦ rfl, under_discover rfl]
    change (chaptersFrom Settings.default []
      (((readTree "chapters").under reply).findings "")).toOption.map _ = _
    rw [htree]
    decide +kernel
  obtain ⟨hiff, hall⟩ := @discover_finds Unit host reply Settings.default (fun _ _ _ ↦ rfl)
    (besideLink_listsNames _) rfl (acyclic_of_canonical (besideLink_listsNames _) (fun _ ↦ rfl) _)
    (fun file _ ↦ exists_judged_besideLink _ _ file) ()
  obtain ⟨chapters, hdiscover, hpaths⟩ := exists_of_toOption_map hfound
  obtain ⟨hclear, hdistinct⟩ := hiff.1 ⟨chapters, hdiscover⟩
  exact ⟨chapters, hdiscover, hpaths, hclear, hdistinct, (hall chapters hdiscover).1⟩

/-- A link that leads nowhere keeps a project from having chapters, whatever they are. -/
theorem discover_dangling :
    let reply := besideLink (Except.error .notFound)
    let host : Host Unit := .answering (fun _ _ ↦ (0, ())) reply
    ListsNames reply ∧ reply (.entryKind "chapters" true) = Except.ok EntryKind.directory ∧
      Acyclic reply "chapters" ∧
      (∀ file, IsChapterFile reply "chapters" file →
        ∃ chapter, Judged Settings.default (chapterFinding reply "" "chapters" file) chapter) ∧
      Set.InjOn (basename? reply "chapters") {file | IsChapterFile reply "chapters" file} ∧
      ((discover Settings.default).on host ()).1 = .error (.walk (.io "chapters/a" .notFound)) := by
  intro reply host
  have hnames : ListsNames reply := besideLink_listsNames _
  refine ⟨hnames, rfl, acyclic_of_canonical hnames (fun _ ↦ rfl) _,
    fun file _ ↦ exists_judged_besideLink _ _ file, ?_, ?_⟩
  · have hentry {name : String} {kind : EntryKind} (h : HasEntry reply "chapters" name kind) :
        name = "b.md" ∧ kind = .file := by
      obtain ⟨listed, given, hlisted, hmem, hfollow⟩ := h
      obtain rfl : [("a", .link), ("b.md", .file)] = listed := Except.ok.inj hlisted
      rcases List.mem_pair.1 hmem with h | h
      · cases h
        cases hfollow
      · cases h
        cases hfollow
        exact ⟨rfl, rfl⟩
    have honly {file : List String} (h : IsChapterFile reply "chapters" file) :
        file = ["b.md"] := by
      cases file with
      | nil => exact absurd h not_isChapterFile_nil
      | cons name rest =>
        rcases isChapterFile_cons_iff.1 h with ⟨rfl, hfound, -⟩ | ⟨hfound, -⟩
        · rw [(hentry hfound).1]
        · cases (hentry hfound).2
    intro first hfirst second hsecond _
    rw [honly hfirst, honly hsecond]
  · have htree : (readTree "chapters").under reply = .directory ""
        [.failed (.io "chapters/a" .notFound), .chapter "b.md" (.ok "# A\n")] := by
      rw [readTree, show Session.maxWalkDepth = 4095 + 1 from rfl, under_readDirectory rfl rfl,
        inOrder_besideLink]
      rfl
    rw [Act.on_eq_under (discover_looks _) fun _ _ _ ↦ rfl, under_discover rfl]
    change chaptersFrom Settings.default [] (((readTree "chapters").under reply).findings "") = _
    rw [htree]
    rfl

end Build

end Runbook
