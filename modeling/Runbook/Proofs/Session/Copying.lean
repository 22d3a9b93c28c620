import Runbook.Proofs.Sandbox.Staging
import Runbook.Proofs.Session.Mirrors
import Runbook.Session.Checkpoint
/-!
# Copying a tree

A copy of the working directory is put into a new directory, which can itself be somewhere in the
working directory. Two things keep it from being copied into itself: it lies below the path that is
skipped, and its name is spelled nowhere else, so whatever is asked about another path has the same
answer while it is filled (`IsSource`, `IsTarget`).

The proofs follow the program: an entry that is left out (`alters_isLeftOut`), a link
(`alters_copyLink`) or a file (`alters_copyFile`), a directory in another one (`alters_copyChild`),
all entries of a directory (`alters_copyEntries`), and by induction on the depth a whole directory
(`alters_copyDirectory`). At every moment only the directory for the copy has been filled, and the
work stops only where the machine refuses a request or where the tree is too deep (`Stopped`). What
it ends with is exactly what is kept of the tree (`copyTree_mirrors`).
-/

set_option autoImplicit false

namespace Runbook.Session

open Block Machine Sandbox Work

namespace Copying

/-- What a copy is begun with: a staging directory that lies below the path that is skipped. -/
structure Ready (job : Copying) (fresh : String) : Prop where
  sound : job.files.Sound
  rooted : job.files.Rooted
  here : job.files.isDirectory job.here = true
  staging : job.files.IsStaging job.here job.staging fresh
  below : Path.isBelow (ByteText.toText (job.files.pathTo job.staging)) job.skip = true

/-- A path leads to a directory that is copied. -/
structure IsSource (job : Copying) (fresh source : String) (id : NodeId) : Prop where
  leads : job.files.Leads job.here (ByteText.ofText source) id
  isDirectory : job.files.isDirectory id = true
  notMem : fresh ∉ FileSystem.pieces (ByteText.ofText source)

/-- A path leads to a directory that is copied if the path can be followed. Then it does not lead to
the staging directory, whose name the path would end in. -/
structure IsCandidate (job : Copying) (fresh source : String) (id : NodeId) : Prop where
  leads : job.files.Leads job.here (ByteText.ofText source) id
  isDirectory : job.files.isDirectory id = true
  notMem : fresh ∉ (FileSystem.pieces (ByteText.ofText source)).dropLast
  notMem_of_find : ∀ found, job.files.find job.here (ByteText.ofText source) true = .ok found →
    fresh ∉ FileSystem.pieces (ByteText.ofText source)

/-- A path leads to a directory that is filled with copies. -/
structure IsTarget (job : Copying) (files : FileSystem) (target : String) (copy : NodeId) :
    Prop where
  fills : job.files.Fills job.staging files
  inside : copy = job.staging ∨ job.files.nodes.size ≤ copy
  isDirectory : files.isDirectory copy = true
  leads : files.Leads job.here (ByteText.ofText target) copy

/-- An entry has been copied into a directory. -/
structure Copied (job : Copying) (files : FileSystem) (copy : NodeId) (source name : String)
    (child : NodeId) (number : Nat) (after : FileSystem) : Prop where
  fills : files.Fills copy after
  others : ∀ other ≠ ByteText.ofText name, after.named (copy, other) = files.named (copy, other)
  mirrors : ∃ twin, after.named (copy, ByteText.ofText name) = some twin ∧
    job.Mirrors (Path.join source name) child after twin number

/-- A directory that is copied has directories below it down to some depth. -/
def IsDeep (job : Copying) (source : String) (id : NodeId) (depth : Nat) : Prop :=
  ∃ names directory, names.length = depth ∧ job.Kept source names ∧
    job.files.descend id (names.map ByteText.ofText) = some directory ∧
      job.files.isDirectory directory = true

/-- Work on a copy has stopped: the source is as it was, and the machine has refused a request, or
the source is too deep. -/
def Stopped (job : Copying) (refuses : Request → Prop) (source : String) (id : NodeId)
    (depth : Nat) (_ : Stop) (after : FileSystem) : Prop :=
  job.files.Fills job.staging after ∧ ((∃ request, refuses request) ∨ job.IsDeep source id depth)

variable {job : Copying} {fresh source target name : String} {id child copy : NodeId}
  {cur after : FileSystem} {refuses : Request → Prop} {known : List String} {session : Session}
  {kind : EntryKind} {number depth : Nat} {content : Content}
  {stopped : Stop → FileSystem → Prop}

theorem IsSource.isOutside (h : job.IsSource fresh source id) (hready : job.Ready fresh) :
    job.files.IsOutside job.staging id := by
  obtain ⟨_, _, hreaches⟩ := h.leads
  exact hready.staging.isOutside_of_reaches hready.sound
    (hready.staging.isOutside_start hready.sound (hready.staging.isOutside_here hready.here) _)
    h.notMem hreaches rfl

theorem IsSource.notMem_dropLast (h : job.IsSource fresh source id)
    (hname : Path.IsEntryName name) :
    fresh ∉ (FileSystem.pieces (ByteText.ofText (Path.join source name))).dropLast := by
  rw [(@FileSystem.goesOn_join job.here source name hname).pieces, List.dropLast_concat]
  exact h.notMem

theorem IsTarget.bounded (h : job.IsTarget cur target copy) (hready : job.Ready fresh) :
    cur.Bounded :=
  h.fills.bounded hready.sound.named

theorem IsTarget.fills_trans (h : job.IsTarget cur target copy) (hfills : cur.Fills copy after) :
    job.files.Fills job.staging after :=
  h.fills.trans hfills h.inside

theorem isDirectory_of_kindOf {content : Content} (h : System.kindOf content = .directory) :
    ∃ parent entries, content = .directory parent entries := by
  cases content with
  | directory parent entries => exact ⟨parent, entries, rfl⟩
  | _ => cases h

section

variable (hready : job.Ready fresh)
include hready

theorem alters_isLeftOut {path : String} (hfills : job.files.Fills job.staging cur)
    (hpath : fresh ∉ (FileSystem.pieces (ByteText.ofText path)).dropLast) :
    (isLeftOut job.exclude job.skip path name).Alters (Tree.Step refuses known job.here)
      (job.files.Fills job.staging) session cur
      (fun out after ↦ after = cur ∧ (out = true ↔ job.LeftOut path name)) stopped := by
  unfold isLeftOut
  split
  · rename_i hname
    exact .pure ⟨rfl, iff_of_true rfl (.inl hname)⟩
  · rename_i hname
    refine .ask_bind fun reply reached ⟨hsame, hreply⟩ ↦ ?_
    subst hsame
    rw [hready.staging.canonical_eq hready.sound hfills hready.rooted
      (hready.staging.isOutside_here hready.here) hpath] at hreply
    refine ⟨hfills, ?_⟩
    have hout : job.LeftOut path name ↔ ∃ place,
        job.files.canonical job.here (ByteText.ofText path) = .ok place ∧
          Path.isBelow (ByteText.toText place) job.skip = true :=
      or_iff_right hname
    cases hcanonical : job.files.canonical job.here (ByteText.ofText path) with
    | error code =>
      rw [hcanonical] at hreply
      cases reply with
      | ok place => cases hreply
      | error error =>
        refine .pure ⟨rfl, iff_of_false Bool.false_ne_true fun hleft ↦ ?_⟩
        obtain ⟨place, hplace, -⟩ := hout.1 hleft
        cases hplace.symm.trans hcanonical
    | ok place =>
      rw [hcanonical] at hreply
      cases reply with
      | error error => cases hreply
      | ok text =>
        obtain rfl : text = ByteText.toText place := Option.some.inj hreply
        refine .pure ⟨rfl, ?_⟩
        rw [hout, hcanonical]
        exact ⟨fun hbelow ↦ ⟨place, rfl, hbelow⟩, fun ⟨_, heq, hbelow⟩ ↦ by cases heq; exact hbelow⟩

/-- A file or a link is copied to a new node. -/
theorem copied_of_gains
    (hgains : cur.Gains copy (ByteText.ofText name) content after)
    (hchild : job.files.isDirectory child = false)
    (halike : Alike (job.files.content child) content)
    (hnumber : (after.filesBelow cur.nodes.size).encard = number) :
    job.Copied cur copy source name child number after := by
  refine ⟨hgains.fills, hgains.others, cur.nodes.size, hgains.named, ?_⟩
  rw [← hgains.content_new] at halike
  refine mirrors_of_plain hchild ?_ halike ?_ hnumber
  · unfold FileSystem.isDirectory at hchild ⊢
    generalize job.files.content child = original at hchild halike
    generalize after.content cur.nodes.size = twin at halike ⊢
    cases halike with
    | directory => cases hchild
    | _ => rfl
  · rintro rfl
    cases hready.staging.isDirectory.symm.trans hchild

section

variable (htarget : job.IsTarget cur target copy) (hsource : job.IsSource fresh source id)
  (hname : Path.IsEntryName name) (hchild : job.files.named (id, ByteText.ofText name) = some child)
  (hplain : job.files.isDirectory child = false)
include htarget hsource hname hchild hplain

/-- A link is made that points to the same path. -/
theorem alters_copyLink :
    (copyEntry (Path.join source name) (Path.join target name) .link).Alters
      (Tree.Step refuses known job.here) (job.files.Fills job.staging) session cur
      (fun number ↦ job.Copied cur copy source name child number)
      (fun _ after ↦ job.files.Fills job.staging after ∧ ∃ request, refuses request) := by
  have hgoes (path : String) := @FileSystem.goesOn_join job.here path name hname
  refine .askOr_bind ?_ ?_ fun reply reached text hstep htext ↦ ?_
  · rintro (error | text) reached hstep
    · exact hstep.2 ▸ htarget.fills
    · exact hstep.1 ▸ htarget.fills
  · rintro reply reached error hstep rfl
    exact ⟨hstep.2 ▸ htarget.fills, _, hstep.1⟩
  subst htext
  obtain ⟨rfl, hread⟩ := hstep
  have hcontent : job.files.content child = .link (ByteText.ofText text) :=
    hsource.leads.content_of_readLink hready.sound hready.here (hgoes source)
      (FileSystem.endsInSlash_join hname) hchild
      (hready.staging.readLink_eq_ok hready.sound htarget.fills hready.here
        hready.staging.ne_here (hsource.notMem_dropLast hname) hread)
  have hmade {after : FileSystem} (h : reached.makeLink job.here (ByteText.ofText text)
      (ByteText.ofText (Path.join target name)) = .ok after) :
      reached.Gains copy (ByteText.ofText name) (.link (ByteText.ofText text)) after := by
    obtain ⟨spot, hspot, hgains⟩ := FileSystem.gains_of_makeLink h
    obtain rfl := htarget.leads.spot_eq (hgoes target) hspot
    exact hgains
  refine .askOr_bind ?_ ?_ fun reply after done hstep hdone ↦ ?_
  · rintro (error | done) after hstep
    · exact hstep.2 ▸ htarget.fills
    · exact htarget.fills_trans (hmade hstep).fills
  · rintro reply after error hstep rfl
    exact ⟨hstep.2 ▸ htarget.fills, _, hstep.1⟩
  subst hdone
  have hgains := hmade hstep
  refine .pure (copied_of_gains hready hgains hplain (hcontent ▸ .link) ?_)
  rw [FileSystem.filesBelow_of_link hgains.content_new, Set.encard_empty]
  rfl

/-- A file is copied to a new one. -/
theorem alters_copyFile (hlink : kind ≠ .link)
    (hcontent : ∀ target, job.files.content child ≠ .link target)
    (hfree : cur.named (copy, ByteText.ofText name) = none) :
    (copyEntry (Path.join source name) (Path.join target name) kind).Alters
      (Tree.Step refuses known job.here) (job.files.Fills job.staging) session cur
      (fun number ↦ job.Copied cur copy source name child number)
      (fun _ after ↦ job.files.Fills job.staging after ∧ ∃ request, refuses request) := by
  have hgoes (path : String) := @FileSystem.goesOn_join job.here path name hname
  have hmade {bytes : Bytes} {mode : Nat} {opened : NodeId} {open' after : FileSystem}
      (h : cur.openNode job.here (ByteText.ofText (Path.join target name)) Tree.copyHow mode =
        .ok (opened, open')) (hafter : after = open'.filled opened bytes mode) :
      cur.Gains copy (ByteText.ofText name) (.file bytes) after := by
    obtain ⟨rfl, hgains⟩ := FileSystem.gains_of_openNode htarget.leads (hgoes target) hfree h
    rw [hafter, FileSystem.filled, hgains.content_new]
    exact hgains.setNode rfl
  unfold copyEntry
  rw [if_neg hlink]
  refine .askOr_bind ?_ ?_ fun reply after done hstep hdone ↦ ?_
  · rintro (error | done) after hstep
    · rcases (hstep.2 error rfl).2 with rfl | ⟨_, _, _, _, hopened, hafter⟩
      · exact htarget.fills
      · exact htarget.fills_trans (hmade hopened hafter).fills
    · obtain ⟨_, _, _, _, _, _, _, hopened, hafter⟩ := hstep.1 rfl
      exact htarget.fills_trans (hmade hopened hafter).fills
  · rintro reply after error hstep rfl
    obtain ⟨hrefused, hafter⟩ := hstep.2 error rfl
    refine ⟨?_, _, hrefused⟩
    rcases hafter with rfl | ⟨_, _, _, _, hopened, hafter⟩
    · exact htarget.fills
    · exact htarget.fills_trans (hmade hopened hafter).fills
  subst hdone
  obtain ⟨found, bytes, opened, open', mode, hfind, hbytes, hopened, hafter⟩ := hstep.1 rfl
  have hgains := hmade hopened hafter
  rw [hready.staging.find_eq hready.sound htarget.fills (hready.staging.isOutside_here hready.here)
    (hsource.notMem_dropLast hname)] at hfind
  obtain rfl := hsource.leads.find_eq (hgoes source) hchild hcontent hfind
  have hfile : job.files.content found = .file bytes := by
    have hne : found ≠ job.staging := by
      rintro rfl
      cases hready.staging.isDirectory.symm.trans hplain
    rw [FileSystem.content, htarget.fills.node found (hready.sound.named _ _ hchild) hne] at hbytes
    exact hbytes
  refine .pure (copied_of_gains hready hgains hplain (hfile ▸ .file) ?_)
  rw [FileSystem.filesBelow_of_file hgains.content_new, Set.encard_singleton]
  rfl

end

theorem alters_copyEntry (htarget : job.IsTarget cur target copy)
    (hsource : job.IsSource fresh source id) (hname : Path.IsEntryName name)
    (hchild : job.files.named (id, ByteText.ofText name) = some child)
    (hkind : kind = System.kindOf (job.files.content child)) (hplain : kind ≠ .directory)
    (hfree : cur.named (copy, ByteText.ofText name) = none) :
    (copyEntry (Path.join source name) (Path.join target name) kind).Alters
      (Tree.Step refuses known job.here) (job.files.Fills job.staging) session cur
      (fun number ↦ job.Copied cur copy source name child number)
      (fun _ after ↦ job.files.Fills job.staging after ∧ ∃ request, refuses request) := by
  have hnotDirectory : job.files.isDirectory child = false := by
    by_contra hdirectory
    rw [Bool.not_eq_false] at hdirectory
    rw [FileSystem.content_of_isDirectory hdirectory] at hkind
    exact hplain hkind
  by_cases hlink : kind = .link
  · rw [hlink]
    exact alters_copyLink hready htarget hsource hname hchild hnotDirectory
  · refine alters_copyFile hready htarget hsource hname hchild hnotDirectory hlink
      (fun target heq ↦ hlink (hkind.trans ?_)) hfree
    rw [heq]
    rfl

/-- A directory that is kept is a candidate for copying. -/
theorem IsSource.candidate (h : job.IsSource fresh source id) (hname : Path.IsEntryName name)
    (hchild : job.files.named (id, ByteText.ofText name) = some child)
    (hdirectory : job.files.isDirectory child = true)
    (hkept : ¬job.LeftOut (Path.join source name) name) :
    job.IsCandidate fresh (Path.join source name) child := by
  have hgoes := @FileSystem.goesOn_join job.here source name hname
  have hplain (target : String) : job.files.content child ≠ .link target := by
    rw [FileSystem.content_of_isDirectory hdirectory]
    exact nofun
  refine ⟨h.leads.down hgoes hchild hplain, hdirectory, h.notMem_dropLast hname,
    fun found hfound hin ↦ ?_⟩
  rw [hgoes.pieces] at hin
  rcases List.mem_append.1 hin with hin | hin
  · exact h.notMem hin
  · -- The entry would be the staging directory, which is left out.
    obtain rfl := (hready.staging.named_iff _ _ hchild).2 (List.mem_singleton.1 hin).symm
    obtain rfl := h.leads.find_eq hgoes hchild hplain hfound
    refine hkept (.inr ⟨job.files.pathTo job.staging, ?_, hready.below⟩)
    unfold FileSystem.canonical
    rw [hfound]
    simp only [bind, Except.bind, hdirectory, if_true, pure, Except.pure]

theorem IsTarget.further (h : job.IsTarget cur target copy) (hfills : cur.Fills copy after) :
    job.IsTarget after target copy where
  fills := h.fills_trans hfills
  inside := h.inside
  isDirectory := (hfills.isDirectory_eq hfills.lt_size).trans h.isDirectory
  leads := hfills.leads (h.bounded hready) h.leads

/-- A copy in a directory stays while further entries are copied there. -/
theorem IsTarget.mirrors_later (h : job.IsTarget cur target copy) {twin : NodeId}
    (htwin : cur.named (copy, name) = some twin) (hfills : cur.Fills copy after)
    (hmirrors : job.Mirrors source child cur twin number) :
    job.Mirrors source child after twin number := by
  obtain ⟨hlt, hnew⟩ := h.fills.lt_of_named hready.staging.empty h.inside htwin
  have hbelow (path : List String) := @FileSystem.Fills.descend_eq _ _ _ _ path _ _ h.fills
    hready.staging.empty (h.bounded hready) hfills hlt hnew (h.bounded hready _ _ htwin)
  exact hmirrors.congr (fun path ↦ (hbelow path).1) fun path ↦ (hbelow path).2

end

/-- A directory below one that is copied. -/
theorem Stopped.of_child {stop : Stop}
    (h : job.Stopped refuses (Path.join source name) child depth stop after)
    (hchild : job.files.named (id, ByteText.ofText name) = some child)
    (hkept : ¬job.LeftOut (Path.join source name) name) :
    job.Stopped refuses source id (depth + 1) stop after := by
  refine ⟨h.1, h.2.imp_right ?_⟩
  rintro ⟨names, directory, rfl, hnames, hdirectory, his⟩
  exact ⟨name :: names, directory, rfl, ⟨hkept, hnames⟩,
    (FileSystem.descend_cons hchild _).trans hdirectory, his⟩

/-- What copying directories down to some depth does. -/
def CopiesDirectories (job : Copying) (fresh : String) (refuses : Request → Prop)
    (known : List String) (depth : Nat) : Prop :=
  ∀ session cur source target id copy, job.IsCandidate fresh source id →
    job.IsTarget cur target copy → (∀ name, cur.named (copy, name) = none) →
    (copyDirectory job.exclude job.skip depth source target).Alters
      (Tree.Step refuses known job.here) (job.files.Fills job.staging) session cur
      (fun number after ↦ cur.Fills copy after ∧ job.Mirrors source id after copy number)
      (job.Stopped refuses source id depth)

section

variable (hready : job.Ready fresh)
include hready

/-- A directory in another one is copied to a new directory. -/
theorem alters_copyChild (hcopy : job.CopiesDirectories fresh refuses known depth)
    (htarget : job.IsTarget cur target copy) (hsource : job.IsSource fresh source id)
    (hname : Path.IsEntryName name)
    (hchild : job.files.named (id, ByteText.ofText name) = some child)
    (hdirectory : job.files.isDirectory child = true)
    (hkept : ¬job.LeftOut (Path.join source name) name)
    (hfree : cur.named (copy, ByteText.ofText name) = none) {next : Nat → Work Nat}
    {done : Nat → FileSystem → Prop}
    (hnext : ∀ number session after, job.Copied cur copy source name child number after →
      (next number).Alters (Tree.Step refuses known job.here) (job.files.Fills job.staging) session
        after done (job.Stopped refuses source id (depth + 1))) :
    (Work.ask (.makeDirectories (Path.join target name)) >>= fun reply ↦
      Work.orFail reply (Failure.atPath (Path.join target name)) >>= fun _ ↦
        copyDirectory job.exclude job.skip depth (Path.join source name) (Path.join target name) >>=
          next).Alters
      (Tree.Step refuses known job.here) (job.files.Fills job.staging) session cur done
      (job.Stopped refuses source id (depth + 1)) := by
  have hgoes := @FileSystem.goesOn_join job.here target name hname
  have hbounded : cur.Bounded := htarget.bounded hready
  have hsafe {after : FileSystem}
      (h : cur.Makes job.here (ByteText.ofText (Path.join target name)) after) :
      job.files.Fills job.staging after := by
    rcases h.eq_or_gains htarget.leads hgoes hfree hbounded with rfl | hgains
    · exact htarget.fills
    · exact htarget.fills_trans hgains.fills
  refine .askOr_bind (fun _ _ hstep ↦ hsafe hstep.1) ?_ fun reply mid done hstep hdone ↦ ?_
  · rintro reply after error hstep rfl
    exact ⟨hsafe hstep.1, .inl ⟨_, hstep.2.2 error rfl⟩⟩
  · subst hdone
    obtain ⟨hmakes, hall, -⟩ := hstep
    have hne : Path.join target name ≠ "" := by
      intro hempty
      have hpieces := hgoes.pieces
      rw [hempty] at hpieces
      exact List.cons_ne_nil _ _ (List.append_eq_nil_iff.1 hpieces.symm).2
    have hgains := FileSystem.gains_of_makesAll htarget.leads hgoes hfree hbounded hmakes
      (hall rfl hne)
    have hnew : mid.isDirectory cur.nodes.size = true := by
      rw [FileSystem.isDirectory, hgains.content_new]
    have hnone (other : String) : mid.named (cur.nodes.size, other) = none := by
      rw [FileSystem.named, FileSystem.entries, hgains.content_new]
      rfl
    have hinner : job.IsTarget mid (Path.join target name) cur.nodes.size := by
      refine ⟨htarget.fills_trans hgains.fills, .inr htarget.fills.size, hnew, ?_⟩
      have hparent := hgains.fills.leads hbounded htarget.leads
      refine hparent.down hgoes hgains.named fun other hlink ↦ ?_
      cases hgains.content_new.symm.trans hlink
    refine .bind (.imp (hcopy session mid _ _ _ _
      (hsource.candidate hready hname hchild hdirectory hkept) hinner hnone) (fun _ _ h ↦ h)
      fun stop after hstop ↦ hstop.of_child hchild hkept)
      fun number session after hcopied ↦ hnext number session after ?_
    obtain ⟨hfills, hmirrors⟩ := hcopied
    have hsame (other : String) : after.named (copy, other) = mid.named (copy, other) :=
      hfills.named_eq (Nat.lt_of_lt_of_le hgains.fills.lt_size hgains.fills.size)
        (Nat.ne_of_lt hgains.fills.lt_size)
    exact ⟨hgains.fills.trans hfills (.inr (Nat.le_refl _)),
      fun other hother ↦ (hsame other).trans (hgains.others other hother),
      cur.nodes.size, (hsame _).trans hgains.named, hmirrors⟩

/-- The entries of a directory are copied one after the other. -/
theorem alters_copyEntries (hcopy : job.CopiesDirectories fresh refuses known depth)
    (hsource : job.IsSource fresh source id) {entries : List (String × EntryKind)}
    (htarget : job.IsTarget cur target copy)
    (hentries : ∀ entry ∈ entries, Path.IsEntryName entry.1 ∧ ∃ child,
      job.files.named (id, ByteText.ofText entry.1) = some child ∧
        entry.2 = System.kindOf (job.files.content child))
    (hnodup : (entries.map fun entry ↦ ByteText.ofText entry.1).Nodup)
    (hfree : ∀ entry ∈ entries, cur.named (copy, ByteText.ofText entry.1) = none) :
    (copyEntries job.exclude job.skip source target
        (copyDirectory job.exclude job.skip depth) entries).Alters
      (Tree.Step refuses known job.here) (job.files.Fills job.staging) session cur
      (fun number after ↦ cur.Fills copy after ∧
        (∀ other, (∀ entry ∈ entries, ByteText.ofText entry.1 ≠ other) →
          after.named (copy, other) = cur.named (copy, other)) ∧
        job.CopiesAll source id after copy (entries.map Prod.fst) number)
      (job.Stopped refuses source id (depth + 1)) := by
  induction entries generalizing cur session with
  | nil => exact .pure ⟨.refl htarget.isDirectory, fun _ _ ↦ rfl, .nil⟩
  | cons entry entries ih =>
    obtain ⟨name, kind⟩ := entry
    obtain ⟨hname, child, hchild, hkind⟩ := hentries (name, kind) List.mem_cons_self
    obtain ⟨hfirst, hothers⟩ := List.nodup_cons.1 hnodup
    have hne : ∀ entry ∈ entries, ByteText.ofText entry.1 ≠ ByteText.ofText name :=
      fun entry hentry heq ↦ hfirst (List.mem_map.2 ⟨entry, hentry, heq⟩)
    have hnone : cur.named (copy, ByteText.ofText name) = none :=
      hfree (name, kind) List.mem_cons_self
    -- The entries after the first one are copied whatever has become of that one.
    have hrest (session : Session) {mid : FileSystem} (hfills : cur.Fills copy mid)
        (hsame : ∀ other ≠ ByteText.ofText name,
          mid.named (copy, other) = cur.named (copy, other)) :=
      @ih mid session (htarget.further hready hfills)
        (fun entry hentry ↦ hentries entry (List.mem_cons_of_mem _ hentry)) hothers
        fun entry hentry ↦ (hsame _ (hne entry hentry)).trans
          (hfree entry (List.mem_cons_of_mem _ hentry))
    refine .bind (alters_isLeftOut hready htarget.fills (hsource.notMem_dropLast hname))
      fun out session mid ⟨hmid, hout⟩ ↦ ?_
    subst hmid
    extract_lets more
    have hkept (hkept : ¬job.LeftOut (Path.join source name) name) (count : Nat)
        (session : Session) (after : FileSystem)
        (hcopied : job.Copied mid copy source name child count after) :
        (more count).Alters (Tree.Step refuses known job.here) (job.files.Fills job.staging) session
          after (fun number after ↦ mid.Fills copy after ∧
            (∀ other, (∀ entry ∈ (name, kind) :: entries, ByteText.ofText entry.1 ≠ other) →
              after.named (copy, other) = mid.named (copy, other)) ∧
            job.CopiesAll source id after copy (((name, kind) :: entries).map Prod.fst) number)
          (job.Stopped refuses source id (depth + 1)) := by
      obtain ⟨hfills, hsame, twin, htwin, hmirrors⟩ := hcopied
      refine .bind (hrest session hfills hsame)
        fun further session last ⟨hlast, hlater, hall⟩ ↦ .pure ?_
      refine ⟨hfills.trans hlast (.inl rfl), fun other hother ↦ ?_, ?_⟩
      · rw [List.forall_mem_cons] at hother
        rw [hlater other hother.2, hsame other (Ne.symm hother.1)]
      · exact .kept hkept hchild ((hlater _ hne).trans htwin)
          ((htarget.further hready hfills).mirrors_later hready htwin hlast hmirrors) hall
    split
    · rename_i htrue
      rw [pure_bind]
      refine .bind (hrest session (.refl htarget.isDirectory) fun _ _ ↦ rfl)
        fun further session last ⟨hlast, hlater, hall⟩ ↦ .pure ?_
      refine ⟨hlast, fun other hother ↦ ?_, ?_⟩
      · exact hlater other fun entry hentry ↦ hother entry (List.mem_cons_of_mem _ hentry)
      · rw [Nat.zero_add]
        exact .leftOut (hout.1 htrue) ((hlater _ hne).trans hnone) hall
    · rename_i hfalse
      have hnot : ¬job.LeftOut (Path.join source name) name := mt hout.2 hfalse
      split
      · rename_i hdirectory
        subst hdirectory
        obtain ⟨parent, inner, hcontent⟩ := isDirectory_of_kindOf hkind.symm
        have hchildDirectory : job.files.isDirectory child = true := by
          rw [FileSystem.isDirectory, hcontent]
        exact alters_copyChild hready hcopy htarget hsource hname hchild hchildDirectory hnot hnone
          (hkept hnot)
      · rename_i hplain
        refine .bind (.imp (alters_copyEntry hready htarget hsource hname hchild hkind hplain hnone)
          (fun _ _ h ↦ h) fun _ _ hstop ↦ ?_) (hkept hnot)
        exact ⟨hstop.1, .inl hstop.2⟩

/-- What a directory holds is the same as before the copy was begun. -/
theorem IsSource.lists (h : job.IsSource fresh source id)
    (hfills : job.files.Fills job.staging cur) {found : List (String × EntryKind)}
    (hlists : Tree.Lists cur id found) : Tree.Lists job.files id found := by
  obtain ⟨hlt, hne⟩ := h.isOutside hready
  have hnamed (name : String) : cur.named (id, name) = job.files.named (id, name) :=
    hfills.named_eq hlt hne
  refine ⟨hlists.nodup, fun entry hentry ↦ ?_, fun name child hchild ↦
    hlists.complete name child ((hnamed name).trans hchild)⟩
  obtain ⟨hname, child, hchild, hkind⟩ := hlists.named entry hentry
  rw [hnamed] at hchild
  refine ⟨hname, child, hchild, hkind.trans ?_⟩
  by_cases hstaging : child = job.staging
  · rw [hstaging, FileSystem.content_of_isDirectory hready.staging.isDirectory,
      FileSystem.content_of_isDirectory
        ((hfills.isDirectory_eq hfills.lt_size).trans hready.staging.isDirectory)]
    rfl
  · rw [FileSystem.content, hfills.node child (hready.sound.named _ _ hchild) hstaging,
      ← FileSystem.content]

/-- Directories are copied with all that is kept in them. The induction is on the depth. -/
theorem alters_copyDirectory (depth : Nat) : job.CopiesDirectories fresh refuses known depth := by
  induction depth with
  | zero =>
    intro session cur source target id copy hsource htarget _
    exact .fail ⟨htarget.fills, .inr ⟨[], id, rfl, trivial, rfl, hsource.isDirectory⟩⟩
  | succ depth ih =>
    intro session cur source target id copy hcandidate htarget hempty
    refine .askOr_bind ?_ ?_ fun reply reached found hstep hfound ↦ ?_
    · rintro (error | found) reached hstep
      · exact hstep.2 ▸ htarget.fills
      · exact hstep.1 ▸ htarget.fills
    · rintro reply reached error hstep rfl
      exact ⟨hstep.2 ▸ htarget.fills, .inl ⟨_, hstep.1⟩⟩
    · subst hfound
      obtain ⟨rfl, directory, hdirectory, hlists⟩ := hstep
      rw [hready.staging.find_eq hready.sound htarget.fills
        (hready.staging.isOutside_here hready.here) hcandidate.notMem] at hdirectory
      have hsource : job.IsSource fresh source id :=
        ⟨hcandidate.leads, hcandidate.isDirectory, hcandidate.notMem_of_find _ hdirectory⟩
      obtain rfl := (FileSystem.leads_of_find hdirectory).unique hsource.leads
      have hlist : Tree.Lists job.files directory found :=
        hsource.lists hready htarget.fills hlists
      refine .imp (alters_copyEntries hready ih hsource htarget hlist.named hlist.nodup
        fun _ _ ↦ hempty _) (fun number after ⟨hfills, hothers, hall⟩ ↦ ⟨hfills, ?_⟩) fun _ _ h ↦ h
      refine hall.mirrors hsource.isDirectory ?_ (hsource.isOutside hready).ne ?_ ?_ ?_
      · exact (hfills.isDirectory_eq hfills.lt_size).trans htarget.isDirectory
      · rw [List.map_map]
        exact hlist.nodup
      · intro name child hchild
        obtain ⟨entry, hentry, hname⟩ := hlist.complete name child hchild
        exact ⟨entry.1, List.mem_map_of_mem hentry, hname⟩
      · intro name twin htwin
        by_contra hnone
        refine absurd ((hothers name fun entry hentry heq ↦ hnone ?_).symm.trans htwin) ?_
        · exact ⟨entry.1, List.mem_map_of_mem hentry, heq⟩
        · rw [hempty]
          exact nofun

/-- A tree is copied with exactly what is kept in it, whatever fails on the way, and all that was
there stays as it is at every moment. Copying comes to an end, and it stops only where the machine
refuses a request or where the tree is too deep. -/
theorem copyTree_mirrors
    (hid : job.files.find job.here (ByteText.ofText source) true = .ok id)
    (hdirectory : job.files.isDirectory id = true)
    (hspelled : fresh ∉ FileSystem.pieces (ByteText.ofText source))
    (htarget : job.files.Leads job.here (ByteText.ofText target) job.staging) :
    (copyTree source target job.exclude job.skip).Alters (Tree.Step refuses known job.here)
      (job.files.Fills job.staging) session job.files
      (fun number after ↦ job.files.Fills job.staging after ∧
        job.Mirrors source id after job.staging number)
      (job.Stopped refuses source id maxWalkDepth) := by
  have hfills : job.files.Fills job.staging job.files := .refl hready.staging.isDirectory
  have hcandidate : job.IsCandidate fresh source id :=
    ⟨FileSystem.leads_of_find hid, hdirectory, fun hin ↦ hspelled (List.mem_of_mem_dropLast hin),
      fun _ _ ↦ hspelled⟩
  have hempty : job.IsTarget job.files target job.staging :=
    ⟨hfills, .inl rfl, hready.staging.isDirectory, htarget⟩
  have hkind {kind : EntryKind} {found : NodeId}
      (hfound : job.files.find job.here (ByteText.ofText source) true = .ok found)
      (hkind : kind = System.kindOf (job.files.content found)) : kind = .directory := by
    cases hid.symm.trans hfound
    rw [hkind, FileSystem.content_of_isDirectory hdirectory]
    rfl
  have hstop {follow : Bool} {error : IoError} {after : FileSystem}
      (hstep : Tree.Step refuses known job.here job.files (.entryKind source follow)
        (Except.error error) after) {stop : Stop} :
      job.Stopped refuses source id maxWalkDepth stop after := by
    obtain ⟨rfl, -, hrefused⟩ := hstep
    refine ⟨hfills, .inl ⟨_, (hrefused error rfl).resolve_right fun hnone ↦ ?_⟩⟩
    cases follow with
    | true => exact hnone id hid
    | false =>
      obtain ⟨other, hother⟩ := FileSystem.exists_find_of_find hid
      exact hnone other hother
  refine .askOr_bind (fun _ _ hstep ↦ hstep.1 ▸ hfills) ?_ fun reply after found hstep hfound ↦ ?_
  · rintro reply after error hstep rfl
    exact hstop hstep
  subst hfound
  obtain ⟨rfl, hfound, -⟩ := hstep
  obtain ⟨other, hother, hotherKind⟩ := hfound found rfl
  extract_lets rest
  have hrest (session : Session) :
      (rest .directory).Alters (Tree.Step refuses known job.here) (job.files.Fills job.staging)
        session job.files (fun number after ↦ job.files.Fills job.staging after ∧
          job.Mirrors source id after job.staging number)
        (job.Stopped refuses source id maxWalkDepth) :=
    alters_copyDirectory hready maxWalkDepth session job.files source target id job.staging
      hcandidate hempty hready.staging.empty
  split
  · refine .askOr_bind (fun _ _ hstep ↦ hstep.1 ▸ hfills) ?_ fun reply after kind hstep hkinds ↦ ?_
    · rintro reply after error hstep rfl
      exact hstop hstep
    · subst hkinds
      obtain ⟨rfl, hroot, -⟩ := hstep
      obtain ⟨root, hroot, hrootKind⟩ := hroot kind rfl
      rw [hkind hroot hrootKind]
      exact hrest session
  · rename_i hnotLink
    rw [pure_bind, hkind (FileSystem.find_follow hother fun target hlink ↦ hnotLink ?_) hotherKind]
    · exact hrest session
    · rw [hotherKind, hlink]
      rfl

end

/-- A directory of a project with a file and a link that leads up, beside a directory for a copy. -/
def loopingProject : Copying where
  files := ⟨#[⟨.directory FileSystem.root [("assets", 1), ("project", 3)], 0o755⟩,
    ⟨.directory FileSystem.root [("copy", 2)], 0o755⟩, ⟨.directory 1 [], 0o700⟩,
    ⟨.directory FileSystem.root [("loop", 5), ("new.txt", 4)], 0o755⟩,
    ⟨.file (Text.encode "new\n"), 0o644⟩, ⟨.link "..", 0o777⟩]⟩
  here := FileSystem.root
  staging := 2
  exclude := []
  skip := "/assets"

theorem ready_loopingProject : loopingProject.Ready "copy" := by
  have hstaging : loopingProject.files.isDirectory 2 = true := rfl
  refine ⟨FileSystem.sound_of_forall rfl (by decide +kernel) (by decide +kernel),
    FileSystem.rooted_of_forall (by decide +kernel), rfl,
    ⟨rfl, fun _ ↦ rfl, by decide, by decide, ?_, ?_, ?_⟩, by decide +kernel⟩
  · intro id mode hframe
    have hid := FileSystem.isDirectory_of_frame? hframe
    have hall := (by decide +kernel : ∀ id < 6,
      (loopingProject.files.frame? id).all (fun frame ↦ frame.1 != 2) = true) id
        (FileSystem.lt_size_of_isDirectory hid)
    rw [hframe] at hall
    cases hall
  · exact fun spot id hid ↦ FileSystem.forall_named
      (motive := fun spot id ↦ id = 2 ↔ spot.2 = "copy") (by decide +kernel) hid
  · intro id target hlink
    match id with
    | 5 =>
      cases hlink
      decide +kernel
    | 0 | 1 | 2 | 3 | 4 => cases hlink
    | _ + 6 => cases hlink

/-- The file and the link are copied, and the link is not followed. -/
theorem copyTree_mirrors_loopingProject :
    let job := loopingProject
    let session : Session := .new ⟨"project", "assets", none, "x", "sh", "/", .default⟩
    job.Ready "copy" ∧ job.files.find job.here (ByteText.ofText "project") true = .ok 3 ∧
      job.files.isDirectory 3 = true ∧
      "copy" ∉ FileSystem.pieces (ByteText.ofText "project") ∧
      job.files.Leads job.here (ByteText.ofText "assets/copy") job.staging ∧
      job.files.descend 3 ["loop"] = some 5 ∧ job.Kept "project" ["loop"] ∧
      (copyTree "project" "assets/copy" job.exclude job.skip).Alters
        (Tree.Step (fun _ ↦ False) [] job.here) (job.files.Fills job.staging) session job.files
        (fun number after ↦ job.files.Fills job.staging after ∧
          job.Mirrors "project" 3 after job.staging number)
        (job.Stopped (fun _ ↦ False) "project" 3 maxWalkDepth) := by
  intro job session
  have hsource : job.files.find job.here (ByteText.ofText "project") true = .ok 3 := by
    decide +kernel
  have htarget : job.files.Leads job.here (ByteText.ofText "assets/copy") 2 :=
    FileSystem.leads_of_find (by decide +kernel)
  have hspelled : "copy" ∉ FileSystem.pieces (ByteText.ofText "project") := by decide +kernel
  have hloop : job.files.canonical job.here (ByteText.ofText "project/loop") = .ok "/" := by
    decide +kernel
  refine ⟨ready_loopingProject, hsource, rfl, hspelled, htarget, rfl, ⟨?_, trivial⟩,
    copyTree_mirrors ready_loopingProject hsource rfl hspelled htarget⟩
  rintro (hin | ⟨place, hplace, hbelow⟩)
  · cases hin
  · cases hplace.symm.trans hloop
    revert hbelow
    decide +kernel

end Copying

end Runbook.Session
