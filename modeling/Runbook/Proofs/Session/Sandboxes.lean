import Runbook.Proofs.Sandbox.Spelling
import Runbook.Proofs.Sandbox.Temporary
import Runbook.Proofs.Session.Disk
import Runbook.Proofs.Session.Tree
import Runbook.Sandbox.Workspace
/-!
# Sandboxes are disks and trees

What a sandbox does on a request is one of the effects that the request can have on a disk
(`Workspace.effect_answer`), so the steps of a disk allow what happens in a sandbox. Two things are
not shown here: what a program does while a request waits for it, and that the name of a new
temporary file is one that nobody else uses.

In the same way a sandbox is a tree (`Workspace.treeEffect_answer`), as long as all that stands in
it can be read (`FileSystem.IsLegible`) and the name of a new directory is one that nobody else
uses. It never refuses to say what stands at a path.
-/

set_option autoImplicit false

namespace Runbook.Sandbox

open Machine Session

/-! ### Files -/

namespace FileSystem

variable {fs : FileSystem} {here : NodeId} {path target : String}

/-- Directories that are made on the way to a parent are made on the way to what is in it. -/
theorem Makes.of_parent {made : FileSystem} {parent : String}
    (h : fs.Makes here parent made) (hparent : Path.parent? path = some parent) :
    fs.Makes here path made := by
  have hstart : start here parent = start here path := by
    have habsolute : Path.isAbsolute parent = Path.isAbsolute path := Path.isAbsolute_parent hparent
    unfold Path.isAbsolute at habsolute
    unfold start
    simp only [decide_eq_decide] at habsolute
    simp only [habsolute]
  have hpieces : pieces parent <+: pieces path := by
    obtain ⟨rest, hrest, -⟩ := Path.names_parent hparent
    refine ⟨rest.map String.ofList, ?_⟩
    change _ = (Path.names path.toList).map _
    rw [hrest, List.map_append]
    rfl
  induction h with
  | nothing => exact .nothing
  | further _ hfrom hpart hmade ih =>
    exact .further ih (hfrom.trans hstart) (hpart.trans hpieces) hmade

/-- All that is read as a name or as the text of a link can be: the names of a directory are
different texts that entries can be called by, and links hold texts. -/
structure IsLegible (fs : FileSystem) : Prop where
  nodup : ∀ id, ((fs.entries id).map Prod.fst).Nodup
  named : ∀ id, ∀ entry ∈ fs.entries id,
    ∃ name, Path.IsEntryName name ∧ entry.1 = ByteText.ofText name
  links : ∀ id target, fs.content id = .link target → ∃ text, target = ByteText.ofText text

/-- A directory is found to hold what it holds. -/
theorem IsLegible.lists (h : fs.IsLegible) (id : NodeId) :
    Tree.Lists fs id ((fs.entries id).map fun entry ↦
      (ByteText.toText entry.1, System.kindOf (fs.content entry.2))) := by
  have hspelled {entry : String × NodeId} (hentry : entry ∈ fs.entries id) :
      ByteText.ofText (ByteText.toText entry.1) = entry.1 := by
    obtain ⟨name, -, hname⟩ := h.named id entry hentry
    rw [hname, ByteText.toText_ofText]
  refine ⟨?_, fun found hfound ↦ ?_, fun name child hchild ↦ ?_⟩
  · have hnames : (fs.entries id).map (fun entry ↦ ByteText.ofText (ByteText.toText entry.1)) =
        (fs.entries id).map Prod.fst := List.map_congr_left fun _ ↦ hspelled
    rw [List.map_map]
    exact hnames ▸ h.nodup id
  · obtain ⟨entry, hentry, rfl⟩ := List.mem_map.1 hfound
    obtain ⟨name, hname, heq⟩ := h.named id entry hentry
    refine ⟨?_, entry.2, ?_, rfl⟩
    · rw [heq, ByteText.toText_ofText]
      exact hname
    · dsimp only
      rw [hspelled hentry]
      exact named_of_mem (h.nodup id) hentry
  · obtain ⟨before, after, hentries, -⟩ := List.lookup_eq_some_iff.1 hchild
    have hentry : (name, child) ∈ fs.entries id :=
      hentries ▸ List.mem_append_right _ List.mem_cons_self
    exact ⟨_, List.mem_map_of_mem hentry, hspelled hentry⟩

theorem IsLegible.ofText_toText_of_readLink (h : fs.IsLegible)
    (hread : fs.readLink here path = .ok target) :
    ByteText.ofText (ByteText.toText target) = target := by
  unfold readLink at hread
  obtain ⟨id, -, hread⟩ := exists_of_bind_ok hread
  split at hread
  · rename_i hlink
    cases hread
    obtain ⟨text, rfl⟩ := h.links id _ hlink
    rw [ByteText.toText_ofText]
  · cases hread

end FileSystem

namespace Workspace

variable {workspace : Workspace} {system : System} {files after : FileSystem} {here : NodeId}
  {process : ProcessId} {path target directory ending : String}

/-! ### Processes -/

theorem files_foldl_drop (ids : List OpenId) :
    (ids.foldl System.drop system).files = system.files := by
  induction ids generalizing system with
  | nil => rfl
  | cons id ids ih => exact ih

theorem files_finish (status : ExitStatus) :
    (system.finish process status).files = system.files := by
  unfold System.finish
  split
  · rfl
  · rename_i found _
    change (found.descriptors.foldl (fun system entry ↦ system.drop entry.2) system).files = _
    rw [← List.foldl_map]
    exact files_foldl_drop _

/-- A signal that ends a process changes no files. -/
theorem files_deliver (signal : Nat) : (system.deliver process signal).files = system.files := by
  unfold System.deliver
  split
  · rfl
  · split
    · rfl
    · split
      · exact files_finish _
      · split
        · rfl
        · rfl
        · split
          · rfl
          · exact files_finish _

theorem files_openNull : (openNull system).2.files = system.files := by
  unfold openNull
  split <;> rfl

/-- A process that is started has not done anything yet. -/
theorem files_spawn (invocation : Invocation) :
    (workspace.spawn invocation).2.files = workspace.files := by
  unfold spawn
  dsimp only
  split
  · rfl
  · cases invocation.readsInput <;> cases invocation.keepsErrors <;>
      simp [files, files_openNull, System.addPipe, System.addOpen]

theorem files_release : (workspace.release process).files = workspace.files := by
  have hdetach (workspace : Workspace) : (workspace.detach process).files = workspace.files := by
    unfold detach
    split
    · rfl
    · exact files_foldl_drop _
  unfold release
  rw [hdetach]
  unfold files
  dsimp only
  split
  · rfl
  · exact files_deliver _

/-! ### Looking at files -/

theorem asError_eq_ok {α : Type} {result : Except Errno α} {value : α}
    (h : asError result = .ok value) : result = .ok value := by
  cases result with
  | error code => cases h
  | ok found => exact congrArg Except.ok (Except.ok.inj h)

theorem find_of_entryKind {follow : Bool} {kind : EntryKind}
    (h : asError ((files.find here path follow).map fun id ↦ System.kindOf (files.content id)) =
      .ok kind) :
    ∃ id, files.find here path follow = .ok id ∧ kind = System.kindOf (files.content id) := by
  obtain ⟨id, hfind, hkind⟩ := exists_of_map_ok (asError_eq_ok h)
  exact ⟨id, hfind, hkind.symm⟩

theorem toOption_asError_mode :
    Except.toOption (asError ((files.find here path true).map fun id ↦ (files.node id).mode)) =
      files.mode? here path := by
  unfold FileSystem.mode?
  cases files.find here path true <;> rfl

theorem readText_eq_ok {text : String} (h : workspace.readText path = .ok text) :
    ∃ bytes, workspace.files.readFile workspace.directory path = .ok bytes ∧
      Text.decode? bytes = some text := by
  unfold readText at h
  obtain ⟨bytes, hread, h⟩ := exists_of_bind_ok h
  split at h
  · rename_i decoded hdecode
    cases h
    exact ⟨bytes, asError_eq_ok hread, hdecode⟩
  · cases h

/-- When a file is missing, its path leads nowhere. -/
theorem find_ne_ok_of_readText (h : workspace.readText path = .error .notFound) (id : NodeId) :
    workspace.files.find workspace.directory path true ≠ .ok id := by
  intro hfind
  unfold readText FileSystem.readFile at h
  simp only [hfind, bind, Except.bind] at h
  split at h
  · rename_i hread
    split at hread <;> cases hread
    cases h
  · split at h <;> cases h

/-! ### Changing files -/

theorem doneOrNot_changed (result : Except Errno FileSystem) :
    Disk.DoneOrNot workspace.files (fun (_ : Unit) after ↦ result = .ok after)
      (workspace.changed result).1 (workspace.changed result).2.files := by
  cases result with
  | ok after => exact ⟨fun _ _ ↦ rfl, nofun⟩
  | error code => exact ⟨nofun, fun _ _ ↦ rfl⟩

/-- Directories are made one after the other, and when that is done the path leads to one. -/
theorem makes_makeDirectories {fuel : Nat}
    (h : workspace.makeDirectories fuel files path = .ok after) :
    files.Makes workspace.directory path after ∧
      (path ≠ "" → files.MakesAll workspace.directory path after) := by
  have hthere {isDirectory : Bool} {code : Errno} {made found : FileSystem}
      (h : (if isDirectory = true then Except.ok made else .error code) = .ok found) :
      made = found ∧ isDirectory = true := by
    cases isDirectory with
    | false => cases h
    | true => exact ⟨Except.ok.inj h, rfl⟩
  induction fuel generalizing files after path with
  | zero => cases h
  | succ fuel ih =>
    unfold makeDirectories at h
    dsimp only at h
    split at h
    · rename_i hempty
      cases h
      exact ⟨.nothing, fun hpath ↦ absurd hempty hpath⟩
    · split at h
      · rename_i made hmade
        cases h
        exact ⟨.further .nothing rfl (List.prefix_refl _) hmade,
          fun _ ↦ .inr ⟨files, 0o755, .nothing, hmade⟩⟩
      · split at h
        · split at h
          · cases h
          · rename_i parent hparent
            split at h
            · rename_i above habove
              have hmakes : files.Makes workspace.directory path above :=
                (ih habove).1.of_parent hparent
              split at h
              · rename_i made hmade
                cases h
                exact ⟨.further hmakes rfl (List.prefix_refl _) hmade,
                  fun _ ↦ .inr ⟨above, 0o755, hmakes, hmade⟩⟩
              · obtain ⟨rfl, hdirectory⟩ := hthere h
                split at hdirectory
                · rename_i id hid
                  exact ⟨hmakes, fun _ ↦ .inl ⟨id, hid, hdirectory⟩⟩
                · cases hdirectory
            · cases h
        · obtain ⟨rfl, hdirectory⟩ := hthere h
          split at hdirectory
          · rename_i id hid
            exact ⟨.nothing, fun _ ↦ .inl ⟨id, hid, hdirectory⟩⟩
          · cases hdirectory

/-- The name of the next temporary file is new: nothing stands there, and it is not that of a
target. -/
def NamesNew (workspace : Workspace) (directory ending target : String) : Prop :=
  ∀ spot, workspace.files.spot workspace.directory
      (ByteText.ofText (workspace.freshPath directory ending).1) = .ok spot →
    FileSystem.isDots spot.2 = false ∧ workspace.files.named spot = none ∧
      workspace.files.spot workspace.directory (ByteText.ofText target) ≠ .ok spot

theorem doneOrNot_makeTempFile (hnew : workspace.NamesNew directory ending target) :
    Disk.DoneOrNot workspace.files (Disk.MakesTemp workspace.directory target workspace.files)
      (workspace.makeTempFile directory ending).1
      (workspace.makeTempFile directory ending).2.files := by
  unfold makeTempFile
  dsimp only
  split
  · rename_i id after hopen
    obtain ⟨spot, hspot, hslash, rfl⟩ := FileSystem.addNamed_of_openNode hopen fun spot hspot ↦
      ⟨(hnew spot hspot).1, (hnew spot hspot).2.1⟩
    obtain ⟨hname, hfree, hclear⟩ := hnew spot hspot
    refine ⟨fun temp htemp ↦ ?_, nofun⟩
    obtain rfl := Except.ok.inj htemp
    exact ⟨spot, 0o600, hspot, hname, hslash, hfree, hclear, rfl⟩
  · exact ⟨nofun, fun _ _ ↦ rfl⟩

/-! ### Answers -/

/-- What a sandbox does on a request is an effect of the request on a disk. Assumes: the request
does not wait for a process, and a new temporary file gets a new name. -/
theorem effect_answer {request : Request} (hwaits : request.waits = false)
    (hnew : ∀ directory ending, request = .makeTempFile directory ending →
      workspace.NamesNew directory ending target) :
    Disk.Effect workspace.directory target workspace.files request (workspace.answer request).1
      (workspace.answer request).2.files := by
  cases request with
  | entryKind path follow =>
    rw [answer]
    exact ⟨rfl, fun kind hkind ↦ find_of_entryKind hkind⟩
  | mode path =>
    rw [answer]
    exact ⟨rfl, toOption_asError_mode⟩
  | readText path =>
    rw [answer]
    exact ⟨rfl, fun text htext ↦ readText_eq_ok htext, find_ne_ok_of_readText⟩
  | readBytes path =>
    rw [answer]
    exact ⟨rfl, fun bytes hbytes ↦ asError_eq_ok hbytes⟩
  | makeDirectories path =>
    rw [answer, Disk.Effect]
    cases hmade : workspace.makeDirectories (path.length + 1) workspace.files
      (ByteText.ofText path) with
    | ok after => exact (makes_makeDirectories hmade).1
    | error code => exact .nothing
  | makeTempFile directory ending =>
    rw [answer]
    exact doneOrNot_makeTempFile (hnew directory ending rfl)
  | writeTemp path content =>
    rw [answer]
    obtain ⟨hdone, hnot⟩ := @doneOrNot_changed workspace
      (workspace.files.writeFile workspace.directory (ByteText.ofText path) content 0o600)
    exact ⟨fun hreply ↦ ⟨0o600, hdone () hreply⟩, fun error herror ↦ .inl (hnot error herror)⟩
  | flush path => rfl
  | sync path => rfl
  | setMode path mode =>
    rw [answer]
    exact doneOrNot_changed _
  | rename source path =>
    rw [answer]
    exact doneOrNot_changed _
  | discardFile path =>
    rw [answer, Disk.Effect]
    cases workspace.files.unlink workspace.directory (ByteText.ofText path) <;> rfl
  | clock => rfl
  | spawn invocation => exact files_spawn invocation
  | release process => exact files_release
  | collect process input deadline => cases hwaits
  | _ => trivial

/-! ### Trees -/

variable {source : String}

/-- A sandbox may refuse any request but to say what stands at a path. -/
def MayRefuse (request : Request) : Prop := ∀ path follow, request ≠ .entryKind path follow

theorem files_removeTree : (workspace.removeTree path).2.files =
    (workspace.files.removeTree workspace.directory path).2 :=
  rfl

theorem doneOrRefused_changed {refused : Prop} (hrefused : refused)
    (result : Except Errno FileSystem) :
    Tree.DoneOrRefused refused workspace.files (fun (_ : Unit) after ↦ result = .ok after)
      (workspace.changed result).1 (workspace.changed result).2.files := by
  cases result with
  | ok after => rfl
  | error code => exact ⟨hrefused, rfl⟩

theorem filled_eq_of_copyFile (h : workspace.copyFile source target = .ok after) :
    ∃ id bytes copy opened mode, workspace.files.find workspace.directory source true = .ok id ∧
      workspace.files.content id = .file bytes ∧
      workspace.files.openNode workspace.directory target Tree.copyHow mode = .ok (copy, opened) ∧
      after = opened.filled copy bytes mode := by
  unfold copyFile at h
  dsimp only at h
  obtain ⟨id, hfind, h⟩ := exists_of_bind_ok h
  split at h
  · rename_i bytes hbytes
    obtain ⟨⟨copy, opened⟩, hopening, h⟩ := exists_of_bind_ok h
    refine ⟨id, bytes, copy, opened, _, asError_eq_ok hfind, hbytes, asError_eq_ok hopening, ?_⟩
    dsimp only at h
    split at h
    · rename_i kept hkept
      cases h
      rw [FileSystem.filled, hkept]
      exact FileSystem.setMode_setContent _ _ _ _
    · rename_i hplain
      cases h
      unfold FileSystem.filled
      split
      · rename_i kept hkept
        exact absurd hkept (hplain kept)
      · rfl
  · cases h

theorem doneOrRefused_makeTempDirectory {refused : Prop} {known : List String}
    {answered : Except IoError String × Workspace} (hrefused : refused)
    (hnew : Tree.IsNew workspace.files known (temporaryName workspace.nextTemporary))
    (hanswered : workspace.makeTempDirectory directory = answered) :
    Tree.DoneOrRefused refused workspace.files
      (fun temp after ↦ ∃ name mode, Tree.IsNew workspace.files known name ∧
        temp = Path.join directory name ∧
        workspace.files.makeDirectory workspace.directory (ByteText.ofText temp) mode = .ok after)
      answered.1 answered.2.files := by
  unfold makeTempDirectory freshPath at hanswered
  rw [String.append_empty] at hanswered
  generalize temporaryName workspace.nextTemporary = name at hnew hanswered
  dsimp only at hanswered
  split at hanswered
  · rename_i after hmade
    subst hanswered
    exact ⟨name, 0o700, hnew, rfl, hmade⟩
  · subst hanswered
    exact ⟨hrefused, rfl⟩

/-- What a sandbox does on a request is an effect of the request on a tree. Assumes: the names and
the links of the sandbox can be read, and a new directory gets a new name. -/
theorem treeEffect_answer {request : Request} {known : List String}
    (hlegible : workspace.files.IsLegible)
    (hnew : ∀ directory, request = .makeTempDirectory directory →
      Tree.IsNew workspace.files known (temporaryName workspace.nextTemporary)) :
    Tree.Effect MayRefuse known workspace.directory workspace.files request
      (workspace.answer request).1 (workspace.answer request).2.files := by
  cases request with
  | entryKind path follow =>
    rw [answer]
    refine ⟨rfl, fun kind hkind ↦ find_of_entryKind hkind, fun error herror ↦ .inr fun id hid ↦ ?_⟩
    rw [hid] at herror
    cases herror
  | canonical path =>
    rw [answer]
    refine ⟨rfl, ?_⟩
    cases workspace.files.canonical workspace.directory (ByteText.ofText path) <;> rfl
  | entries path =>
    rw [answer, Tree.Effect]
    unfold entries
    dsimp only
    cases hfind : workspace.files.find workspace.directory (ByteText.ofText path) true with
    | error code => exact ⟨fun _ _ ↦ nofun, rfl⟩
    | ok id =>
      dsimp only [bind, Except.bind]
      split
      · exact ⟨rfl, id, rfl, hlegible.lists id⟩
      · exact ⟨fun _ _ ↦ nofun, rfl⟩
  | readLink path =>
    rw [answer, Tree.Effect]
    cases hread : workspace.files.readLink workspace.directory (ByteText.ofText path) with
    | error code => exact ⟨fun _ _ ↦ nofun, rfl⟩
    | ok target => exact ⟨rfl, congrArg Except.ok (hlegible.ofText_toText_of_readLink hread).symm⟩
  | makeDirectories path =>
    rw [answer, Tree.Effect]
    cases hmade : workspace.makeDirectories (path.length + 1) workspace.files
      (ByteText.ofText path) with
    | ok after =>
      obtain ⟨hmakes, hall⟩ := makes_makeDirectories hmade
      refine ⟨hmakes, fun _ hpath ↦ hall fun hempty ↦ hpath ?_, nofun⟩
      exact ByteText.ofText_injective hempty
    | error code => exact ⟨.nothing, nofun, fun _ _ _ _ ↦ nofun⟩
  | makeTempDirectory directory =>
    rw [answer]
    generalize hanswered : workspace.makeTempDirectory directory = answered
    exact doneOrRefused_makeTempDirectory (fun _ _ ↦ nofun) (hnew directory rfl) hanswered
  | copyFile source target =>
    rw [answer, Tree.Effect]
    cases hcopy : workspace.copyFile (ByteText.ofText source) (ByteText.ofText target) with
    | ok after => exact ⟨fun _ ↦ filled_eq_of_copyFile hcopy, nofun⟩
    | error error => exact ⟨nofun, fun _ _ ↦ ⟨fun _ _ ↦ nofun, .inl rfl⟩⟩
  | makeLink content path =>
    rw [answer]
    exact doneOrRefused_changed (fun _ _ ↦ nofun) _
  | removeTree path =>
    rw [answer, Tree.Effect, files_removeTree]
    exact FileSystem.removal_removeTree _ _ _
  | discardTree path =>
    rw [answer, Tree.Effect, files_removeTree]
    exact FileSystem.removal_removeTree _ _ _
  | rename source target =>
    rw [answer]
    exact doneOrRefused_changed (fun _ _ ↦ nofun) _
  | _ => trivial

end Workspace

end Runbook.Sandbox
