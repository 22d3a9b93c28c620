import Mathlib.Data.List.Forall2
import Mathlib.Data.List.Nodup
import Runbook.Build.Chapter
import Runbook.Proofs.Machine.Always
import Runbook.Proofs.Session.Handlers
/-!
# What is found before a build

Finding the chapters of a project only looks at files (`discover_looks`), whatever the machine
answers. What was found is judged in order. `Judged` says which chapter a finding is; `Fault` says
what is wrong with a finding, given those before it; `FirstFault` picks the first one that something
is wrong with. These do not mention the chapters that have been collected on the way:
`chaptersFrom_ok` and `chaptersFrom_error` show that judging follows them. A project either has a
chapter for each finding, and then nothing is wrong with any, or it has a first fault, and that is
the failure. Names are compared with those of the chapters before, one chapter after the other; for
findings that are chapters this comes to all names being different (`chaptersFrom_ok_iff`).
-/

set_option autoImplicit false

namespace Runbook

open Block Document Machine Session

namespace Build

open Act

theorem readChapter_looks (path name : String) : (readChapter path name).Looks := by
  unfold readChapter
  split
  · exact .bind (looks_request rfl) fun _ ↦ looks_pure _
  · exact looks_pure _

theorem readLinked_looks (ancestors : List Ancestor) {enter : String → String → Act DocsTree}
    (henter : ∀ path name, (enter path name).Looks) (path name : String) :
    (readLinked ancestors enter path name).Looks := by
  refine .bind (looks_request rfl) fun kind ↦ ?_
  split
  · exact looks_pure _
  · exact readChapter_looks path name
  · refine .bind (looks_request rfl) fun place ↦ ?_
    split
    · exact looks_pure _
    · split
      · exact looks_pure _
      · exact henter path name
  · exact looks_pure _

theorem readEntries_looks (ancestors : List Ancestor) {enter : String → String → Act DocsTree}
    (henter : ∀ path name, (enter path name).Looks) (directory : String)
    (entries : List (String × EntryKind)) :
    (readEntries ancestors enter directory entries).Looks := by
  induction entries with
  | nil => exact looks_pure _
  | cons entry rest ih =>
    obtain ⟨name, kind⟩ := entry
    unfold readEntries
    extract_lets path more
    have hmore : ∀ first, (more first).Looks := fun first ↦ .bind ih fun _ ↦ looks_pure _
    cases kind with
    | file => exact .bind (readChapter_looks _ _) hmore
    | directory => exact .bind (henter _ _) hmore
    | link => exact .bind (readLinked_looks _ henter _ _) hmore
    | special => exact .bind (looks_pure _) hmore

theorem readDirectory_looks (depth : Nat) (ancestors : List Ancestor) (path name : String) :
    (readDirectory depth ancestors path name).Looks := by
  induction depth generalizing ancestors path name with
  | zero => exact looks_pure _
  | succ depth ih =>
    refine .bind (looks_request rfl) fun entries ↦ .bind (looks_request rfl) fun place ↦ ?_
    split
    · exact looks_pure _
    · exact looks_pure _
    · exact .bind (readEntries_looks _ (ih _) _ _) fun _ ↦ looks_pure _

/-- Finding chapters only looks at files. -/
theorem discover_looks (settings : Settings) : (discover settings).Looks := by
  refine .bind (looks_request rfl) fun kind ↦ ?_
  split
  · exact .bind (readDirectory_looks _ _ _ _) fun _ ↦ looks_pure _
  · exact looks_pure _

/-! ### What findings are -/

/-- A chapter is what a finding is: its source can be read and planned. -/
inductive Judged (settings : Settings) : Finding → Chapter → Prop where
  | chapter {path source : String} {document : Document} {plan : List PlannedBlock}
      (hparse : Document.parse source = .ok document)
      (hplan : document.plan settings.scope = .ok plan) :
      Judged settings (.chapter path (.ok source))
        { path
          basename := Chapter.basenameOf path document
          workdir := Chapter.workdirOf settings document
          blocks := plan.length
          document }

/-- A finding is the source of a chapter with a path that would keep its assets under a name. -/
def Finding.IsNamed (finding : Finding) (path basename : String) : Prop :=
  ∃ source document, finding = .chapter path (.ok source) ∧
    Document.parse source = .ok document ∧ Chapter.basenameOf path document = basename

/-- Something is wrong with a finding, given those before it. -/
inductive Fault (settings : Settings) (earlier : List Finding) : Finding → BuildError → Prop where
  | walk (cause : WalkError) : Fault settings earlier (.failed cause) (.walk cause)
  | unreadable (path : String) (cause : IoError) :
      Fault settings earlier (.chapter path (.error cause))
        (.unreadable (Path.join settings.docsDir path) cause)
  | malformed {path source : String} {cause : FrontmatterError}
      (hparse : Document.parse source = .error cause) :
      Fault settings earlier (.chapter path (.ok source)) (.malformed path cause)
  | nameTaken {path source basename other : String}
      (hnamed : (Finding.chapter path (.ok source)).IsNamed path basename)
      (hother : ∃ finding ∈ earlier, finding.IsNamed other basename) :
      Fault settings earlier (.chapter path (.ok source)) (.nameTaken path basename other)
  | refused {path source : String} {document : Document} {block : RefusedBlock}
      (hparse : Document.parse source = .ok document)
      (hfree : ∀ finding ∈ earlier, ∀ other,
        ¬finding.IsNamed other (Chapter.basenameOf path document))
      (hplan : document.plan settings.scope = .error block) :
      Fault settings earlier (.chapter path (.ok source)) (.chapter path (.ofRefused block))

/-- Nothing is wrong with findings, given those before them. -/
def Sound (settings : Settings) (earlier findings : List Finding) : Prop :=
  ∀ between finding later error, findings = between ++ finding :: later →
    ¬Fault settings (earlier ++ between) finding error

/-- What is wrong with the first finding that something is wrong with. -/
def FirstFault (settings : Settings) (findings : List Finding) (error : BuildError) : Prop :=
  ∃ earlier finding later, findings = earlier ++ finding :: later ∧ Sound settings [] earlier ∧
    Fault settings earlier finding error

/-! ### Judging findings in order -/

section Judging

variable {settings : Settings} {earlier findings : List Finding} {before chapters : List Chapter}
  {finding : Finding} {chapter : Chapter} {error : BuildError}

/-- The names that are taken are those of the findings before. -/
theorem isNamed_iff (h : List.Forall₂ (Judged settings) earlier before) (other basename : String) :
    (∃ finding ∈ earlier, finding.IsNamed other basename) ↔
      ∃ chapter ∈ before, chapter.path = other ∧ chapter.basename = basename := by
  induction h with
  | nil => simp
  | @cons finding chapter earlier before hfirst hrest ih =>
    have hhead : finding.IsNamed other basename ↔
        chapter.path = other ∧ chapter.basename = basename := by
      obtain @⟨path, source, document, plan, hparse, hplan⟩ := hfirst
      constructor
      · rintro ⟨_, found, hfinding, hfound, hname⟩
        cases hfinding
        rw [hparse] at hfound
        cases hfound
        exact ⟨rfl, hname⟩
      · rintro ⟨rfl, hname⟩
        exact ⟨source, document, rfl, hparse, hname⟩
    rw [List.exists_mem_cons_iff, List.exists_mem_cons_iff, hhead, ih]

/-- Every chapter that was judged is what some finding is. -/
theorem exists_judged (h : List.Forall₂ (Judged settings) findings chapters) :
    ∀ chapter ∈ chapters, ∃ finding, Judged settings finding chapter := by
  induction h with
  | nil => nofun
  | @cons finding chapter findings chapters hfirst hrest ih =>
    intro other hother
    rcases List.mem_cons.1 hother with rfl | hother
    · exact ⟨finding, hfirst⟩
    · exact ih other hother

/-- A finding that is judged to be a chapter is that chapter, and nothing is wrong with it. -/
theorem ofFinding_ok (hbefore : List.Forall₂ (Judged settings) earlier before)
    (h : Chapter.ofFinding settings before finding = .ok chapter) :
    Judged settings finding chapter ∧ ∀ error, ¬Fault settings earlier finding error := by
  obtain ⟨path, cause | source⟩ | cause := finding
  · cases h
  · simp only [Chapter.ofFinding, Chapter.ofSource] at h
    split at h
    · cases h
    next document hparse =>
      split at h
      · cases h
      next hfind =>
        split at h
        · cases h
        next plan hplan =>
          cases h
          refine ⟨.chapter hparse hplan, ?_⟩
          rintro error (_ | _ | hmalformed | ⟨hnamed, hother⟩ | ⟨hfound, -, hrefused⟩)
          · rw [hparse] at hmalformed
            cases hmalformed
          · obtain ⟨_, named, hsource, hfound, hname⟩ := hnamed
            cases hsource
            rw [hparse] at hfound
            cases hfound
            obtain ⟨taken, htaken, -, hbasename⟩ := (isNamed_iff hbefore _ _).1 hother
            have hfree := List.find?_eq_none.1 hfind taken htaken
            rw [hbasename, hname] at hfree
            exact hfree (decide_eq_true rfl)
          · rw [hparse] at hfound
            cases hfound
            rw [hplan] at hrefused
            cases hrefused
  · cases h

/-- A finding that is judged to be no chapter has the fault that is given as the reason. -/
theorem ofFinding_error (hbefore : List.Forall₂ (Judged settings) earlier before)
    (h : Chapter.ofFinding settings before finding = .error error) :
    Fault settings earlier finding error := by
  obtain ⟨path, cause | source⟩ | cause := finding
  · cases h
    exact .unreadable path cause
  · simp only [Chapter.ofFinding, Chapter.ofSource] at h
    split at h
    next cause hparse =>
      cases h
      exact .malformed hparse
    next document hparse =>
      split at h
      next taken hfind =>
        cases h
        have hbasename := List.find?_some hfind
        exact .nameTaken ⟨source, document, rfl, hparse, rfl⟩ ((isNamed_iff hbefore _ _).2
          ⟨taken, List.mem_of_find?_eq_some hfind, rfl, of_decide_eq_true hbasename⟩)
      next hfind =>
        split at h
        next block hplan =>
          cases h
          refine .refused hparse (fun finding hfinding other hnamed ↦ ?_) hplan
          obtain ⟨taken, htaken, -, hbasename⟩ :=
            (isNamed_iff hbefore other _).1 ⟨finding, hfinding, hnamed⟩
          have hfree := List.find?_eq_none.1 hfind taken htaken
          rw [hbasename] at hfree
          exact hfree (decide_eq_true rfl)
        next plan hplan => cases h
  · cases h
    exact .walk cause

theorem sound_nil (earlier : List Finding) : Sound settings earlier [] := by
  intro between finding later error hsplit
  cases between <;> cases hsplit

/-- Nothing is wrong with findings when nothing is wrong with the first, nor with the others that
come after it. -/
theorem sound_cons (hfirst : ∀ error, ¬Fault settings earlier finding error)
    (hrest : Sound settings (earlier ++ [finding]) findings) :
    Sound settings earlier (finding :: findings) := by
  intro between other later error hsplit hfault
  cases between with
  | nil =>
    cases hsplit
    rw [List.append_nil] at hfault
    exact hfirst error hfault
  | cons first between =>
    cases hsplit
    refine hrest between other later error rfl ?_
    rw [List.append_assoc, List.singleton_append]
    exact hfault

/-- When all findings are judged to be chapters, nothing is wrong with any. -/
theorem chaptersFrom_ok (hbefore : List.Forall₂ (Judged settings) earlier before)
    (h : chaptersFrom settings before findings = .ok chapters) :
    List.Forall₂ (Judged settings) (earlier ++ findings) chapters ∧
      Sound settings earlier findings := by
  induction findings generalizing earlier before with
  | nil =>
    cases h
    rw [List.append_nil]
    exact ⟨hbefore, sound_nil earlier⟩
  | cons finding findings ih =>
    rw [chaptersFrom] at h
    split at h
    · cases h
    next chapter hchapter =>
      obtain ⟨hjudged, hfirst⟩ := ofFinding_ok hbefore hchapter
      obtain ⟨hall, hrest⟩ := ih (List.rel_append hbefore (.cons hjudged .nil)) h
      rw [List.append_assoc, List.singleton_append] at hall
      exact ⟨hall, sound_cons hfirst hrest⟩

/-- When findings are not all judged to be chapters, the reason is the fault of one of them, and
nothing is wrong with those before it. -/
theorem chaptersFrom_error (hbefore : List.Forall₂ (Judged settings) earlier before)
    (h : chaptersFrom settings before findings = .error error) :
    ∃ between finding later, findings = between ++ finding :: later ∧
      Sound settings earlier between ∧ Fault settings (earlier ++ between) finding error := by
  induction findings generalizing earlier before with
  | nil => cases h
  | cons finding findings ih =>
    rw [chaptersFrom] at h
    split at h
    next cause hcause =>
      cases h
      refine ⟨[], finding, findings, rfl, sound_nil earlier, ?_⟩
      rw [List.append_nil]
      exact ofFinding_error hbefore hcause
    next chapter hchapter =>
      obtain ⟨hjudged, hfirst⟩ := ofFinding_ok hbefore hchapter
      obtain ⟨between, other, later, hsplit, hrest, hfault⟩ :=
        ih (List.rel_append hbefore (.cons hjudged .nil)) h
      rw [List.append_assoc, List.singleton_append] at hfault
      exact ⟨finding :: between, other, later, by rw [hsplit]; rfl, sound_cons hfirst hrest, hfault⟩

/-- A finding that is a chapter only fails when its name is taken. -/
theorem ofFinding_of_judged (h : Judged settings finding chapter) (before : List Chapter) :
    Chapter.ofFinding settings before finding =
      match before.find? fun other ↦ other.basename = chapter.basename with
      | some other => .error (.nameTaken chapter.path chapter.basename other.path)
      | none => .ok chapter := by
  cases h with
  | @chapter path source document plan hparse hplan =>
    cases htaken : before.find? fun other ↦
        other.basename = Chapter.basenameOf path document with
    | none => simp only [Chapter.ofFinding, Chapter.ofSource, hparse, hplan, htaken]
    | some other => simp only [Chapter.ofFinding, Chapter.ofSource, hparse, htaken]

/-- Findings that are chapters are found exactly when no two of them have the same name. -/
theorem chaptersFrom_ok_iff (h : List.Forall₂ (Judged settings) findings chapters)
    (hbefore : (before.map Chapter.basename).Nodup) {result : List Chapter} :
    chaptersFrom settings before findings = .ok result ↔
      ((before ++ chapters).map Chapter.basename).Nodup ∧ result = before ++ chapters := by
  induction h generalizing before with
  | nil =>
    rw [chaptersFrom, Except.ok.injEq, List.append_nil, and_iff_right hbefore]
    exact eq_comm
  | @cons finding chapter findings chapters hfirst hrest ih =>
    rw [chaptersFrom, ofFinding_of_judged hfirst, List.append_cons before chapter chapters]
    cases hfind : before.find? fun other ↦ other.basename = chapter.basename with
    | none =>
      have hfree : chapter.basename ∉ before.map Chapter.basename := fun hmem ↦ by
        obtain ⟨other, hother, hsame⟩ := List.mem_map.1 hmem
        exact List.find?_eq_none.1 hfind other hother (decide_eq_true hsame)
      have hnext : ((before ++ [chapter]).map Chapter.basename).Nodup := by
        rw [List.map_append]
        exact hbefore.append (List.nodup_singleton _) (List.disjoint_singleton.2 hfree)
      exact ih hnext
    | some other =>
      refine iff_of_false nofun fun h ↦ ?_
      have hdistinct : ((before ++ chapter :: chapters).map Chapter.basename).Nodup := by
        rw [List.append_cons]
        exact h.1
      rw [List.map_append, List.nodup_append'] at hdistinct
      refine hdistinct.2.2 (List.mem_map_of_mem (List.mem_of_find?_eq_some hfind)) ?_
      have hsame := List.find?_some hfind
      rw [of_decide_eq_true hsame]
      exact List.mem_cons_self

/-- The failure to find chapters is the first fault. -/
theorem firstFault_of_error (h : chaptersFrom settings [] findings = .error error) :
    FirstFault settings findings error := by
  obtain ⟨earlier, finding, later, hsplit, hsound, hfault⟩ := chaptersFrom_error .nil h
  exact ⟨earlier, finding, later, hsplit, hsound, hfault⟩

/-- Where something is wrong with a finding, chapters are not found. -/
theorem exists_error_of_fault {later : List Finding}
    (hsplit : findings = earlier ++ finding :: later)
    (hfault : Fault settings earlier finding error) :
    ∃ first, chaptersFrom settings [] findings = .error first := by
  cases hchapters : chaptersFrom settings [] findings with
  | error first => exact ⟨first, rfl⟩
  | ok chapters =>
    obtain ⟨-, hsound⟩ := chaptersFrom_ok .nil hchapters
    exact absurd hfault (hsound earlier finding later error hsplit)

/-- Each chapter that is found has a plan with as many blocks as it is said to have. -/
theorem plan_of_mem_chapters (h : chaptersFrom settings [] findings = .ok chapters) :
    ∀ chapter ∈ chapters, ∃ plan, chapter.document.plan settings.scope = .ok plan ∧
      plan.length = chapter.blocks := by
  intro chapter hchapter
  obtain ⟨hall, -⟩ := chaptersFrom_ok .nil h
  obtain ⟨finding, hjudged⟩ := exists_judged hall chapter hchapter
  cases hjudged with
  | chapter hparse hplan => exact ⟨_, hplan, rfl⟩

end Judging

end Build

end Runbook
