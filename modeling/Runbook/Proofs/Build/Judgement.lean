import Runbook.Proofs.Build.Discovery
import Runbook.Proofs.Build.History
import Runbook.Proofs.Build.Lineages
import Runbook.Proofs.Session.Refusals
/-!
# Judgements on chapters

A failure of a build is a judgement when it says that the chapters which were found cannot be used:
one cannot be read, two want one name, or one is refused. Everything after the chapters have been
found fails for other reasons only. `Does` says of an act of a build what it may ask and why it may
fail, with one rule for each construct, and `Unjudged` that it fails with no judgement;
`Chapter.run_unjudged` is the run of a chapter that has a plan, and `runAll_unjudged` are all
chapters on any host.

The chapters run side by side, in an order that the host chooses, so the second is kept by every
step of a schedule (`Schedule.AllRuns`): answers keep it, and it holds of what is run at the start.
-/

set_option autoImplicit false

namespace Runbook.Build

open Block Document Machine Session

/-- Whether a failure is a judgement on the chapters that were found. -/
def BuildError.isJudgement : BuildError → Bool
  | noDocs _ => true
  | walk _ => true
  | unreadable _ _ => true
  | malformed _ _ => true
  | nameTaken _ _ _ => true
  | chapter _ cause => cause.cause.isRefused
  | write _ _ => false
  | givenUp => false

/-- A fault of a finding is a judgement on it. -/
theorem Fault.isJudgement {settings : Settings} {earlier : List Finding} {finding : Finding}
    {error : BuildError} (h : Fault settings earlier finding error) : error.isJudgement = true := by
  cases h <;> rfl

/-! ### Acts of a build -/

section Acts

variable {α β : Type} {asks : Request → Prop} {fails : BuildError → Prop}

/-- An act is done first and then what depends on its result. -/
theorem run_lift_bind (act : Act α) (next : α → BuildWork β) :
    ((act : BuildWork α) >>= next).run = act >>= fun a ↦ (next a).run := by
  rw [ExceptT.run_bind]
  show (Except.ok <$> act) >>= _ = _
  rw [map_eq_pure_bind, bind_assoc]
  simp only [pure_bind]

/-- Some requests are asked and no others, and an act fails for some reasons and no others. -/
def Does (asks : Request → Prop) (fails : BuildError → Prop) (act : Act (Except BuildError α)) :
    Prop :=
  act.Always asks fun out ↦ ∀ error, out = .error error → fails error

namespace Does

protected theorem pure (value : α) : Does asks fails (pure value : BuildWork α).run := by
  rintro error ⟨⟩

protected theorem throw {error : BuildError} (h : fails error) :
    Does asks fails (throw error : BuildWork α).run := by
  rintro _ ⟨⟩
  exact h

protected theorem bind {work : BuildWork α} {next : α → BuildWork β} (h : Does asks fails work.run)
    (hnext : ∀ value, Does asks fails (next value).run) : Does asks fails (work >>= next).run := by
  rw [Does, ExceptT.run_bind, Act.always_bind]
  refine h.imp (fun _ hask ↦ hask) fun out hout ↦ ?_
  cases out with
  | error cause =>
    rintro error ⟨⟩
    exact hout cause rfl
  | ok value => exact hnext value

/-- An act of which something is known, and what is done with its result. -/
protected theorem lift {act : Act α} {next : α → BuildWork β} {good : α → Prop}
    (h : act.Always asks good) (hnext : ∀ a, good a → Does asks fails (next a).run) :
    Does asks fails ((act : BuildWork α) >>= next).run := by
  rw [run_lift_bind, Does, Act.always_bind]
  exact h.imp (fun _ hask ↦ hask) hnext

/-- A request of whose answer nothing is known. -/
protected theorem request {r : Request} {next : r.Reply → BuildWork β} (h : asks r)
    (hnext : ∀ reply, Does asks fails (next reply).run) :
    Does asks fails ((Act.request r : BuildWork r.Reply) >>= next).run := by
  have hany : (Act.request r).Always asks fun _ ↦ True := ⟨h, fun _ ↦ trivial⟩
  exact .lift hany fun reply _ ↦ hnext reply

end Does

theorem does_makeDirectory {path : String} {toldPath : Option String}
    (hask : asks (.makeDirectories path)) (hfail : ∀ cause, fails (.write toldPath cause)) :
    Does asks fails (makeDirectory path toldPath).run := by
  refine .request hask fun answer ↦ ?_
  split
  · exact .pure _
  · exact .throw (hfail _)

theorem does_prepare {settings : Settings} (hask : ∀ path, asks (.makeDirectories path))
    (hfail : ∀ path cause, fails (.write path cause)) : Does asks fails (prepare settings).run :=
  .bind (does_makeDirectory (hask _) (hfail _)) fun _ ↦ does_makeDirectory (hask _) (hfail _)

/-- Running a chapter asks what making its directory and running its document ask, and fails as they
do. -/
theorem does_chapter {settings : Settings} {chapter : Chapter}
    (hask : asks (.makeDirectories chapter.workdir))
    (hfail : ∀ path cause, fails (.write path cause)) (hgivenUp : fails .givenUp)
    (hdocument : (after (runDocument chapter.document) (.new (chapter.options settings))).Always
      asks fun out ↦ ∀ cause, out.1 = .error (.failed cause) →
        fails (.chapter chapter.path cause)) :
    Does asks fails (chapter.run settings).run := by
  refine .bind (does_makeDirectory hask (hfail _)) fun _ ↦ .lift hdocument fun out hout ↦ ?_
  split
  · exact .pure _
  · next cause hcause => exact .throw (hout cause hcause)
  · exact .throw hgivenUp

/-- What an act comes to is no judgement. -/
abbrev Unjudged (act : Act (Except BuildError α)) : Prop :=
  Does (fun _ ↦ True) (fun error ↦ error.isJudgement = false) act

theorem prepare_unjudged (settings : Settings) : Unjudged (prepare settings).run :=
  does_prepare (fun _ ↦ trivial) fun _ _ ↦ rfl

theorem write_unjudged (settings : Settings) (output : Output) :
    Unjudged (output.write settings).run := by
  unfold Output.write
  extract_lets path rest
  have hrest : Unjudged (rest ()).run := by
    refine .request trivial fun answer ↦ ?_
    split
    · exact .pure _
    · exact .throw rfl
  split
  · exact .bind (does_makeDirectory trivial fun _ ↦ rfl) fun _ ↦ hrest
  · exact hrest

theorem writeAll_unjudged (settings : Settings) (outputs : List Output) :
    Unjudged (writeAll settings outputs).run := by
  induction outputs with
  | nil => exact .pure _
  | cons output outputs ih => exact .bind (write_unjudged settings output) fun _ ↦ ih

/-- Running a chapter that has a plan comes to no judgement on it. -/
theorem Chapter.run_unjudged {settings : Settings} {chapter : Chapter} {plan : List PlannedBlock}
    (hplan : chapter.document.plan settings.scope = .ok plan) :
    Unjudged (chapter.run settings).run := by
  have hrun := runPlan_unrefused chapter.document plan (Session.new (chapter.options settings))
  rw [← after_runDocument_of_plan hplan] at hrun
  exact does_chapter trivial (fun _ _ ↦ rfl) rfl hrun

end Acts

/-! ### Schedules -/

section Schedules

variable {σ : Type}

/-- Running chapters that have plans comes to no judgement on them, on any host. -/
theorem runAll_unjudged {settings : Settings} {chapters : List Chapter}
    (h : ∀ chapter ∈ chapters, ∃ plan, chapter.document.plan settings.scope = .ok plan)
    (host : Host σ) (state : σ) :
    ∀ error, (runAll host settings chapters state).1 = .error error →
      error.isJudgement = false := by
  intro error herror
  have hnew : (Schedule.new settings.jobs (lineages chapters)).AllRuns Unjudged
      fun chapter ↦ (chapter.run settings).run := by
    refine Schedule.allRuns_new fun lineage hlineage numbered hnumbered ↦ ?_
    obtain ⟨plan, hplan⟩ := h _ (mem_of_mem_lineage hlineage hnumbered)
    exact Chapter.run_unjudged hplan
  refine (hnew.run (fun hact ↦ hact.2) host state).1.failure error ?_ error rfl
  change Schedule.result _ = .error error at herror
  unfold Schedule.result at herror
  split at herror
  · next hfailure =>
    cases herror
    exact hfailure
  · cases herror

end Schedules

end Runbook.Build
