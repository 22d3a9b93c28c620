import Runbook.Proofs.Session.Handlers
/-!
# When a document is refused

A document is refused before anything is done or not at all. `runDocument_refused` says that a run
which ends with a refusal, on any machine, has asked nothing and has left the session as it was. It
rests on two facts: a document that has a plan is run by that plan (`after_runDocument_of_plan`),
and a plan that is run never ends with a refusal (`runPlan_unrefused`), since none of its actions
does.
-/

set_option autoImplicit false

namespace Runbook.Session

open Block Document Machine Work

variable {α β : Type}

/-- Running a document, or a part of it, never ends with a refusal. -/
def Unrefused (work : DocumentWork α) : Prop :=
  ∀ session, (after work session).Always (fun _ ↦ True) fun out ↦
    ∀ error, out.1 = .error (.failed error) → error.cause.isRefused = false

namespace Unrefused

protected theorem pure (value : α) : Unrefused (pure value : DocumentWork α) := by
  rintro session error ⟨⟩

protected theorem fail {error : RunError} (h : error.cause.isRefused = false) :
    Unrefused (throw (.failed error) : DocumentWork α) := by
  rintro session _ ⟨⟩
  exact h

protected theorem abandon : Unrefused (throw .abandoned : DocumentWork α) := by
  rintro session error ⟨⟩

protected theorem bind {work : DocumentWork α} {next : α → DocumentWork β} (h : Unrefused work)
    (hnext : ∀ value, Unrefused (next value)) : Unrefused (work >>= next) := by
  intro session
  rw [after_bind, Act.always_bind]
  refine (h session).imp (fun _ hask ↦ hask) fun out hout ↦ ?_
  obtain ⟨_ | value, session⟩ := out
  · rintro error ⟨⟩
    exact hout error rfl
  · exact hnext value session

/-- A refusal that the handler raises would be one of the whole. -/
protected theorem tryCatch {work : DocumentWork α} {handle : Interruption → DocumentWork α}
    (h : Unrefused work)
    (hfailed : ∀ error, error.cause.isRefused = false → Unrefused (handle (.failed error)))
    (habandoned : Unrefused (handle .abandoned)) : Unrefused (tryCatch work handle) := by
  intro session
  rw [after_tryCatch, Act.always_bind]
  refine (h session).imp (fun _ hask ↦ hask) fun out hout ↦ ?_
  obtain ⟨(error | _) | value, session⟩ := out
  · exact hfailed error (hout error rfl) session
  · exact habandoned session
  · rintro error ⟨⟩

/-- A failure that gets a place stays the failure that it is. -/
protected theorem located {place : Failure → RunError}
    (hplace : ∀ cause, (place cause).cause = cause) {good : α → Prop} {work : Work α}
    (h : work.Yields good fun cause ↦ cause.isRefused = false) :
    Unrefused (located place work) := by
  intro session
  refine (Act.always_bind (after work session) _ _).2 ?_
  refine (h session).imp (fun _ hask ↦ hask) fun out hout ↦ ?_
  obtain ⟨(cause | _) | value, session⟩ := out
  · rintro error ⟨⟩
    rw [hplace]
    exact hout
  · rintro error ⟨⟩
  · rintro error ⟨⟩

end Unrefused

theorem runBlock_unrefused (block : PlannedBlock) : Unrefused (runBlock block) := by
  unfold runBlock
  refine .tryCatch ?_ ?_ .abandon
  · exact .located (fun _ ↦ rfl) (runAction_yields block.action)
  · intro error herror
    refine .bind ?_ fun _ ↦ .fail herror
    exact .located (fun _ ↦ rfl) runs_abort

theorem runBlocks_unrefused (plan : List PlannedBlock) : Unrefused (runBlocks plan) := by
  induction plan with
  | nil => exact .pure _
  | cons block plan ih =>
    exact .bind (runBlock_unrefused block) fun _ ↦ .bind ih fun _ ↦ .pure _

/-- A plan that is run never ends with a refusal. -/
theorem runPlan_unrefused (document : Document) (plan : List PlannedBlock) :
    Unrefused (runPlan document plan) := by
  unfold runPlan
  refine .tryCatch ?_ ?_ ?_
  · refine .bind (runBlocks_unrefused plan) fun shown ↦ .bind ?_ fun _ ↦ .pure _
    exact .located (fun _ ↦ rfl) runs_finish
  · intro error herror
    exact .fail herror
  · refine .bind ?_ fun _ ↦ .abandon
    exact .located (fun _ ↦ rfl) runs_dropAll

/-- A document that has no plan is refused at once. -/
theorem after_runDocument_of_refused {document : Document} {session : Session}
    {refused : RefusedBlock} (h : document.plan session.options.scope = .error refused) :
    after (runDocument document) session =
      pure (.error (.failed (.ofRefused refused)), session) := by
  refine (after_bind _ _ session).trans ?_
  simp only [after_get, pure_bind, h]
  rfl

/-- A document that has a plan is run by it. -/
theorem after_runDocument_of_plan {document : Document} {session : Session}
    {plan : List PlannedBlock} (h : document.plan session.options.scope = .ok plan) :
    after (runDocument document) session = after (runPlan document plan) session := by
  refine (after_bind _ _ session).trans ?_
  simp only [after_get, pure_bind, h]

/-- A run of a document that ends with a refusal has asked nothing and has left the session as it
was: the document has no plan. -/
theorem runDocument_refused (document : Document) (session : Session) :
    (after (runDocument document) session).Always (fun _ ↦ True) fun out ↦
      ∀ error, out.1 = .error (.failed error) → error.cause.isRefused = true →
        after (runDocument document) session = pure (.error (.failed error), session) := by
  cases hplan : document.plan session.options.scope with
  | error refused =>
    rw [after_runDocument_of_refused hplan]
    rintro error ⟨⟩ -
    rfl
  | ok plan =>
    rw [after_runDocument_of_plan hplan]
    refine (runPlan_unrefused document plan session).imp (fun _ hask ↦ hask) ?_
    intro out hout error herror hrefused
    rw [hout error herror] at hrefused
    cases hrefused

end Runbook.Session
