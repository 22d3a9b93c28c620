import Mathlib.Data.List.Forall2
import Runbook.Proofs.Text.Line
import Runbook.Proofs.Text.Literal
import Runbook.Screenshot.Program
/-!
# What browser programs say

A program has one line for each step between lines that are always the same, but for the numbers of
the viewport and of the picture. `Step.IsToldBy` says what the line of a step is: the call for the
step around a literal that means its argument, whatever comes after it, without control characters.
So no argument ends its literal or its line.

`readProgram?` reads the steps, the viewport and the part of the page back from the text of a
program (`program_tells`).
-/

set_option autoImplicit false

namespace Runbook.Screenshot

open Text

/-! ### The lines of steps -/

/-- What the line of a step says before the argument. -/
def Step.callText : Step → String
  | .visit _ => "    await page.goto("
  | .wait _ => "    await page.waitForSelector("

/-- What the line of a step says after the argument. -/
def Step.restText : Step → String
  | .visit _ => ", \x7b waitUntil: 'networkidle0' \x7d);"
  | .wait _ => ");"

/-- A line tells a step: the argument is the meaning of the literal in the call, which ends where
the call goes on and has no control characters in it. -/
def Step.IsToldBy (step : Step) (line : List Char) : Prop :=
  ∃ written, line = step.callText.toList ++ (written ++ step.restText.toList) ∧
    (∀ rest, readLiteral? (written ++ rest) = some (step.argument.toList, rest)) ∧
    ∀ c ∈ written, ' ' ≤ c

theorem Step.toList_line (step : Step) : step.line.toList =
    step.callText.toList ++ (literal step.argument.toList ++ step.restText.toList) := by
  have hline : step.line =
      step.callText ++ String.ofList (literal step.argument.toList) ++ step.restText := by
    cases step <;> rfl
  rw [hline]
  simp only [String.toList_append, String.toList_ofList, List.append_assoc]

theorem Step.isToldBy_line (step : Step) : step.IsToldBy step.line.toList :=
  ⟨_, step.toList_line, readLiteral?_literal _, fun _ ↦ le_of_mem_literal⟩

/-- The step that a line tells, if it starts with a call and the call ends after its argument. -/
def readCall? (call rest : String) (make : String → Step) (line : List Char) : Option Step :=
  (line.dropPrefix? call.toList).bind fun text ↦
    (readLiteral? text).bind fun (argument, after) ↦
      if after = rest.toList then some (make (String.ofList argument)) else none

/-- The step that a line tells. -/
def readStepLine? (line : List Char) : Option Step :=
  (readCall? (Step.visit "").callText (Step.visit "").restText .visit line).or
    (readCall? (Step.wait "").callText (Step.wait "").restText .wait line)

theorem readCall?_append (call rest : String) (make : String → Step) (argument : String) :
    readCall? call rest make
      (call.toList ++ (literal argument.toList ++ rest.toList)) = some (make argument) := by
  rw [readCall?, List.dropPrefix?_append_of_beq _ (beq_self_eq_true call.toList), Option.bind_some,
    readLiteral?_literal, Option.bind_some]
  dsimp only
  rw [if_pos rfl, String.ofList_toList]

/-- The call of one step is not taken for that of the other. -/
theorem dropPrefix?_wait (text : List Char) :
    ((Step.wait "").callText.toList ++ text).dropPrefix? (Step.visit "").callText.toList = none :=
  rfl

theorem readStepLine?_line (step : Step) : readStepLine? step.line.toList = some step := by
  rw [step.toList_line, readStepLine?]
  cases step with
  | visit url => exact congrArg (Option.or · _) (readCall?_append _ _ .visit url)
  | wait selector =>
    have hother : readCall? (Step.visit "").callText (Step.visit "").restText .visit
        ((Step.wait "").callText.toList ++
          (literal selector.toList ++ (Step.wait "").restText.toList)) = none := by
      rw [readCall?, dropPrefix?_wait, Option.bind_none]
    exact (congrArg (Option.or · _) hother).trans (readCall?_append _ _ .wait selector)

/-! ### The lines with numbers -/

/-- What the line of a viewport starts with. -/
def viewportText : String := "    await page.setViewport(\x7b width: "

/-- The numbers of a viewport in its line, each with what comes after it. -/
def Viewport.numbers (viewport : Viewport) : List (Nat × String) := [
  (viewport.width, ", height: "), (viewport.height, ", deviceScaleFactor: "),
  (viewport.scale, " \x7d);")]

/-- What the line for a part of the page starts with. -/
def clipText : String := "    await page.screenshot(\x7b path, type: 'png', clip: \x7b x: "

/-- The numbers of a part of the page in its line, each with what comes after it. -/
def clipNumbers (x y width height : Nat) : List (Nat × String) := [
  (x, ", y: "), (y, ", width: "), (width, ", height: "), (height, " \x7d \x7d);")]

theorem Viewport.toList_line (viewport : Viewport) :
    viewport.line.toList = fillIn viewportText viewport.numbers := by
  have hline : viewport.line = viewportText ++ toString viewport.width ++ ", height: " ++
    toString viewport.height ++ ", deviceScaleFactor: " ++ toString viewport.scale ++
      " \x7d);" := rfl
  simp only [hline, numbers, fillIn, List.flatMap_cons, List.flatMap_nil,
    String.toList_append, List.append_assoc, List.append_nil]

theorem Capture.toList_line_clip (x y width height : Nat) :
    (Capture.clip x y width height).line.toList =
      fillIn clipText (clipNumbers x y width height) := by
  have hline : (Capture.clip x y width height).line = clipText ++ toString x ++ ", y: " ++
      toString y ++ ", width: " ++ toString width ++ ", height: " ++ toString height ++
      " \x7d \x7d);" := rfl
  simp only [hline, clipNumbers, fillIn, List.flatMap_cons, List.flatMap_nil,
    String.toList_append, List.append_assoc, List.append_nil]

/-- The viewport that a line sets. -/
def readViewport? (line : List Char) : Option Viewport :=
  match readNumbers? viewportText ((Viewport.mk 0 0 0).numbers.map Prod.snd) line with
  | some [width, height, scale] => some ⟨width, height, scale⟩
  | _ => none

/-- The part of the page that the line of a picture is for. -/
def readCapture? (line : List Char) : Option Capture :=
  match readNumbers? clipText ((clipNumbers 0 0 0 0).map Prod.snd) line with
  | some [x, y, width, height] => some (.clip x y width height)
  | _ => if line = Capture.fullPage.line.toList then some .fullPage else none

theorem readViewport?_line (viewport : Viewport) :
    readViewport? viewport.line.toList = some viewport := by
  have hread : readNumbers? viewportText ((Viewport.mk 0 0 0).numbers.map Prod.snd)
      (fillIn viewportText viewport.numbers) =
      some [viewport.width, viewport.height, viewport.scale] :=
    readNumbers?_fillIn _ (List.forall_mem_cons.2 ⟨⟨',', _, rfl, rfl⟩, List.forall_mem_cons.2
      ⟨⟨',', _, rfl, rfl⟩, List.forall_mem_singleton.2 ⟨' ', _, rfl, rfl⟩⟩⟩)
  rw [readViewport?, viewport.toList_line, hread]

theorem readCapture?_line (capture : Capture) :
    readCapture? capture.line.toList = some capture := by
  cases capture with
  | fullPage =>
    have hread : readNumbers? clipText ((clipNumbers 0 0 0 0).map Prod.snd)
        Capture.fullPage.line.toList = none := rfl
    rw [readCapture?, hread]
    exact if_pos rfl
  | clip x y width height =>
    have hread : readNumbers? clipText ((clipNumbers 0 0 0 0).map Prod.snd)
        (fillIn clipText (clipNumbers x y width height)) = some [x, y, width, height] :=
      readNumbers?_fillIn _ (List.forall_mem_cons.2 ⟨⟨',', _, rfl, rfl⟩, List.forall_mem_cons.2
        ⟨⟨',', _, rfl, rfl⟩, List.forall_mem_cons.2 ⟨⟨',', _, rfl, rfl⟩,
          List.forall_mem_singleton.2 ⟨' ', _, rfl, rfl⟩⟩⟩⟩)
    rw [readCapture?, Capture.toList_line_clip, hread]

/-! ### The lines of a program -/

theorem Viewport.le_of_mem_line (viewport : Viewport) :
    ∀ c ∈ viewport.line.toList, ' ' ≤ c := by
  rw [viewport.toList_line]
  refine le_of_mem_fillIn (le_of_mem_ofList rfl) ?_
  simp only [numbers, List.map_cons, List.forall_mem_cons]
  exact ⟨le_of_mem_ofList rfl, le_of_mem_ofList rfl, le_of_mem_ofList rfl, List.forall_mem_nil _⟩

theorem Capture.le_of_mem_line (capture : Capture) : ∀ c ∈ capture.line.toList, ' ' ≤ c := by
  cases capture with
  | fullPage => exact le_of_mem_ofList rfl
  | clip x y width height =>
    rw [Capture.toList_line_clip]
    refine le_of_mem_fillIn (le_of_mem_ofList rfl) ?_
    simp only [clipNumbers, List.map_cons, List.forall_mem_cons]
    exact ⟨le_of_mem_ofList rfl, le_of_mem_ofList rfl, le_of_mem_ofList rfl, le_of_mem_ofList rfl,
      List.forall_mem_nil _⟩

theorem Step.le_of_mem_line (step : Step) : ∀ c ∈ step.line.toList, ' ' ≤ c := by
  have hcall : ∀ c ∈ step.callText.toList, ' ' ≤ c := by
    cases step <;> exact le_of_mem_ofList rfl
  have hrest : ∀ c ∈ step.restText.toList, ' ' ≤ c := by
    cases step <;> exact le_of_mem_ofList rfl
  rw [step.toList_line]
  exact List.forall_mem_append.2
    ⟨hcall, List.forall_mem_append.2 ⟨fun _ ↦ le_of_mem_literal, hrest⟩⟩

theorem le_of_mem_opening : ∀ line ∈ opening, ∀ c ∈ line.toList, ' ' ≤ c := by
  simp only [opening, List.forall_mem_cons]
  exact ⟨le_of_mem_ofList rfl, le_of_mem_ofList rfl, le_of_mem_ofList rfl, le_of_mem_ofList rfl,
    le_of_mem_ofList rfl, le_of_mem_ofList rfl, List.forall_mem_nil _⟩

theorem le_of_mem_imageLines : ∀ line ∈ imageLines, ∀ c ∈ line.toList, ' ' ≤ c := by
  simp only [imageLines, List.forall_mem_cons]
  exact ⟨le_of_mem_ofList rfl, le_of_mem_ofList rfl,
    le_of_mem_append (le_of_mem_ofList rfl) (le_of_mem_ofList rfl), le_of_mem_ofList rfl,
    le_of_mem_ofList rfl, le_of_mem_ofList rfl,
    le_of_mem_append (le_of_mem_ofList rfl) (le_of_mem_ofList rfl), le_of_mem_ofList rfl,
    le_of_mem_ofList rfl, le_of_mem_append (le_of_mem_append (le_of_mem_ofList rfl)
      (le_of_mem_ofList rfl)) (le_of_mem_ofList rfl), List.forall_mem_nil _⟩

theorem le_of_mem_closing : ∀ line ∈ closing, ∀ c ∈ line.toList, ' ' ≤ c := by
  simp only [closing, List.forall_mem_cons]
  exact ⟨le_of_mem_ofList rfl, le_of_mem_ofList rfl, le_of_mem_ofList rfl, le_of_mem_ofList rfl,
    le_of_mem_ofList rfl, le_of_mem_ofList rfl, le_of_mem_ofList rfl, List.forall_mem_nil _⟩

/-- No line of a program has control characters in it. -/
theorem le_of_mem_programLines {steps : List Step} {viewport : Viewport} {capture : Capture}
    {line : String} (h : line ∈ programLines steps viewport capture) :
    ∀ c ∈ line.toList, ' ' ≤ c := by
  simp only [programLines, List.mem_append, List.mem_singleton, List.mem_map] at h
  rcases h with ((((h | rfl) | ⟨step, -, rfl⟩) | h) | rfl) | h
  · exact le_of_mem_opening line h
  · exact viewport.le_of_mem_line
  · exact step.le_of_mem_line
  · exact le_of_mem_imageLines line h
  · exact capture.le_of_mem_line
  · exact le_of_mem_closing line h

/-- A program has the lines that it was made of. -/
theorem contentLines_program (steps : List Step) (viewport : Viewport) (capture : Capture) :
    contentLines (program steps viewport capture).toList =
      (programLines steps viewport capture).map String.toList := by
  have htext : (program steps viewport capture).toList =
      ((programLines steps viewport capture).map String.toList).flatMap (· ++ ['\n']) := by
    rw [program, String.toList_join, List.flatMap_map, List.flatMap_map]
    refine List.flatMap_congr fun line _ ↦ ?_
    rw [String.toList_append]
    rfl
  rw [htext, contentLines_flatMap]
  intro line hline
  obtain ⟨written, hwritten, rfl⟩ := List.mem_map.1 hline
  have hle := le_of_mem_programLines hwritten
  exact ⟨fun hmem ↦ absurd (hle _ hmem) (by decide), fun hlast ↦
    absurd (hle _ (List.mem_of_getLast? hlast)) (by decide)⟩

/-! ### Reading programs back -/

/-- The steps that the first lines tell, and the lines from the first one that tells none. -/
def readStepLines : List (List Char) → List Step × List (List Char)
  | [] => ([], [])
  | line :: lines =>
    match readStepLine? line with
    | some step => (step :: (readStepLines lines).1, (readStepLines lines).2)
    | none => ([], line :: lines)

/-- What a program was made of. -/
def readProgram? (text : String) : Option (List Step × Viewport × Capture) := do
  let lines ← (contentLines text.toList).dropPrefix? (opening.map String.toList)
  let viewport ← lines.head?.bind readViewport?
  let (steps, lines) := readStepLines lines.tail
  let lines ← lines.dropPrefix? (imageLines.map String.toList)
  let capture ← lines.head?.bind readCapture?
  return (steps, viewport, capture)

theorem readStepLines_append {rest : List (List Char)} (steps : List Step)
    (h : ∀ line ∈ rest.head?, readStepLine? line = none) :
    readStepLines (steps.map (fun step ↦ step.line.toList) ++ rest) = (steps, rest) := by
  induction steps with
  | nil =>
    cases rest with
    | nil => rfl
    | cons line rest => rw [List.map_nil, List.nil_append, readStepLines, h line rfl]
  | cons step steps ih =>
    rw [List.map_cons, List.cons_append, readStepLines, readStepLine?_line, ih]

/-- The lines of a program, one for each step between the ones that are always there. -/
theorem programLines_toList (steps : List Step) (viewport : Viewport) (capture : Capture) :
    (programLines steps viewport capture).map String.toList =
      opening.map String.toList ++ viewport.line.toList ::
        (steps.map (fun step ↦ step.line.toList) ++ (imageLines.map String.toList ++
          capture.line.toList :: closing.map String.toList)) := by
  simp only [programLines, List.map_append, List.map_map, List.map_cons,
    List.append_assoc, List.cons_append, List.nil_append, Function.comp_def]

theorem readProgram?_program (steps : List Step) (viewport : Viewport) (capture : Capture) :
    readProgram? (program steps viewport capture) = some (steps, viewport, capture) := by
  have hend : ∀ line ∈ (imageLines.map String.toList ++
      capture.line.toList :: closing.map String.toList).head?, readStepLine? line = none := by
    rintro _ ⟨⟩
    rfl
  rw [readProgram?, contentLines_program, programLines_toList,
    List.dropPrefix?_append_of_beq _ (beq_self_eq_true _), Option.bind_eq_bind, Option.bind_some,
    List.head?_cons, Option.bind_some, readViewport?_line, Option.bind_eq_bind, Option.bind_some,
    List.tail_cons, readStepLines_append steps hend]
  dsimp only
  rw [List.dropPrefix?_append_of_beq _ (beq_self_eq_true _), Option.bind_eq_bind, Option.bind_some,
    List.head?_cons, Option.bind_some, readCapture?_line]
  rfl

/-- A program has one line for each step, in order, after the line of the viewport and before the
lines that wait for images, and the literal in that line means the argument of the step and ends
where it should. The steps, the viewport and the part of the page are read back from the text, so
programs are the same only when all of these are. -/
theorem program_tells (steps : List Step) (viewport : Viewport) (capture : Capture) :
    (∃ told, List.Forall₂ Step.IsToldBy steps told ∧
      contentLines (program steps viewport capture).toList =
        opening.map String.toList ++ viewport.line.toList ::
          (told ++ (imageLines.map String.toList ++
            capture.line.toList :: closing.map String.toList))) ∧
    readProgram? (program steps viewport capture) = some (steps, viewport, capture) ∧
    ∀ others otherViewport otherCapture,
      program steps viewport capture = program others otherViewport otherCapture ↔
        steps = others ∧ viewport = otherViewport ∧ capture = otherCapture := by
  have hread := readProgram?_program steps viewport capture
  refine ⟨⟨steps.map fun step ↦ step.line.toList, ?_, ?_⟩, hread,
    fun others otherViewport otherCapture ↦ ⟨fun hsame ↦ ?_, ?_⟩⟩
  · rw [List.forall₂_map_right_iff, List.forall₂_same]
    exact fun step _ ↦ step.isToldBy_line
  · rw [contentLines_program, programLines_toList]
  · rw [hsame, readProgram?_program] at hread
    cases hread
    exact ⟨rfl, rfl, rfl⟩
  · rintro ⟨rfl, rfl, rfl⟩
    rfl

end Runbook.Screenshot
